import MarkedShader.Yaml.Quoted

/-! Scalars without quotes. -/
namespace MarkedShader.Yaml

def startsPlain (flow : Bool) : Text → Bool
  | [] => false
  | c :: r =>
    !(isGap c || isBreak c || "-?:,[]\x7b\x7d#&*!|>'\"%@`".toList.contains c) ||
      (!endsToken r && (c == '-' || (!flow && (c == '?' || c == ':'))))

/-- The part of a scalar up to the next blank or line break. -/
def plainPiece (flow : Bool) : Text → Text
  | [] => []
  | c :: r =>
    if isGap c || isBreak c ||
      (c == ':' && (endsToken r || (flow && r.head?.any ",[]\x7b\x7d".toList.contains))) ||
        (flow && ",?[]\x7b\x7d".toList.contains c) then []
    else c :: plainPiece flow r

/-- Line breaks after the first one; `none` if a document marker comes after one of them. -/
def plainBreaks (fuel : Nat) (c : Cursor) : Option Text × Cursor :=
  match fuel with
  | 0 => (none, c)
  | fuel+1 =>
    if isDocumentMarker c.rest then (none, c) else
    let c := c.spaces.2
    match c.lineBreak? with
    | some (x, c) => let (more, c) := plainBreaks fuel c; (more.map (x :: ·), c)
    | none => (some [], c)

/-- What stands between two pieces of a scalar, and whether it crosses lines. -/
def plainGap (fuel : Nat) (c : Cursor) : Text × Bool × Cursor :=
  let (blanks, c) := c.spaces
  match c.lineBreak? with
  | some (x, c) =>
    let (more, c) := plainBreaks fuel c
    ((more.map (folded x)).getD [], true, c)
  | none => (blanks, false, c)

/-- The pieces of a scalar from the next one on, with the gaps between them. `crossed` says whether
the gap before it crosses lines, and in the answer whether the last gap does. -/
def plainFrom (flow : Bool) (indent : Int) (fuel : Nat) (gap : Text) (crossed : Bool) (c : Cursor) :
    Text × Bool × Cursor :=
  match fuel with
  | 0 => ([], crossed, c)
  | fuel+1 =>
    let piece := if c.isAt '#' then [] else plainPiece flow c.rest
    if piece.isEmpty then ([], crossed, c) else
    let (next, crossed, c) := plainGap fuel (c.past piece.length)
    if next.isEmpty || (!flow && c.column ≤ indent) then (gap ++ piece, crossed, c)
    else
      let (more, crossed, c) := plainFrom flow indent fuel next crossed c
      (gap ++ piece ++ more, crossed, c)

/-- The scalar that begins at a place, in a collection at a column. -/
def plain (flow : Bool) (indent : Int) (fuel : Nat) (c : Cursor) : Text × Bool × Cursor :=
  plainFrom flow indent fuel [] false c

end MarkedShader.Yaml
