import MarkedShader.Yaml.Cursor

/-! Scalars of whole lines, kept as they are after `|` and folded after `>`. -/
namespace MarkedShader.Yaml

/-- How the line breaks at the end are kept: none, one or all. -/
inductive Chomping
  | strip | clip | keep
  deriving DecidableEq, Repr

def chomping? (c : Cursor) : Option Chomping :=
  if c.isAt '+' then some .keep else if c.isAt '-' then some .strip else none

def increment? (c : Cursor) : Except Fault (Option Nat) :=
  match c.rest.head? with
  | some x =>
    if x = '0' then .error .invalid
      else .ok (if x.isDigit then some (x.toNat - '0'.toNat) else none)
  | none => .ok none

/-- The indicators of a scalar: chomping and indentation in either order. -/
def indicators (c : Cursor) : Except Fault (Chomping × Option Nat × Cursor) := do
  let (chomping, increment, c) ← match chomping? c with
    | some chomping =>
      let increment ← increment? c.next
      .ok (chomping, increment, if increment.isSome then c.past 2 else c.next)
    | none => match ← increment? c with
      | some n =>
        let chomping := chomping? c.next
        .ok (chomping.getD .clip, some n, if chomping.isSome then c.past 2 else c.next)
      | none => .ok (.clip, none, c)
  if endsPart c.rest then .ok (chomping, increment, c) else .error .invalid

/-- The line breaks before the first line, and the widest column among the blanks before and between
them. -/
def leadingBreaks (fuel widest : Nat) (c : Cursor) : Text × Nat × Cursor :=
  match fuel with
  | 0 => ([], widest, c)
  | fuel+1 =>
    let c := c.spaces.2
    let widest := max widest c.column
    match c.lineBreak? with
    | some (x, c) => let (more, widest, c) := leadingBreaks fuel widest c; (x :: more, widest, c)
    | none => ([], widest, c)

/-- Skip the spaces of an indentation. -/
def pastIndent (indent : Nat) (c : Cursor) : Cursor :=
  c.past ((c.rest.take (indent - c.column)).takeWhile (· == ' ')).length

/-- The line breaks before the next line, up to its indentation. -/
def lineBreaks (indent fuel : Nat) (c : Cursor) : Text × Cursor :=
  match fuel with
  | 0 => ([], c)
  | fuel+1 =>
    let c := pastIndent indent c
    match c.lineBreak? with
    | some (x, c) => let (more, c) := lineBreaks indent fuel c; (x :: more, c)
    | none => ([], c)

/-- What the lines of a scalar come to: the text up to the last line, the break after that, and the
breaks of the empty lines that follow. -/
structure Lines where
  text : Text := []
  lastBreak : Text := []
  breaks : Text
  after : Cursor

/-- The lines from the next one on, with the breaks before it. -/
def linesFrom (isFolded : Bool) (indent fuel : Nat) (breaks : Text) (c : Cursor) : Lines :=
  match fuel with
  | 0 => { breaks, after := c }
  | fuel+1 =>
    if c.column ≠ indent || c.rest.isEmpty then { breaks, after := c } else
    let isFlush (c : Cursor) : Bool := !c.rest.head?.any isGap
    let (line, ended) := c.span (!isBreak ·)
    let lastBreak := (ended.lineBreak?.map fun (x, _) => [x]).getD []
    let (next, after) := lineBreaks indent fuel ((ended.lineBreak?.map (·.2)).getD ended)
    if after.column ≠ indent || after.rest.isEmpty then
      { text := breaks ++ line, lastBreak, breaks := next, after }
    else
      let joint : Text :=
        if isFolded && lastBreak = ['\n'] && isFlush c && isFlush after then
          (if next.isEmpty then [' '] else [])
        else lastBreak
      let more := linesFrom isFolded indent fuel next after
      { more with text := breaks ++ line ++ joint ++ more.text }

/-- The scalar whose mark is next, in a collection at a column. -/
def literal (parent : Int) (fuel : Nat) (c : Cursor) : Except Fault (Text × Cursor) := do
  let (chomping, increment, header) ← indicators c.next
  let body ← header.lineEnd
  let least := (max (parent+1) 1).toNat
  let lines := match increment with
    | some n =>
      let (breaks, first) := lineBreaks (least+n-1) fuel body
      linesFrom (c.isAt '>') (least+n-1) fuel breaks first
    | none =>
      let (breaks, widest, first) := leadingBreaks fuel 0 body
      linesFrom (c.isAt '>') (max least widest) fuel breaks first
  .ok (match chomping with
    | .strip => lines.text
    | .clip => lines.text ++ lines.lastBreak
    | .keep => lines.text ++ lines.lastBreak ++ lines.breaks, lines.after)

end MarkedShader.Yaml
