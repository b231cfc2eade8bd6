import MarkedShader.Number.Numeral
import MarkedShader.Source.Shape
import MarkedShader.Text.Lines

/-! Stencil groups, on one line or several. -/
namespace MarkedShader.Source
open Text

/-- The number of lines of a group, counted up to the line that closes it, and whether there is
one. -/
def stencilExtent (depth : Int) (opened : Bool) : List Text → Nat × Bool
  | [] => (0, false)
  | l :: ls =>
    let depth := depth + braceDelta l
    let opened := opened || l.contains '\x7b'
    if depth ≤ 0 && opened then (1, true)
    else let (n, closed) := stencilExtent depth opened ls; (n+1, closed)

/-- A word read as an integer; one that cannot be read keeps the old value. -/
def integerOr (old : Int) (word : Text) : Int :=
  match Numeral.integer word with
  | .ok n => n
  | .error _ => old

/-- The keywords of a group, each with the change that its value makes. -/
def stencilEntries : List (Text × (Text → Stencil → Stencil)) := [
  ("Ref".toList, fun v s => { s with ref := integerOr s.ref v }),
  ("Comp".toList, fun v s => { s with comp := v }),
  ("Pass".toList, fun v s => { s with passOp := v }),
  ("Fail".toList, fun v s => { s with failOp := v }),
  ("ZFail".toList, fun v s => { s with zfailOp := v }),
  ("ReadMask".toList, fun v s => { s with readMask := integerOr s.readMask v }),
  ("WriteMask".toList, fun v s => { s with writeMask := integerOr s.writeMask v })]

/-- A keyword that continues no word, blanks, and a word. -/
def stencilEntry? (before : Option Char) (t : Text) : Option ((Stencil → Stencil) × Nat) :=
  if before.any isWord then none else
  stencilEntries.findSome? fun (keyword, change) => do
    let (value, rest) ← word? (← blanks? (← after? keyword t))
    some (change value, t.length - rest.length)

/-- The stencil that the lines of a group describe. -/
def stencilOf (ls : List Text) : Stencil :=
  let body := (search (after? "Stencil".toList) (List.intercalate [' '] ls)).getD []
  (scan stencilEntry? none 0 body).foldl (fun s change => change s) {}

end MarkedShader.Source
