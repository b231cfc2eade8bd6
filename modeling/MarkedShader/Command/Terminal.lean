import MarkedShader.Text.Basic

/-! What reaches a standard output that is no terminal: a text without the sequences that control
one. -/
namespace MarkedShader.Command
open Text

def isControlParameter (c : Char) : Bool := c.isDigit || c == ';' || c == '?'

/-- The length of a control sequence that begins a text: an escape character, a bracket, parameters
and a letter. -/
def controlLength? (t : Text) : Option Nat := do
  match (← after? ['\x1b', '['] t).dropWhile isControlParameter with
  | c :: rest => if c.isAlpha then some (t.length - rest.length) else none
  | [] => none

/-- The first character of a text, or none for a control sequence, and how many characters that
takes. -/
def unit? (t : Text) : Option (Option Char × Nat) :=
  match controlLength? t with
  | some n => some (none, n)
  | none => t.head?.map (some ·, 1)

/-- A text without its control sequences. -/
def uncontrolled (t : Text) : Text := (scan (fun _ => unit?) none 0 t).filterMap id

end MarkedShader.Command
