import MarkedShader.Text.Basic

/-! Indented lines of generated text. Blank lines between lines are never doubled; verbatim lines
are left alone. -/
namespace MarkedShader

inductive Layout
  | empty
  /-- An empty text asks for a blank line. -/
  | line (t : Text)
  | verbatim (ls : List Text)
  | indented (body : Layout)
  | seq (first second : Layout)
  deriving DecidableEq, Repr, Inhabited

namespace Layout
open Text (joinLines)

instance : Append Layout := ⟨seq⟩

def blank : Layout := line []

def concat : List Layout → Layout
  | [] => empty
  | l :: ls => l ++ concat ls

def ofLines (ts : List Text) : Layout := concat (ts.map line)

/-- A scope in braces, opened on its header line. -/
def block (header closer : Text) (body : Layout) : Layout :=
  line (header ++ " \x7b".toList) ++ indented body ++ line closer

def scope (header : Text) (body : Layout) : Layout := block header ['\x7d'] body

def margin (indent : Text) (level : Nat) : Text := (List.replicate level indent).flatten

/-- Whether the last of the lines so far is not empty, after some more. -/
def filledAfter (filled : Bool) (ls : List Text) : Bool :=
  match ls.getLast? with
  | none => filled
  | some l => !l.isEmpty

/-- The lines of a layout at a level of indentation. `filled` says whether there is a line before it
that is not empty. -/
def lines (indent : Text) (level : Nat) (filled : Bool) : Layout → List Text
  | empty => []
  | line t => if t.isEmpty then (if filled then [[]] else []) else [margin indent level ++ t]
  | verbatim ls => ls.map fun l => if l.isEmpty then [] else margin indent level ++ l
  | indented body => lines indent (level+1) filled body
  | seq first second =>
    let before := lines indent level filled first
    before ++ lines indent level (filledAfter filled before) second

/-- The whole text, ended by a line break. -/
def text (indent : Text) (l : Layout) : Text := joinLines (lines indent 0 false l) ++ ['\n']

end Layout
end MarkedShader
