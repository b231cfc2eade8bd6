import MarkedShader.Text.Blank

/-! Lines of code and their indentation. A tab is as wide as four spaces. -/
namespace MarkedShader.Text

def unifyBreaks : Text → Text
  | [] => []
  | '\r' :: '\n' :: r => '\n' :: unifyBreaks r
  | c :: r => c :: unifyBreaks r

/-- The lines of a text; a carriage return before a line feed belongs to the line break. -/
def lines (t : Text) : List Text := (unifyBreaks t).splitOn '\n'

def tabWidth : Nat := 4

def indentWidth : Text → Nat
  | ' ' :: r => indentWidth r + 1
  | '\t' :: r => indentWidth r + tabWidth
  | _ => 0

/-- Drop leading spaces and tabs until the given width is used up. A tab may use up more than is
left. -/
def dropIndent : Nat → Text → Text
  | 0, t => t
  | n+1, ' ' :: r => dropIndent n r
  | n+1, '\t' :: r => dropIndent (n+1-tabWidth) r
  | _+1, t => t

/-- Remove the common indentation. Blank lines become empty and do not count for the minimum. -/
def dedentLines (ls : List Text) : List Text :=
  let cleaned := ls.map (trimEnd (· == '\r'))
  match ((cleaned.filter fun l => !allBlank l).map indentWidth).min? with
  | none => cleaned.map fun _ => []
  | some common => cleaned.map fun l => if allBlank l then [] else dropIndent common l

@[simp] theorem length_dedentLines (ls : List Text) : (dedentLines ls).length = ls.length := by
  simp only [dedentLines]
  split <;> simp

/-- Remove the common indentation and the line breaks at both ends. -/
def dedent (code : Text) : Text :=
  trimBoth (· == '\n') (joinLines (dedentLines (code.splitOn '\n')))

/-- Remove one comment mark that opens the line, keeping the blanks before it. -/
def uncomment (line : Text) : Text :=
  let body := skipBlanks line
  match after? "// ".toList body with
  | some rest => line.takeWhile isBlank ++ rest
  | none => if stripEnd body = "//".toList then [] else line

/-- The part of a line before its comment. -/
def beforeComment : Text → Text
  | [] => []
  | '/' :: '/' :: _ => []
  | c :: r => c :: beforeComment r

/-- Opening minus closing braces outside the comment. -/
def braceDelta (line : Text) : Int :=
  (beforeComment line).count '\x7b' - (beforeComment line).count '\x7d'

end MarkedShader.Text
