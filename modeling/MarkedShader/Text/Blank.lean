import MarkedShader.Text.Basic

/-! Blank characters: the controls that separate, and the spaces of Unicode 14. -/
namespace MarkedShader.Text

def isBlank (c : Char) : Bool :=
  let n := c.toNat
  (9 ≤ n && n ≤ 13) || (28 ≤ n && n ≤ 32) || n == 0x85 || n == 0xA0 || n == 0x1680 ||
    (0x2000 ≤ n && n ≤ 0x200A)
    || n == 0x2028 || n == 0x2029 || n == 0x202F || n == 0x205F || n == 0x3000

def allBlank (t : Text) : Bool := t.all isBlank

def skipBlanks (t : Text) : Text := t.dropWhile isBlank

/-- Passes over one or more blanks. -/
def blanks? : Text → Option Text
  | [] => none
  | c :: r => if isBlank c then some (skipBlanks r) else none

def strip (t : Text) : Text := trimBoth isBlank t

def stripEnd (t : Text) : Text := trimEnd isBlank t

end MarkedShader.Text
