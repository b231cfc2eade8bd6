import MarkedShader.Identity
import MarkedShader.Section

/-! Titled, separately editable spans of code. -/
namespace MarkedShader

structure Block where
  title : Text
  code : Text := []
  inSection : Section := .unknown
  intent : Text := []
  referencedParams : List Text := []
  isEnabled : Bool := true
  /-- The 0-based lines of the start and end markers in the text the block was read from. They are
  not kept up to date when that text changes. -/
  startLine : Int := -1
  endLine : Int := -1
  id : Identity
  deriving DecidableEq, Repr

namespace Block

def references (b : Block) (param : Text) : Bool := b.referencedParams.contains param

/-- Record a parameter; one that is already recorded stays where it is. -/
def addParam (b : Block) (param : Text) : Block :=
  if b.references param then b else { b with referencedParams := b.referencedParams ++ [param] }

def containsLine (b : Block) (line : Int) : Bool :=
  0 ≤ b.startLine && b.startLine ≤ line && line ≤ b.endLine

end Block
end MarkedShader
