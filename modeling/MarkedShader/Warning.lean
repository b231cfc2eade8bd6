import MarkedShader.Number.Decimal

/-! What reading a source finds amiss without giving up. -/
namespace MarkedShader

inductive Problem
  | unnamedProperty
  | duplicateProperty (name : Text)
  | passNotClosed
  | stencilNotClosed
  | structNotClosed
  | blockNotEnded (title : Text)
  /-- Moved to the named pass, or dropped when there is none to take it. -/
  | blockOutside (title : Text) (target : Option Text)
  | structOutside (target : Option Text)
  deriving DecidableEq, Repr

def Problem.message : Problem → Text
  | .unnamedProperty => "Property marker without a name ignored".toList
  | .duplicateProperty name => "Duplicate property '".toList ++ name ++ "' ignored".toList
  | .passNotClosed => "Pass is not closed, range truncated at end of file".toList
  | .stencilNotClosed => "Stencil group is not closed".toList
  | .structNotClosed => "Struct is not closed".toList
  | .blockNotEnded title => "Block '".toList ++ title ++ "' has no end marker, truncated".toList
  | .blockOutside title none =>
    "Block '".toList ++ title ++ "' is outside any pass and was dropped".toList
  | .blockOutside title (some target) =>
    "Block '".toList ++ title ++ "' is outside any pass, attached to pass '".toList ++
      target ++ "'".toList
  | .structOutside none => "Struct outside any pass was dropped".toList
  | .structOutside (some target) =>
    "Struct outside any pass, fields applied to pass '".toList ++ target ++ "'".toList

/-- A problem and its 0-based line. -/
structure Warning where
  line : Nat
  problem : Problem
  deriving DecidableEq, Repr

end MarkedShader
