import MarkedShader.Number.Binary64

/-! Numbers as a property holds them: an integer stays an integer. -/
namespace MarkedShader

inductive Number
  | int (value : Int)
  | real (value : Binary64)
  deriving DecidableEq, Repr

namespace Number

/-- Positional notation without losing digits: `1e-05` is written `0.00001`. -/
def plain : Number → Text
  | .int i => Decimal.integer i
  | .real x => x.plain

def ofNat (n : Nat) : Number := .real (.ofDecimal false ⟨n, 0⟩)

/-- A finite number as an integer and the exponent of a power of two. -/
def scaled? : Number → Option (Int × Int)
  | .int i => some (i, 0)
  | .real (.finite negative m q) => some (Binary64.signed negative m, q)
  | .real _ => none

/-- The order of values, in which the two zeros are equal. Nothing is comparable with what is not a
number. -/
def le : Number → Number → Bool
  | .real (.nan _), _ | _, .real (.nan _) => false
  | .real (.infinite true), _ | _, .real (.infinite false) => true
  | a, b => match a.scaled?, b.scaled? with
    | some (m, p), some (n, q) => let (x, y, _) := Binary64.align m p n q; x ≤ y
    | _, _ => false

def lt (a b : Number) : Bool := a.le b && !b.le a

/-- Equality of values, whether they are integers or not. -/
def sameValue (a b : Number) : Bool := a.le b && b.le a

end Number
end MarkedShader
