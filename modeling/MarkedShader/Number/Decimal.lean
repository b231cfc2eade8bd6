import MarkedShader.Text.Basic

/-! Decimal numerals and their plain notation, which has neither exponent nor superfluous zeros. -/
namespace MarkedShader

/-- The number `coefficient * 10 ^ exponent`. -/
structure Decimal where
  coefficient : Nat
  exponent : Int
  deriving DecidableEq, Repr

namespace Decimal

def natural (n : Nat) : Text := Nat.toDigits 10 n

def integer (i : Int) : Text := if i < 0 then '-' :: natural i.natAbs else natural i.natAbs

/-- The digits before the point and the `places` digits after it. -/
def splitAtPoint (places : Nat) (digits : Text) : Text × Text :=
  let padded := List.replicate (places+1-digits.length) '0' ++ digits
  padded.splitAt (padded.length-places)

/-- Positional notation. Zeros at the end of the fraction are left out, and the point with them. -/
def plain (d : Decimal) : Text :=
  match d.exponent with
  | .ofNat zeros => natural d.coefficient ++ List.replicate zeros '0'
  | .negSucc places =>
    let (whole, fraction) := splitAtPoint (places+1) (natural d.coefficient)
    let kept := Text.trimEnd (· == '0') fraction
    if kept.isEmpty then whole else whole ++ '.' :: kept

end Decimal
end MarkedShader
