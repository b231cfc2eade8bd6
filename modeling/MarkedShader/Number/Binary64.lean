import MarkedShader.Number.Decimal

/-! Floating-point numbers of 53 significant bits in exact arithmetic: rounding a decimal to the
nearest one, ties to even, and the shortest decimal that rounds back. -/
namespace MarkedShader

/-- A finite number is `mantissa * 2 ^ exponent`, with the exponent as small as 53 bits and -1074
allow. -/
inductive Binary64
  | finite (negative : Bool) (mantissa : Nat) (exponent : Int)
  | infinite (negative : Bool)
  /-- What is not a number. One that came of a numeral or of arithmetic has a serial. -/
  | nan (serial : Option Nat)
  deriving DecidableEq, Repr

namespace Binary64

def minExponent : Int := -1074

/-- The least mantissa of 53 bits. -/
def leastFull : Nat := 4503599627370496

def maxExponent : Int := 971

def zero (negative : Bool) : Binary64 := .finite negative 0 minExponent

/-- What is not a number, and not told apart from others of its kind yet. -/
def notNumber : Binary64 := .nan (some 0)

/-- Equality of values: the two zeros are equal, and what is not a number equals nothing. -/
def sameValue : Binary64 → Binary64 → Bool
  | .nan _, _ => false
  | .finite _ 0 _, .finite _ 0 _ => true
  | a, b => a == b

/-- `num / den` scaled by `2 ^ -q`, as a numerator and a denominator. -/
def scaled (num den : Nat) (q : Int) : Nat × Nat :=
  if q < 0 then (num * Nat.pow 2 q.natAbs, den) else (num, den * Nat.pow 2 q.natAbs)

def roundHalfEven (num den : Nat) : Nat :=
  let low := num/den
  let twice := 2*(num%den)
  if twice < den then low else if den < twice then low+1 else low + low%2

/-- The number nearest to the positive ratio `num / den`. -/
def ofRatio (negative : Bool) (num den : Nat) : Binary64 :=
  let guess := max ((Nat.log2 num : Int) - Nat.log2 den - 53) minExponent
  let (n, d) := scaled num den guess
  let q := if 2*leastFull ≤ n/d then guess+1 else guess
  let (n, d) := scaled num den q
  let m := roundHalfEven n d
  let (m, q) := if m = 2*leastFull then (leastFull, q+1) else (m, q)
  if maxExponent < q then .infinite negative else .finite negative m q

/-- The number nearest to a decimal. Decimals beyond the range never reach the exact arithmetic. -/
def ofDecimal (negative : Bool) (d : Decimal) : Binary64 :=
  let magnitude := (Decimal.natural d.coefficient).length + d.exponent
  if d.coefficient = 0 || magnitude < -326 then zero negative
  else if 310 < magnitude then .infinite negative
  else if d.exponent < 0 then ofRatio negative d.coefficient (Nat.pow 10 d.exponent.natAbs)
  else ofRatio negative (d.coefficient * Nat.pow 10 d.exponent.natAbs) 1

/-- The number nearest to `m * 2 ^ q`. -/
def ofScaled (negative : Bool) (m : Nat) (q : Int) : Binary64 :=
  if m = 0 then zero negative
  else if q < 0 then ofRatio negative m (Nat.pow 2 q.natAbs)
  else ofRatio negative (m * Nat.pow 2 q.natAbs) 1

def signed (negative : Bool) (m : Nat) : Int := if negative then -(m : Int) else m

/-- Two integers, each with the exponent of a power of two, brought to one exponent. -/
def align (m p n q : Int) : Int × Int × Int :=
  let low := min p q
  (m * Nat.pow 2 (p-low).toNat, n * Nat.pow 2 (q-low).toNat, low)

def neg : Binary64 → Binary64
  | .finite negative m q => .finite (!negative) m q
  | .infinite negative => .infinite (!negative)
  | .nan serial => .nan serial

def add : Binary64 → Binary64 → Binary64
  | .finite a m p, .finite b n q =>
    let (x, y, low) := align (signed a m) p (signed b n) q
    if x+y = 0 then zero (a && b) else ofScaled (x+y < 0) (x+y).natAbs low
  | .infinite a, .infinite b => if a = b then .infinite a else notNumber
  | .nan _, _ | _, .nan _ => notNumber
  | .infinite a, _ | _, .infinite a => .infinite a

def mul : Binary64 → Binary64 → Binary64
  | .finite a m p, .finite b n q => ofScaled (a != b) (m*n) (p+q)
  | .finite a m _, .infinite b | .infinite b, .finite a m _ =>
    if m = 0 then notNumber else .infinite (a != b)
  | .infinite a, .infinite b => .infinite (a != b)
  | .nan _, _ | _, .nan _ => notNumber

/-- A power of two divided by a power of ten, as a numerator and a denominator. -/
def ratioOfPowers (two ten : Int) : Nat × Nat :=
  (Nat.pow 2 two.toNat * Nat.pow 10 (-ten).toNat, Nat.pow 2 (-two).toNat * Nat.pow 10 ten.toNat)

/-- The multiples of `10 ^ grid` next to `m * 2 ^ q` that round to it, the nearer one if both do,
and of two equally near ones the even one. -/
def onGrid? (m : Nat) (q grid : Int) : Option Nat :=
  let (p, r) := ratioOfPowers (q-2) grid
  let value := 4*m*p
  let low := (if m = leastFull && minExponent < q then 4*m-1 else 4*m-2) * p
  let high := (4*m+2) * p
  let below := value/r
  let within := fun t => if m%2 = 0 then low ≤ t*r && t*r ≤ high else low < t*r && t*r < high
  match within below, within (below+1) with
  | true, true =>
    let left := value - below*r
    let right := (below+1)*r - value
    some (if left < right then below else if right < left then below+1 else below + below%2)
  | true, false => some below
  | false, true => some (below+1)
  | false, false => none

/-- The decimal point of `m * 2 ^ q`: at most one more than the number of its digits before the
point. -/
def pointOf (m : Nat) (q : Int) : Int :=
  let guess := ((Nat.log2 m : Int) + q) * 30103 / 100000 + 1
  let (p, r) := ratioOfPowers q guess
  if m*p < r then guess else guess+1

/-- The fewest digits that round back to `m * 2 ^ q`; eighteen always do. -/
def shortest (m : Nat) (q : Int) : Decimal :=
  if m = 0 then ⟨0, 0⟩ else
  let point := pointOf m q
  ((List.range 18).findSome? fun (n : Nat) =>
    let grid := point - (n+1)
    (onGrid? m q grid).map fun t => ⟨t, grid⟩).getD ⟨m * Nat.pow 2 q.toNat, 0⟩

def plain : Binary64 → Text
  | .finite negative m q => (if negative then ['-'] else []) ++ (shortest m q).plain
  | .infinite negative => (if negative then ['-'] else []) ++ "Infinity".toList
  | .nan _ => "NaN".toList

end Binary64
end MarkedShader
