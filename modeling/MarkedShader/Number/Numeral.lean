import MarkedShader.Number.Binary64
import MarkedShader.Text.Blank
import MarkedShader.Text.Digit

/-! Numerals as they are written by hand: digits of any script, an underscore between two digits,
blanks around the whole. The four separator controls are not among these blanks. -/
namespace MarkedShader.Numeral
open Text

def isMargin (c : Char) : Bool := isBlank c && !(28 ≤ c.toNat && c.toNat ≤ 31)

/-- Digits and what follows them. An underscore is passed over where a digit stands before it and
one after it. -/
def digitsFrom (value? : Char → Option Nat) (afterDigit : Bool) : Text → List Nat × Text
  | [] => ([], [])
  | c :: r => match value? c with
    | some d => let (ds, rest) := digitsFrom value? true r; (d :: ds, rest)
    | none =>
      if afterDigit && c == '_' && r.head?.any (fun d => (value? d).isSome) then
        digitsFrom value? false r else ([], c :: r)

def digits (t : Text) : List Nat × Text := digitsFrom digit? false t

def valueIn (base : Nat) (ds : List Nat) : Nat := ds.foldl (fun n d => base*n+d) 0

def valueOf (ds : List Nat) : Nat := valueIn 10 ds

/-- The value of a digit in a base, which has letters from ten on. -/
def digitIn? (base : Nat) (c : Char) : Option Nat :=
  let letter := c.toLower.toNat
  ((digit? c).or (if 97 ≤ letter && letter ≤ 122 then some (letter-87) else none)).filter (· < base)

def sign : Text → Bool × Text
  | '-' :: r => (true, r)
  | '+' :: r => (false, r)
  | t => (false, t)

/-- Why a text is not read as an integer. -/
inductive IntegerFault
  | notAnInteger (text : Text)
  | tooLong (digits : Nat)
  deriving DecidableEq, Repr

/-- Integers of more digits are refused. -/
def digitLimit : Nat := 4300

/-- What is said of a numeral of too many digits, if it is known how many they are. -/
def limitMessage (digits : Option Nat) : Text :=
  "Exceeds the limit (4300 digits) for integer string conversion".toList ++
    (match digits with
      | some n => ": value has ".toList ++ Decimal.natural n ++ " digits".toList
      | none => []) ++
    "; use sys.set_int_max_str_digits() to increase the limit".toList

/-- Whether an integer has more digits than are written. -/
def isTooLong (i : Int) : Bool := Nat.pow 10 digitLimit ≤ i.natAbs

/-- The letter that stands after a zero before numerals of a base. -/
def baseLetter? (base : Nat) : Option Char := [(2, 'b'), (8, 'o'), (16, 'x')].lookup base

/-- The digits after the zero and the letter of the base, if these stand there. An underscore may
follow them. -/
def afterBase (base : Nat) (t : Text) : Text :=
  match t with
  | '0' :: c :: r =>
    if baseLetter? base = some c.toLower then (match r with
      | '_' :: s => s
      | s => s) else t
  | _ => t

/-- An integer in a base. Too many decimal digits are a fault even if something else follows
them. -/
def integerIn (base : Nat) (t : Text) : Except IntegerFault Int :=
  let (negative, r) := sign (trimBoth isMargin t)
  match digitsFrom (digitIn? base) false (afterBase base r) with
  | ([], _) => .error (.notAnInteger t)
  | (ds, r) =>
    if r.head? = some '_' then .error (.notAnInteger t)
    else if base = 10 && digitLimit < ds.length then .error (.tooLong ds.length)
    else if r.isEmpty then .ok (if negative then -(valueIn base ds) else valueIn base ds)
    else .error (.notAnInteger t)

def integer (t : Text) : Except IntegerFault Int := integerIn 10 t

/-- The power of ten that ends a numeral. -/
def exponent? : Text → Option Int
  | [] => some 0
  | c :: r => if c = 'e' || c = 'E' then
      let (negative, s) := sign r
      match digits s with
      | (d :: ds, []) => some (if negative then -(valueOf (d :: ds)) else valueOf (d :: ds))
      | _ => none
    else none

def fraction : Text → List Nat × Text
  | '.' :: r => digits r
  | t => ([], t)

/-- A decimal fraction with an optional power of ten, `inf`, `infinity` or `nan`. -/
def real? (t : Text) : Option Binary64 :=
  let (negative, r) := sign (trimBoth isMargin t)
  match r.map Char.toLower with
  | ['i','n','f'] => some (.infinite negative)
  | ['i','n','f','i','n','i','t','y'] => some (.infinite negative)
  | ['n','a','n'] => some .notNumber
  | _ =>
    let (whole, r) := digits r
    let (part, r) := fraction r
    if whole.isEmpty && part.isEmpty then none
    else (exponent? r).map fun e => .ofDecimal negative ⟨valueOf (whole ++ part), e - part.length⟩

end MarkedShader.Numeral
