import MarkedShader.Yaml.Cursor

/-! What a scalar without a tag stands for, and how the kinds of YAML 1.1 are read. -/
namespace MarkedShader.Yaml
open Text

/-- The kinds of nodes that YAML names. -/
inductive Kind
  | null | bool | int | real | bytes | moment | text
  | list | mapping | set | pairs
  /-- A key whose value is a mapping to be taken over. -/
  | merge
  /-- The key of a default value. -/
  | default
  | unknown
  deriving DecidableEq, Repr

namespace Kind

/-- What the tags of YAML's own kinds begin with. -/
def tagPrefix : Text := "tag:yaml.org,2002:".toList

def names : List (String × Kind) := [
  ("null", null), ("bool", bool), ("int", int), ("float", real), ("binary", bytes),
  ("timestamp", moment), ("str", text),
  ("seq", list), ("map", mapping), ("set", set), ("omap", pairs), ("pairs", pairs),
  ("merge", merge), ("value", default)]

def ofTag (tag : Text) : Kind :=
  ((after? tagPrefix tag).bind fun name =>
    (names.find? fun (n, _) => n.toList = name).map (·.2)).getD unknown

end Kind

def isOneOf (words : List String) (t : Text) : Bool := words.any fun w => w.toList = t

def trueWords : List String := ["yes", "Yes", "YES", "true", "True", "TRUE", "on", "On", "ON"]
def falseWords : List String := ["no", "No", "NO", "false", "False", "FALSE", "off", "Off", "OFF"]
def nullWords : List String := ["", "~", "null", "Null", "NULL"]

def isPadded (p : Char → Bool) (c : Char) : Bool := p c || c == '_'

/-- A digit, and then digits and underscores. -/
def isNumeral (t : Text) : Bool := t.head?.any Char.isDigit && t.all (isPadded Char.isDigit)

/-- A part of a number counted in sixties. -/
def isSixtieth (t : Text) : Bool :=
  match t with
  | [a] => a.isDigit
  | [a, b] => '0' ≤ a && a ≤ '5' && b.isDigit
  | _ => false

/-- Whether parts between colons make a number counted in sixties. -/
def isSixties (t : Text) : Bool :=
  match t.splitOn ':' with
  | first :: part :: parts => isNumeral first && (part :: parts).all isSixtieth
  | _ => false

def isInteger (t : Text) : Bool :=
  let (_, r) := Numeral.sign t
  match r with
  | '0' :: 'b' :: s => !s.isEmpty && s.all (isPadded fun c => c == '0' || c == '1')
  | '0' :: 'x' :: s => !s.isEmpty && s.all (isPadded isHex)
  | '0' :: s => s.all (isPadded fun c => '0' ≤ c && c ≤ '7')
  | s => isNumeral s || isSixties s

/-- A power of ten, which has to have a sign. -/
def isPower (t : Text) : Bool :=
  match t with
  | [] => true
  | 'e' :: s :: d :: r | 'E' :: s :: d :: r => (s == '+' || s == '-') && (d :: r).all Char.isDigit
  | _ => false

/-- A number that begins with its point has no sign, unless it is infinite. -/
def isReal (t : Text) : Bool :=
  let (_, r) := Numeral.sign t
  isOneOf [".inf", ".Inf", ".INF"] r || isOneOf [".nan", ".NaN", ".NAN"] t ||
  match upTo? '.' r with
  | none => false
  | some (whole, s) =>
    let power := s.dropWhile (isPadded Char.isDigit)
    if whole.isEmpty then r == t && s.head?.any Char.isDigit && isPower power
    else (isNumeral whole && isPower power) || (isSixties whole && power.isEmpty)

/-- Digits at the beginning, at least and at most some. -/
def digitsOf? (least most : Nat) (t : Text) : Option (Nat × Text) :=
  let digits := (t.take most).takeWhile Char.isDigit
  if digits.length < least then none
  else some (Numeral.valueIn 10 (digits.filterMap (Numeral.digitIn? 10)), t.drop digits.length)

/-- A mark, and digits after it. -/
def markedDigits? (mark : Char) (least most : Nat) (t : Text) : Option (Nat × Text) := do
  digitsOf? least most (← after? [mark] t)

/-- The first six digits of a fraction count. -/
def microseconds (digits : Text) : Nat :=
  Numeral.valueIn 10 (((digits.take 6).rightpad 6 '0').filterMap (Numeral.digitIn? 10))

/-- An offset in minutes: `Z`, or a sign with hours and perhaps minutes. -/
def offset? (t : Text) : Option Int :=
  match t with
  | ['Z'] => some 0
  | s :: r =>
    if s ≠ '+' && s ≠ '-' then none else do
    let (hours, r) ← digitsOf? 1 2 r
    let (minutes, r) ← if r.isEmpty then some (0, r) else markedDigits? ':' 2 2 r
    if !r.isEmpty then none else some (Binary64.signed (s == '-') (hours*60+minutes))
  | [] => none

/-- A date alone, or with a time of the day after a `T` or blanks. -/
def calendar? (t : Text) : Option (Date ⊕ Moment) := do
  let (year, r) ← digitsOf? 4 4 t
  let (month, r) ← markedDigits? '-' 1 2 r
  let (day, r) ← markedDigits? '-' 1 2 r
  let date : Date := ⟨year, month, day⟩
  if r.isEmpty then return .inl date
  let time ← match r with
    | 'T' :: s | 't' :: s => some s
    | s => if s.head?.any isGap then some (s.dropWhile isGap) else none
  let (hour, r) ← digitsOf? 1 2 time
  let (minute, r) ← markedDigits? ':' 2 2 r
  let (second, r) ← markedDigits? ':' 2 2 r
  let (microsecond, r) := match r with
    | '.' :: s => (microseconds (s.takeWhile Char.isDigit), s.dropWhile Char.isDigit)
    | s => (0, s)
  let zone := r.dropWhile isGap
  if zone.isEmpty then
    (if r.isEmpty then some (.inr ⟨date, hour, minute, second, microsecond, none⟩) else none)
  else (offset? zone).map fun offset => .inr ⟨date, hour, minute, second, microsecond, some offset⟩

/-- Whether a text without a tag is a date or a moment. A date alone has two digits for its month
and its day. -/
def isCalendar (t : Text) : Bool :=
  match calendar? t with
  | some (.inl _) => t.length = 10
  | some (.inr _) => true
  | none => false

/-- A text without one line feed at its end. -/
def withoutBreak (t : Text) : Text := if t.getLast? = some '\n' then t.dropLast else t

/-- The kind of a plain text. A line feed at its end does not count, unless nothing is before it. -/
def Kind.resolve (t : Text) : Kind :=
  let s := if t = ['\n'] then t else withoutBreak t
  if isOneOf trueWords s || isOneOf falseWords s then .bool
  else if isReal s then .real
  else if isInteger s then .int
  else if s = ['<', '<'] then .merge
  else if isOneOf nullWords s then .null
  else if isCalendar s then .moment
  else if s = ['='] then .default
  else if isOneOf ["!", "&", "*"] s then .unknown
  else .text

end MarkedShader.Yaml
