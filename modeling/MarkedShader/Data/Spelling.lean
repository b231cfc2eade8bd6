import MarkedShader.Data
import MarkedShader.Number.Numeral
import MarkedShader.Text.Printable

/-! How a value is spelled in a message. -/
namespace MarkedShader.Data

def hexDigits (width n : Nat) : Text := (Nat.toDigits 16 n).leftpad width '0'

/-- A character between quotes. What is not printable is written by its number. -/
def spellChar (quote c : Char) : Text :=
  if c = quote || c = '\\' then ['\\', c]
  else if c = '\n' then ['\\', 'n']
  else if c = '\r' then ['\\', 'r']
  else if c = '\t' then ['\\', 't']
  else if Text.isPrintable c then [c]
  else if c.toNat < 0x100 then '\\' :: 'x' :: hexDigits 2 c.toNat
  else if c.toNat < 0x10000 then '\\' :: 'u' :: hexDigits 4 c.toNat
  else '\\' :: 'U' :: hexDigits 8 c.toNat

/-- Double quotes around a text that holds single ones only, else single quotes. -/
def quoteFor (t : Text) : Char := if t.contains '\'' && !t.contains '"' then '"' else '\''

def spellText (t : Text) : Text := quoteFor t :: t.flatMap (spellChar (quoteFor t)) ++ [quoteFor t]

/-- Bytes are spelled as a text of the characters that have their numbers, those above ASCII by
number. -/
def spellBytes (bs : List UInt8) : Text :=
  let t := bs.map fun b => Char.ofNat b.toNat
  'b' :: quoteFor t :: (t.flatMap fun c =>
    if c.toNat < 0x80 then spellChar (quoteFor t) c
      else '\\' :: 'x' :: hexDigits 2 c.toNat) ++ [quoteFor t]

/-- The shortest digits of a number, with a power of ten from `1e16` on and below `1e-4`. -/
def spellReal : Binary64 → Text
  | .nan _ => "nan".toList
  | .infinite negative => if negative then "-inf".toList else "inf".toList
  | .finite negative m q =>
    let d := Binary64.shortest m q
    let digits := Text.trimEnd (· == '0') (Decimal.natural d.coefficient)
    let digits := if digits.isEmpty then ['0'] else digits
    let point : Int := (Decimal.natural d.coefficient).length + d.exponent
    let point := if m = 0 then 1 else point
    let body :=
      if -4 < point && point ≤ 16 then
        if point ≤ 0 then "0.".toList ++ List.replicate (-point).toNat '0' ++ digits
        else if digits.length ≤ point.toNat then digits ++
          List.replicate (point.toNat-digits.length) '0' ++ ".0".toList
        else digits.take point.toNat ++ '.' :: digits.drop point.toNat
      else
        let e := point-1
        digits.take 1 ++ (if digits.length ≤ 1 then [] else '.' :: digits.drop 1) ++
          (if e < 0 then "e-".toList else "e+".toList) ++ (Decimal.natural e.natAbs).leftpad 2 '0'
    (if negative then ['-'] else []) ++ body

def commaSeparated (ts : List Text) : Text := List.intercalate ", ".toList ts

def spellDate (d : Date) : Text :=
  "datetime.date(".toList ++ commaSeparated ([d.year, d.month, d.day].map Decimal.natural) ++ [')']

/-- Seconds are left out if they are zero and no microseconds follow. -/
def spellMoment (m : Moment) : Text :=
  let parts := [m.date.year, m.date.month, m.date.day, m.hour, m.minute] ++
    (if m.second = 0 && m.microsecond = 0 then [] else [m.second]) ++
    if m.microsecond = 0 then [] else [m.microsecond]
  let zone := m.offset.map fun offset => "tzinfo=datetime.timezone".toList ++
    if offset = 0 then ".utc".toList else '(' :: CalendarFault.spanText offset ++ [')']
  "datetime.datetime(".toList ++ commaSeparated (parts.map Decimal.natural ++ zone.toList) ++ [')']

/-- A collection that is kept elsewhere stands for itself by its brackets. -/
def spellShape : Shape → Text
  | .list => "[...]".toList
  | .row => "(...)".toList
  | .mapping => "\x7b...\x7d".toList

mutual
def spell : Data → Text
  | null => "None".toList
  | bool value => if value then "True".toList else "False".toList
  | int value => Decimal.integer value
  | real value => spellReal value
  | text value => spellText value
  | bytes value => spellBytes value
  | date value => spellDate value
  | moment value => spellMoment value
  | list items => '[' :: commaSeparated (spellItems items) ++ [']']
  | tuple [d] => '(' :: spell d ++ ",)".toList
  | tuple items => '(' :: commaSeparated (spellItems items) ++ [')']
  | set [] => "set()".toList
  | set items => '\x7b' :: commaSeparated (spellItems items) ++ ['\x7d']
  | mapping entries => '\x7b' :: commaSeparated (spellEntries entries) ++ ['\x7d']
  | madeUp _ => []
  | shared shape _ => spellShape shape
def spellItems : List Data → List Text
  | [] => []
  | d :: ds => spell d :: spellItems ds
def spellEntries : List (Data × Data) → List Text
  | [] => []
  | (key, d) :: es => (spell key ++ ": ".toList ++ spell d) :: spellEntries es
end

/-- As `spell`, but a text, a date or a moment stands for itself. -/
def spellPlain : Data → Text
  | text value => value
  | date value => value.text
  | moment value => value.text
  | d => spell d

end MarkedShader.Data
