import MarkedShader.Text.Base64
import MarkedShader.Yaml.Resolve

/-! How scalars are written. -/
namespace MarkedShader.Yaml

/-- A number is written with a point, so that it is not taken for a text. -/
def writeReal : Binary64 → Text
  | .nan _ => ".nan".toList
  | .infinite negative => if negative then "-.inf".toList else ".inf".toList
  | x =>
    let t := Data.spellReal x
    if t.contains '.' then t else t.takeWhile (· != 'e') ++ ".0".toList ++ t.dropWhile (· != 'e')

/-- Characters that stand for themselves in single quotes. -/
def isOrdinary (c : Char) : Bool :=
  let n := c.toNat
  n == 0x0A || (0x20 ≤ n && n ≤ 0x7E) || n == 0x85 || (0xA0 ≤ n && n ≤ 0xFFFD && n != 0xFEFF) ||
    (0x10000 ≤ n && n < 0x10FFFF)

/-- Whether a space and a line break stand side by side. -/
def hasSpacedBreak : Text → Bool
  | a :: b :: r => (a == ' ' && isBreak b) || (isBreak a && b == ' ') || hasSpacedBreak (b :: r)
  | _ => false

/-- In single quotes a line break that begins a run of them is written twice, as one break is read
as a space. -/
def singleQuotedFrom (margin : Text) (inBreaks : Bool) : Text → Text
  | [] => if inBreaks then margin else []
  | c :: r =>
    if isBreak c then
      (if !inBreaks && c == '\n' then ['\n'] else []) ++ c :: singleQuotedFrom margin true r
    else
      (if inBreaks then margin else []) ++ (if c = '\'' then "''".toList else [c]) ++
        singleQuotedFrom margin false r

/-- The character in double quotes. -/
def escapedChar (c : Char) : Text :=
  let n := c.toNat
  if c = '"' || c = '\\' then ['\\', c]
  else if c = '\n' then ['\\', 'n']
  else if c = '\t' then ['\\', 't']
  else if isOrdinary c && !isBreak c then [c]
  else if n < 0x100 then '\\' :: 'x' :: Data.hexDigits 2 n
  else if n < 0x10000 then '\\' :: 'u' :: Data.hexDigits 4 n
  else '\\' :: 'U' :: Data.hexDigits 8 n

def doubleQuoted (t : Text) : Text := '"' :: t.flatMap escapedChar ++ ['"']

/-- A text in single quotes if it can be, else in double quotes. -/
def writeText (margin t : Text) : Text :=
  if t.all isOrdinary && !hasSpacedBreak t then '\'' :: singleQuotedFrom margin false t ++ ['\'']
    else doubleQuoted t

/-- Names that can stand without quotes and are not read as anything but a text. -/
def isPlainName (t : Text) : Bool :=
  !t.isEmpty && t.all (fun c => c.isLower || c == '_') && Kind.resolve t = .text

/-- A scalar on one line, with `quoted` for a text. -/
def writeScalar (quoted : Text → Text) : Data → Text
  | .bool value => if value then "true".toList else "false".toList
  | .int value => Decimal.integer value
  | .real value => writeReal value
  | .text value => quoted value
  | .bytes value => "!!binary ".toList ++ doubleQuoted (Text.Base64.encode value)
  | .date value => value.text
  | .moment value => value.text
  | _ => "null".toList

/-- A key of one line that can only be a text, or any other scalar. -/
def writeKey (key : Data) : Text :=
  writeScalar (fun t => if isPlainName t then t else doubleQuoted t) key

def isMultiline : Data → Bool
  | .text t => t.any isBreak
  | _ => false

end MarkedShader.Yaml
