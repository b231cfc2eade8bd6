import MarkedShader.Data.Store
import MarkedShader.Yaml.Scalar

/-! Plain data as a YAML document in block style. -/
namespace MarkedShader.Yaml

def margin (level : Nat) : Text := List.replicate (2*level) ' '

/-- A longer key is marked as one. -/
def keyWidth : Nat := 120

/-- A key with the colon after it. -/
def writeKeyMark (level : Nat) (key : Data) : Text :=
  let marked (t : Text) : Text := '?' :: ' ' :: t ++ '\n' :: margin level ++ [':']
  if isMultiline key then marked (writeScalar (writeText (margin (level+1))) key)
  else
    let t := writeKey key
    if t.length ≤ keyWidth then t ++ [':'] else marked t

/-- How deep values can be that are written. -/
def writingLimit : Nat := 320

/-- Writing takes note of the kept collections that have been written. -/
abbrev Writing := StateT (List Nat) (Except Data.Fault)

def deepen (level : Nat) : Writing Unit := if writingLimit < level then throw .tooDeep else return

/-- A scalar or a set can be written if its integers can. -/
def checkDigits (d : Data) : Writing Unit := if d.isTooLong then throw .integerTooLong else return

/-- The members of a set are keys without values. -/
def writeMembers (level : Nat) : List Data → Text
  | [] => []
  | d :: ds => margin level ++ writeKeyMark level d ++ " null\n".toList ++ writeMembers level ds

mutual
/-- A value after a key or dash, from the blank or line break before it to its last line break.
`kept` writes what is kept elsewhere. -/
def writeValue (kept : Nat → Data → Writing Text) (level : Nat) : Data → Writing Text
  | .list [] | .tuple [] => return " []\n".toList
  | .list items => return '\n' :: (← writeItems kept level items)
  | .tuple items => return '\n' :: (← writeItems kept level items)
  | .set [] => return " !!set \x7b\x7d\n".toList
  | .set items => do
    checkDigits (.set items)
    return " !!set\n".toList ++ writeMembers level items
  | .mapping [] => return " \x7b\x7d\n".toList
  | .mapping entries => return '\n' :: (← writeEntries kept level entries)
  | .shared shape serial => kept level (.shared shape serial)
  | d => do
    checkDigits d
    return ' ' :: writeScalar (writeText (margin (level+1))) d ++ ['\n']
def writeItems (kept : Nat → Data → Writing Text) (level : Nat) : List Data → Writing Text
  | [] => return []
  | d :: ds => do
    deepen level
    let t ← writeValue kept (level+1) d
    return margin level ++ '-' :: t ++ (← writeItems kept level ds)
def writeEntries (kept : Nat → Data → Writing Text) (level : Nat) :
    List (Data × Data) → Writing Text
  | [] => return []
  | (key, d) :: es => do
    deepen level
    checkDigits key
    let t ← writeValue kept (level+1) d
    return margin level ++ writeKeyMark level key ++ t ++ (← writeEntries kept level es)
end

/-- A kept collection is written under its serial in the first place where it stands, and by its
serial in others. -/
def writeShared (s : Store) : Nat → Nat → Data → Writing Text
  | 0, _, _ => throw .tooDeep
  | depth+1, level, d => match d.serial? with
    | none => return []
    | some serial => do
      let name := Decimal.natural serial
      if (← get).contains serial then return ' ' :: '*' :: name ++ ['\n']
      modify (serial :: ·)
      return ' ' :: '&' :: name ++ (← writeValue (writeShared s depth) level (s.view d))

/-- The YAML document of some data. -/
def write (s : Store) (d : Data) : Except Data.Fault Text :=
  let kept := writeShared s writingLimit
  (match d with
    | .mapping (e :: es) => writeEntries kept 0 (e :: es)
    | .list (d :: ds) => writeItems kept 0 (d :: ds)
    | d => return (← writeValue kept 0 d).drop 1).run' []

end MarkedShader.Yaml
