import MarkedShader.Data.Store
import MarkedShader.Yaml.Fault

/-! What can be wrong with a document record. -/
namespace MarkedShader

inductive RecordFault
  | notMapping
  | version (found : Data)
  | missingKey (key : Text)
  | unknownStage (found : Data)
  | unknownName (found : Data) (kind : Text)
  | notAnInteger (found : Data)
  /-- An integer of too many digits, if it is known how many they are. -/
  | integerTooLong (digits : Option Nat)
  | notANumber
  | badPair (index length : Nat)
  /-- A value of the wrong kind, or a part that an item does not have. -/
  | wrongShape
  | yaml (fault : Yaml.Fault)
  /-- A value is wrong that cannot be spelled. -/
  | unspellable (fault : Data.Fault)
  /-- A part is asked of a value that has no parts. -/
  | noParts
  /-- An infinite number stands for an integer. -/
  | infinite
  deriving Repr

namespace RecordFault

/-- The faults that are not reported as faults of the record. -/
def escapes : RecordFault → Bool
  | unspellable _ | noParts | infinite => true
  | yaml fault => fault ≠ .invalid
  | _ => false

def headline : RecordFault → Text
  | notMapping => "Document record must be a mapping".toList
  | version found => "Unsupported record version: ".toList ++ found.spellPlain
  | yaml _ => "Invalid YAML document record".toList
  | unspellable _ => Numeral.limitMessage none
  | _ => "Malformed document record".toList

def context? : RecordFault → Option Text
  | version _ => some "expected 1".toList
  | missingKey key => some (Data.spellText key)
  | unknownStage found => some found.spell
  | unknownName found kind =>
    some (found.spell ++ " is not a valid ".toList ++ kind)
  | notAnInteger found => some (Numeral.literalMessage 10 found.spell)
  | integerTooLong digits => some (Numeral.limitMessage digits)
  | notANumber => some "cannot convert float NaN to integer".toList
  | badPair index length =>
    some ("dictionary update sequence element #".toList ++ Decimal.natural index ++
      " has length ".toList ++ Decimal.natural length ++ "; 2 is required".toList)
  | _ => none

def message (fault : RecordFault) : Text :=
  match fault.context? with
  | some context => fault.headline ++ "\nContext: ".toList ++ context
  | none => fault.headline

end RecordFault
end MarkedShader
