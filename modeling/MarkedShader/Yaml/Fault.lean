import MarkedShader.Calendar
import MarkedShader.Data.Spelling
import MarkedShader.Number.Numeral

/-! What can be wrong with a YAML document. -/
namespace MarkedShader

/-- How much of a text that is no integer is shown, its quotes included. -/
def Numeral.shownLength : Nat := 200

/-- What is said of a value that is no integer in a base, by its spelling. -/
def Numeral.literalMessage (base : Nat) (spelling : Text) : Text :=
  "invalid literal for int() with base ".toList ++ Decimal.natural base ++ ": ".toList ++
    spelling.take shownLength

def Numeral.IntegerFault.message (base : Nat) : Numeral.IntegerFault → Text
  | .notAnInteger t => Numeral.literalMessage base (Data.spellText t)
  | .tooLong digits => Numeral.limitMessage (some digits)

namespace Yaml

inductive Fault
  /-- The text is not a YAML document, or holds what is not plain data. -/
  | invalid
  /-- An escape names a code beyond the last character. -/
  | codeBeyond
  | badInteger (base : Nat) (fault : Numeral.IntegerFault)
  | badReal (text : Text)
  /-- A number is asked of an empty text. -/
  | emptyNumber
  | unknownTruth (word : Text)
  /-- A part of a number counted in sixties weighs more than any number. -/
  | tooLarge
  | badMoment
  /-- A moment is to be read off a mapping. -/
  | noText
  | badCalendar (fault : CalendarFault)
  /-- A collection stands in too many others. -/
  | tooDeep
  deriving DecidableEq, Repr

/-- What is said of a fault, if something is. -/
def Fault.message? : Fault → Option Text
  | invalid | tooLarge | badMoment | noText | tooDeep => none
  | codeBeyond => some "chr() arg not in range(0x110000)".toList
  | badInteger base fault => some (fault.message base)
  | badReal t => some ("could not convert string to float: ".toList ++ Data.spellText t)
  | emptyNumber => some "string index out of range".toList
  | unknownTruth word => some word
  | badCalendar fault => some fault.message

end Yaml
end MarkedShader
