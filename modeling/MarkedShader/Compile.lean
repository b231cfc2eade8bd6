import MarkedShader.Document
import MarkedShader.Number.Numeral

/-! Messages of a shader compiler, and the blocks they belong to. -/
namespace MarkedShader

inductive Severity
  | error | warning
  deriving DecidableEq, Repr

namespace Severity

def name : Severity → Text
  | .error => "error".toList
  | .warning => "warning".toList

def ofName? (t : Text) : Option Severity := [error, warning].find? fun s => s.name = t

@[simp] theorem ofName?_name (s : Severity) : ofName? s.name = some s := by cases s <;> rfl

end Severity

structure CompileMessage where
  message : Text
  /-- 1-based, as compilers count. -/
  line : Nat
  severity : Severity := .error
  deriving DecidableEq, Repr

inductive CompileFault
  | unknownSeverity (word : Text)
  | lineTooLong (digits : Nat)
  deriving DecidableEq, Repr

def CompileFault.message : CompileFault → Text
  | .unknownSeverity word => "'".toList ++ word ++ "' is not a valid Severity".toList
  | .lineTooLong digits => Numeral.limitMessage (some digits)

namespace CompileMessage
open Text

/-- Whether a character counts as a lower-case ASCII letter when case is ignored. Besides the
capital letter these are the dotted and the dotless I for `i`, and the long S for `s`. -/
def isLetter (letter c : Char) : Bool :=
  c.toLower == letter || (letter == 'i' && (c == '\u0130' || c == '\u0131')) ||
    (letter == 's' && c == '\u017F')

/-- As `after?`, but without regard to case; the beginning is given in lower case. -/
def afterAnyCase? : Text → Text → Option Text
  | [], t => some t
  | _ :: _, [] => none
  | l :: lead, c :: t => if isLetter l c then afterAnyCase? lead t else none

def severityWord? (t : Text) : Option (Text × Text) :=
  ["error".toList, "warning".toList].findSome? fun word =>
    (afterAnyCase? word t).map fun r => (t.take word.length, r)

/-- ` at line ` and a number, with what follows the number. -/
def lineNumber? (t : Text) : Option (Text × Text) := do
  run? isDigit (← afterAnyCase? " at line ".toList t)

/-- A text of at least one character, all on one line, that ends before the first line number. -/
def untilLineNumber? : Text → Option (Text × Text × Text)
  | [] => none
  | c :: r =>
    if c = '\n' then none else
    match lineNumber? r with
    | some (number, rest) => some ([c], number, rest)
    | none => (untilLineNumber? r).map fun (t, number, rest) => (c :: t, number, rest)

/-- A message as it stands: the word for its severity, its text and its line number. -/
structure Raw where
  severity : Text
  message : Text
  line : Text
  deriving DecidableEq, Repr

/-- A message that begins the text, and the number of its characters. -/
def at? (t : Text) : Option (Raw × Nat) := do
  let r ← afterAnyCase? "shader ".toList t
  let (severity, r) ← severityWord? r
  let (_, r) ← upTo? '\'' (← afterAnyCase? " in '".toList r)
  let (message, line, rest) ← untilLineNumber? (← after? ": ".toList r)
  some (⟨severity, message, line⟩, t.length - rest.length)

/-- The number that digits of any script write. -/
def lineOf (digits : Text) : Except CompileFault Nat :=
  if Numeral.digitLimit < digits.length then .error (.lineTooLong digits.length)
  else .ok (Numeral.valueOf (digits.filterMap digit?))

def ofRaw (raw : Raw) : Except CompileFault CompileMessage := do
  let line ← lineOf raw.line
  match Severity.ofName? raw.severity.lower with
  | some severity => .ok ⟨strip raw.message, line, severity⟩
  | none => .error (.unknownSeverity raw.severity.lower)

/-- The messages found in the output of a compiler. -/
def read (output : Text) : Except CompileFault (List CompileMessage) :=
  (scan (fun _ => at?) none 0 output).mapM ofRaw

def hasErrors (messages : List CompileMessage) : Bool := messages.any fun m => m.severity = .error

end CompileMessage

/-- An error and the block in whose span it lies. -/
structure LocatedError where
  shaderName : Text
  message : Text
  line : Nat
  block : Option Block := none
  deriving DecidableEq, Repr

namespace Document

/-- The first block whose recorded span holds a 0-based line. -/
def blockAtLine? (d : Document) (line : Int) : Option Position :=
  d.findPosition? fun b => b.containsLine line

/-- The errors among some messages, each with its block. -/
def locate (d : Document) (messages : List CompileMessage) : List LocatedError :=
  (messages.filter fun m => m.severity = .error).map fun m =>
    ⟨d.shaderName, m.message, m.line, (d.blockAtLine? (m.line-1)).bind d.blockAt?⟩

end Document
end MarkedShader
