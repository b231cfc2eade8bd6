import MarkedShader.Text.Lines
import MarkedShader.Text.Word

/-! What is read off the code of a block: its first function, and whether it only declares. -/
namespace MarkedShader
open Text

/-- The head of a function definition. -/
structure Signature where
  returnType : Text
  name : Text
  parameters : Text
  deriving DecidableEq, Repr

namespace Signature

def parameterList (s : Signature) : List Text :=
  if allBlank s.parameters then [] else (s.parameters.splitOn ',').map strip

/-- Scalar and vector types that may have a width from 2 to 4. -/
def sized? (base : Text) (t : Text) : Option (Text × Text) :=
  (after? base t).map fun r => match r with
    | '2' :: s => (base ++ ['2'], s)
    | '3' :: s => (base ++ ['3'], s)
    | '4' :: s => (base ++ ['4'], s)
    | s => (base, s)

def returnType? (t : Text) : Option (Text × Text) :=
  ((after? "void".toList t).map ("void".toList, ·)).or <| (sized? "half".toList t).or <|
    (sized? "float".toList t).or <| (after? "int".toList t).map ("int".toList, ·)

/-- A function head that begins the text. -/
def at? (t : Text) : Option Signature := do
  let (returnType, r) ← returnType? t
  let (name, r) ← word? (← blanks? r)
  let (parameters, _) ← upTo? ')' (← after? ['('] (skipBlanks r))
  some ⟨returnType, name, strip parameters⟩

/-- The first function head; it must not continue a word. -/
def searchFrom (inWord : Bool) : Text → Option Signature
  | [] => none
  | c :: r => match if inWord then none else at? (c :: r) with
    | some s => some s
    | none => searchFrom (isWord c) r

def find? (code : Text) : Option Signature := searchFrom false code

end Signature

/-- A blank or comment line, or one that ends in a semicolon and has no call. -/
def isDeclarationLine (line : Text) : Bool :=
  let body := strip line
  body.isEmpty || body.startsWith "//".toList || (body.getLast? == some ';' && !body.contains '(')

/-- Whether code holds nothing but bare declarations. Empty code does. -/
def isDeclarationOnly (code : Text) : Bool :=
  !code.contains '\x7b' && (code.splitOn '\n').all isDeclarationLine

end MarkedShader
