import MarkedShader.RenderState
import MarkedShader.Text.Blank
import MarkedShader.Text.Digit
import MarkedShader.Text.Word

/-! The shapes of source lines that carry meaning without a marker. -/
namespace MarkedShader.Source
open Text

/-- A keyword, blanks, and a non-empty text in quotes. -/
def keywordName? (keyword : String) (line : Text) : Option Text := do
  let (name, _) ← quotedName? (← blanks? (← after? keyword.toList (skipBlanks line)))
  some name

/-- The shader's name, looked for where a line begins. -/
def shaderNameFrom (atStart : Bool) : Text → Option Text
  | [] => none
  | c :: r => match if atStart then keywordName? "Shader" (c :: r) else none with
    | some name => some name
    | none => shaderNameFrom (c == '\n') r

def shaderName? (content : Text) : Option Text := shaderNameFrom true content

def usePass? (line : Text) : Option Text := keywordName? "UsePass" line

def include? (line : Text) : Option Text := keywordName? "#include" line

/-- `Pass` alone on a line, or followed by an opening brace. -/
def opensPass (line : Text) : Bool :=
  match after? "Pass".toList (skipBlanks line) with
  | some r => match skipBlanks r with
    | [] => true
    | c :: _ => c == '\x7b'
  | none => false

def passName? (line : Text) : Option Text := do
  let (name, _) ← quoted? (← blanks? (← after? "Name".toList (skipBlanks line)))
  some name

/-- The value of a light-mode tag anywhere in the line. -/
def lightMode? (line : Text) : Option Text := line.search fun t => do
  let r ← after? "\"LightMode\"".toList t
  let (mode, _) ← quoted? (skipBlanks (← after? ['='] (skipBlanks r)))
  some mode

/-- A keyword that no word character follows. -/
def hasKeyword (keyword : String) (line : Text) : Bool :=
  (after? keyword.toList (skipBlanks line)).any fun r => !r.head?.any isWord

def startsProgram (line : Text) : Bool :=
  hasKeyword "HLSLPROGRAM" line || hasKeyword "CGPROGRAM" line

def endsProgram (line : Text) : Bool := hasKeyword "ENDHLSL" line || hasKeyword "ENDCG" line

/-- A pragma without the blanks around it. If nothing follows the keyword, the blanks after it
stay. -/
def pragma? (line : Text) : Option Text := do
  let r ← after? "#pragma".toList (skipBlanks line)
  let rest ← blanks? r
  some ("#pragma".toList ++ r.takeWhile isBlank ++ stripEnd rest)

/-- The value after a keyword of the render state, which may be a single blank if nothing else is
there. -/
def stateValue? (key : StateKey) (line : Text) : Option Text := do
  let r ← after? key.keyword (skipBlanks line)
  let rest ← blanks? r
  if rest.isEmpty then (if 2 ≤ r.length then some (r.drop (r.length-1)) else none)
    else some (stripEnd rest)

def renderState? (line : Text) : Option (StateKey × Text) :=
  StateKey.all.findSome? fun key => (stateValue? key line).map (key, ·)

def opensStencil (line : Text) : Bool := hasKeyword "Stencil" line

/-- A member of a struct as it is declared. -/
structure Member where
  dataType : Text
  name : Text
  semantic : Text
  deriving DecidableEq, Repr

def member? (line : Text) : Option Member := do
  let (dataType, r) ← word? (skipBlanks line)
  let (name, r) ← word? (← blanks? r)
  let (semantic, r) ← word? (skipBlanks (← after? [':'] (skipBlanks r)))
  let _ ← after? [';'] (skipBlanks r)
  some ⟨dataType, name, semantic⟩

def opensStruct (name t : Text) : Bool :=
  ((after? name t).map skipBlanks).any fun r => r.head? == some '\x7b'

/-- What may follow one or more blanks at the beginning, the most blanks first. -/
def afterSomeBlanks (t : Text) : List Text :=
  (List.range (t.takeWhile isBlank).length).reverse.map fun n => t.drop (n+1)

/-- Whether a line opens the input struct (`true`) or the output struct (`false`). A name of a
struct may begin with blanks itself. -/
def struct? (inputStruct outputStruct line : Text) : Option Bool := line.search fun t => do
  (afterSomeBlanks (← after? "struct".toList t)).findSome? fun r =>
    if opensStruct inputStruct r then some true
      else if opensStruct outputStruct r then some false else none

/-- What follows the bracketed attributes that begin a stripped line. -/
def afterBrackets (inside : Bool) : Text → Text
  | [] => []
  | c :: r =>
    if inside then afterBrackets (c != ']') r
    else if c = '[' then afterBrackets true r
    else if isBlank c then afterBrackets false r
    else c :: r

/-- Whether a stripped line declares a property: attributes, a name and an opening parenthesis. -/
def isPropertyDeclaration (line : Text) : Bool :=
  match word? (afterBrackets false line) with
  | some (_, r) => (skipBlanks r).head? == some '('
  | none => false

/-- The built-in texture that a declaration names. -/
def defaultTexture? (declaration : Text) : Option Text := declaration.search fun t => do
  let r ← after? ['"'] (skipBlanks (← after? ['='] t))
  let rest ← after? ['"'] (r.dropWhile isWord)
  let rest ← after? ['\x7b'] (skipBlanks rest)
  let _ ← after? ['\x7d'] (skipBlanks rest)
  some (r.takeWhile isWord)

/-- A semantic that the writer assigns by position. -/
def isPositional (semantic : Text) : Bool :=
  (after? "TEXCOORD".toList semantic).any fun r => !r.isEmpty && r.all isDigit

end MarkedShader.Source
