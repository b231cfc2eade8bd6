import MarkedShader.Code
import MarkedShader.Document

/-! Code that comes from a generator: taking it out of a response, finding its section and storing
it; and what the generator is told about a document. -/
namespace MarkedShader
open Text

namespace Generated

def fence : Text := "```".toList

def isTagCharacter (c : Char) : Bool := isWord c || c == '+' || c == '-'

/-- The text from the line after an opening fence that begins the text to the next fence. -/
def fenced? (t : Text) : Option Text := do
  let r ← after? fence t
  let r ← after? ['\n'] ((r.dropWhile isTagCharacter).dropWhile fun c => c == ' ' || c == '\t')
  let rest ← search (after? fence) r
  some (r.take (r.length - rest.length - fence.length))

/-- The first fenced part of a response, or all of it. -/
def code (response : Text) : Text :=
  match search fenced? response with
  | some inner => trimBoth (· == '\n') inner
  | none => strip response

/-- The section that code belongs to by its first function. -/
def sectionOf (code : Text) : Section :=
  if isDeclarationOnly code then .constants else
  match Signature.find? code with
  | none => .unknown
  | some s => match s.parameterList with
    | [param] =>
      if param.startsWith "Varyings".toList then .fragment
      else if s.returnType = "void".toList && param.holds "float3".toList then .vertex
      else .helper
    | _ => .helper

def titleOf (code : Text) : Text :=
  match Signature.find? code with
  | some s => s.name
  | none => "Generated Block".toList

/-- Record the declared properties that stand in some code as whole words. -/
def noteParams (d : Document) (code : Text) (b : Block) : Block :=
  let found := words code
  ((d.properties.map (·.name)).filter found.contains).foldl Block.addParam b

/-- Where stored code goes: over the code of a block, or into a new block of the active pass. -/
inductive Target
  | existing (id : Identity)
  | new (title : Text) (inSection : Option Section) (intent : Text)
  deriving DecidableEq, Repr

/-- A new block for some code. It is titled after its first function and placed by it, unless that
is given. -/
def newBlock (id : Identity) (code title : Text) (inSection : Option Section)
    (intent : Text) : Block :=
  { title := if title.isEmpty then titleOf code else title
    code, intent, inSection := inSection.getD (sectionOf code), id }

/-- A given identity by its text. -/
def nameOf : Identity → Text
  | .given text => text
  | .fresh _ => []

/-- Store a response in the document, and say in which block. -/
def store (d : Document) (response : Text) (target : Target) :
    Except EditError (Document × Position) :=
  let code := dedent (Generated.code response)
  match target with
  | .existing id => match d.findBlock? id with
    | none => .error (.unknownBlock (nameOf id))
    | some place => .ok ((d.updateCode id code).1.modifyBlock place (noteParams d code), place)
  | .new title inSection intent =>
    let block := newBlock d.newBlockId code title inSection intent
    let place : Position := ⟨d.activePosition?.getD 0, (d.activePass?.map (·.blocks.length)).getD 0⟩
    (d.addBlock (noteParams d code block)).map (·, place)

end Generated

/-- What a generator is told about the document it writes for. -/
structure Briefing where
  shaderName : Text
  passName : Text
  instruction : Text
  properties : List Text
  inputFields : List Text
  outputFields : List Text
  globals : List Text
  deriving DecidableEq, Repr

namespace Briefing

/-- The global values of a registry, each with its tip or else its label. -/
def globalsOf (r : Registry) : List Text := r.globals.map fun g =>
  let tip := r.tooltip g.name
  g.name ++ ' ' :: g.dataType ++ ": ".toList ++ if tip.isEmpty then g.displayName else tip

/-- The properties of a document and the active fields of its active pass. -/
def ofDocument (r : Registry) (d : Document) (instruction : Text) : Briefing :=
  let active := d.activePass?
  let fieldsOf (stage : Stage) := match active.bind (·.graph) with
    | none => []
    | some g => (g.activeFields stage).map fun f => f.dataType ++ ' ' :: f.name
  { shaderName := d.shaderName
    passName := (active.map (·.name)).getD []
    instruction
    properties := d.properties.map fun p => p.name ++ " (".toList ++ p.kind.name ++ [')']
    inputFields := fieldsOf .input
    outputFields := fieldsOf .output
    globals := globalsOf r }

def part (heading : String) (entries : List Text) : List Text :=
  heading.toList :: (if entries.isEmpty then ["(none)".toList] else entries).map ("  ".toList ++ ·)

def render (b : Briefing) : Text := joinLines <|
  ["Shader: ".toList ++ b.shaderName, "Pass: ".toList ++ b.passName] ++
  part "Properties:" b.properties ++ part "Attributes:" b.inputFields ++
    part "Varyings:" b.outputFields ++
  part "Globals:" b.globals ++ [[], "Instruction: ".toList ++ b.instruction]

end Briefing
end MarkedShader
