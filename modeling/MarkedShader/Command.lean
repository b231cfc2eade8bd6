import MarkedShader.Command.Arguments
import MarkedShader.Command.Terminal
import MarkedShader.File
import MarkedShader.Record.Yaml
import MarkedShader.Registry.Standard

/-! The command line: what is asked for, and what comes of it. -/
namespace MarkedShader

/-- Where a regenerated shader goes. In place wins over another file. -/
inductive Destination
  | standardOutput
  | file (path : Text)
  | inPlace
  deriving DecidableEq, Repr

inductive Command
  | help
  | list (source : Text)
  | validate (source : Text)
  | regenerate (source : Text) (destination : Destination)
  | activate (source field passName : Text) (destination : Destination)
  | exportRecord (source : Text) (destination : Destination)
  deriving DecidableEq, Repr

/-- What a command prints and writes, and its exit code. -/
structure Outcome where
  exitCode : Nat
  output : Text := []
  /-- A file to write, with its text. -/
  written : Option (Text × Text) := none
  deriving DecidableEq, Repr

namespace Command
open Text

def helpOption : OptionSpec := ⟨none, "help".toList, false⟩
def outputOption : OptionSpec := ⟨some 'o', "output".toList, true⟩
def inPlaceOption : OptionSpec := ⟨some 'i', "in-place".toList, false⟩
def passOption : OptionSpec := ⟨some 'p', "pass".toList, true⟩
def verboseOption : OptionSpec := ⟨some 'v', "verbose".toList, false⟩

def destinationOf (a : Arguments) : Destination :=
  if a.has "in-place" then .inPlace else match a.value? "output" with
    | some path => .file path
    | none => .standardOutput

/-- The paths among the arguments of a command: its first word, and a file to write. -/
def pathsOf (a : Arguments) : List Text := a.words.take 1 ++ (a.value? "output").toList

/-- Read the arguments of one command, which takes a fixed number of words. No path holds a null
character. -/
def readWith (specs : List OptionSpec) (ts : List Text)
    (make : Arguments → List Text → Option Command) : Option Command := do
  let a ← readArguments (helpOption :: specs) true {} ts
  if a.has "help" then some .help
  else if (pathsOf a).any (·.contains '\x00') then none
  else make a a.words

def commandOf (name : Text) (ts : List Text) : Option Command :=
  if name = "show".toList then
    readWith [] ts fun _ words => match words with
      | [source] => some (.list source)
      | _ => none
  else if name = "validate".toList then
    readWith [] ts fun _ words => match words with
      | [source] => some (.validate source)
      | _ => none
  else if name = "regenerate".toList then
    readWith [outputOption, inPlaceOption] ts fun a words => match words with
      | [source] => some (.regenerate source (destinationOf a))
      | _ => none
  else if name = "activate".toList then
    readWith [passOption, outputOption, inPlaceOption] ts fun a words => match words with
      | [source, field] =>
        some (.activate source field ((a.value? "pass").getD []) (destinationOf a))
      | _ => none
  else if name = "export-record".toList then
    readWith [outputOption] ts fun a words => match words with
      | [source] => some (.exportRecord source (destinationOf a))
      | _ => none
  else none

/-- What the arguments ask for; `none` if they cannot be understood. -/
def read (ts : List Text) : Option Command := do
  let a ← readArguments [helpOption, verboseOption] false {} ts
  if a.has "help" then some .help else match a.words with
    | [] => none
    | name :: ts => commandOf name ts

def source? : Command → Option Text
  | help => none
  | list source | validate source => some source
  | regenerate source _ | activate source _ _ _ | exportRecord source _ => some source

def usage : Text := joinLines [
  "Inspect and regenerate annotated shader files.".toList, [],
  "  show FILE                            passes, blocks and active struct fields".toList,
  "  validate FILE                        output fields whose inputs are not active".toList,
  "  regenerate FILE [-o FILE] [-i]       the canonical annotated text".toList,
  "  activate FILE FIELD [-p PASS] [-o FILE] [-i]".toList,
  "  export-record FILE [-o FILE]         the document as a record".toList, []]

def printed (ls : List Text) : Text := uncontrolled (ls.flatMap (· ++ ['\n']))

def describePass (d : Document) (p : Pass) (index : Nat) : List Text :=
  let mark := if d.activeIndex = index then "[*] ".toList else "[ ] ".toList
  if p.isUsePass then [mark ++ "UsePass ".toList ++ p.usePassPath] else
  [mark ++ "Pass ".toList ++ p.name ++ " (".toList ++
    (if p.lightMode.isEmpty then ['-'] else p.lightMode) ++ [')']] ++
  (p.blocks.map fun b => "    ".toList ++ b.inSection.name ++ ": ".toList ++ b.title ++
    if b.isEnabled then [] else " (disabled)".toList) ++
  match p.graph with
  | none => []
  | some g => [
      "    Attributes: ".toList ++ List.intercalate ", ".toList (g.activeNames .input),
      "    Varyings: ".toList ++ List.intercalate ", ".toList (g.activeNames .output)]

def describe (d : Document) : List Text :=
  ["Shader: ".toList ++ d.shaderName,
    "Properties: ".toList ++ Decimal.natural d.properties.length] ++
  (d.properties.map fun p => "  ".toList ++ p.name ++ " (".toList ++ p.kind.name ++ [')']) ++
  d.passes.zipIdx.flatMap fun (p, i) => describePass d p i

def issueLines (r : Registry) (d : Document) : List Text :=
  d.passes.flatMap fun p => match p.graph with
    | none => []
    | some g => (g.issues r).map fun i => p.name ++ ": ".toList ++ i.message

/-- Send a text where it is to go. -/
def emit (source : Text) (destination : Destination) (content : Text) : Outcome :=
  match destination with
  | .standardOutput => ⟨0, uncontrolled content, none⟩
  | .file path => ⟨0, [], some (File.normalize path, content)⟩
  | .inPlace => ⟨0, [], some (File.normalize source, content)⟩

/-- The pass to edit: the first of a name, or the active one if the name is empty. -/
def passToEdit? (d : Document) (name : Text) : Option Nat :=
  if name.isEmpty then d.activePosition? else d.passes.findIdx? fun p => p.name = name

def activateIn (settings : Settings) (r : Registry) (d : Document) (source field passName : Text)
    (destination : Destination) : Outcome :=
  match passToEdit? d passName with
  | none => ⟨1, [], none⟩
  | some i => match d.passes[i]?.bind (·.graph) with
    | none => ⟨1, [], none⟩
    | some g =>
      if (g.find? field .output).isNone then ⟨1, [], none⟩
      else
        let edited := d.modifyPass i fun p => { p with graph := some (g.activate r field).1 }
        emit source destination (edited.generate settings r)

/-- Run a command on the document that was read from its file. -/
def run (settings : Settings) (r : Registry) (command : Command) (d : Document) : Outcome :=
  match command with
  | help => ⟨0, usage, none⟩
  | list _ => ⟨0, printed (describe d), none⟩
  | validate _ =>
    let issues := issueLines r d
    if issues.isEmpty then ⟨0, printed ["No data-flow issues found".toList], none⟩
    else ⟨1, printed issues, none⟩
  | regenerate source destination => emit source destination (d.generate settings r)
  | activate source field passName destination =>
    activateIn settings r d source field passName destination
  | exportRecord source destination => match d.toYaml with
    | .ok t => emit source destination t
    | .error _ => ⟨1, [], none⟩

/-- Run the command that the arguments ask for. The file it names is looked up with `readFile`. -/
def execute (environment : List (Text × Text)) (arguments : List Text)
    (readFile : Text → Option ByteArray) : Outcome :=
  match read arguments with
  | none => ⟨2, [], none⟩
  | some command => match command.source? with
    | none => ⟨0, usage, none⟩
    | some source =>
      let settings := Settings.ofEnvironment environment
      let path := File.normalize source
      match File.parse settings .standard path (readFile path) with
      | .error _ => ⟨1, [], none⟩
      | .ok (d, _) => command.run settings .standard d

end Command
end MarkedShader
