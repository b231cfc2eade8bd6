import MarkedShader.Attributes
import MarkedShader.Text.Blank

/-! Markers: one-line comments such as `// [AILab_Block_Start: "Title"]`, here read and written
under any prefix. A marker that cannot be read is no marker. -/
namespace MarkedShader

inductive MarkerKind
  | property | global | pass | blockStart | blockEnd | intent | param | sectionLabel | disabled
  deriving DecidableEq, Repr

namespace MarkerKind

def all : List MarkerKind :=
  [.property, .global, .pass, .blockStart, .blockEnd, .intent, .param, .sectionLabel, .disabled]

def tag : MarkerKind → Text
  | .property => "Property".toList
  | .global => "Global".toList
  | .pass => "Pass".toList
  | .blockStart => "Block_Start".toList
  | .blockEnd => "Block_End".toList
  | .intent => "Intent".toList
  | .param => "Param".toList
  | .sectionLabel => "Section".toList
  | .disabled => "Disabled".toList

end MarkerKind

namespace Marker
open Text

/-- What follows the tag of a marker that begins the text. -/
def afterTag? (pre : Text) (kind : MarkerKind) (t : Text) : Option Text := do
  let r ← after? "//".toList t
  after? ('[' :: pre ++ '_' :: kind.tag) (skipBlanks r)

def body? (pre : Text) (kind : MarkerKind) (t : Text) : Option Text := do
  let r ← afterTag? pre kind t
  (after? [':'] r).map skipBlanks

/-- A marker without a body. -/
def plainAt? (pre : Text) (kind : MarkerKind) (t : Text) : Option Unit := do
  let r ← afterTag? pre kind t
  (after? [']'] r).map fun _ => ()

/-- The body up to the last closing bracket of the line. -/
def attributesAt? (pre : Text) (kind : MarkerKind) (t : Text) : Option Text := do
  let r ← body? pre kind t
  beforeLast? ']' (r.takeWhile (· != '\n'))

/-- A body that is one text in quotes. -/
def quotedAt? (pre : Text) (kind : MarkerKind) (t : Text) : Option Text := do
  let (name, r) ← quoted? (← body? pre kind t)
  (after? [']'] r).map fun _ => name

/-- As `quotedAt?`, but the text must not be empty. -/
def namedAt? (pre : Text) (kind : MarkerKind) (t : Text) : Option Text :=
  (quotedAt? pre kind t).filter fun name => !name.isEmpty

def roleAt? (t : Text) : Option (Text × Text) := do
  quoted? (← after? "role=".toList (← blanks? t))

/-- A name in quotes with an optional role. -/
def paramAt? (pre : Text) (t : Text) : Option (Text × Option Text) := do
  let (name, r) ← quotedName? (← body? pre .param t)
  match roleAt? r with
  | some (role, s) => (after? [']'] s).map fun _ => (name, some role)
  | none => (after? [']'] r).map fun _ => (name, none)

variable (pre line : Text)

def property? : Option Text := line.search (attributesAt? pre .property)
def global? : Option Text := line.search (attributesAt? pre .global)
def pass? : Option Text := line.search (attributesAt? pre .pass)
def blockStart? : Option Text := line.search (namedAt? pre .blockStart)
def isBlockEnd : Bool := (line.search (plainAt? pre .blockEnd)).isSome
def intent? : Option Text := line.search (quotedAt? pre .intent)
def param? : Option (Text × Option Text) := line.search (paramAt? pre)
def sectionLabel? : Option Text := line.search (namedAt? pre .sectionLabel)
def isDisabled : Bool := (line.search (plainAt? pre .disabled)).isSome

/-- The parts that a marker of a kind holds; a part that is left out is `none`. -/
def parts? (kind : MarkerKind) : Option (List (Option Text)) :=
  match kind with
  | .property => (property? pre line).map fun t => [some t]
  | .global => (global? pre line).map fun t => [some t]
  | .pass => (pass? pre line).map fun t => [some t]
  | .blockStart => (blockStart? pre line).map fun t => [some t]
  | .blockEnd => if isBlockEnd pre line then some [] else none
  | .intent => (intent? pre line).map fun t => [some t]
  | .param => (param? pre line).map fun (name, role) => [some name, role]
  | .sectionLabel => (sectionLabel? pre line).map fun t => [some t]
  | .disabled => if isDisabled pre line then some [] else none

/-- Whether a line has the beginning of any marker. -/
def isMarker : Bool := line.holds ('[' :: pre ++ ['_'])

def format (kind : MarkerKind) (body : Text) : Text :=
  "// [".toList ++ pre ++ '_' :: kind.tag ++
    (if body.isEmpty then [] else ": ".toList ++ body) ++ [']']

def inQuotes (t : Text) : Text := '"' :: Attributes.quote t ++ ['"']

def property (as : Attributes) : Text := format pre .property as.write
def global (as : Attributes) : Text := format pre .global as.write
def pass (as : Attributes) : Text := format pre .pass as.write

/-- A block without a title is called untitled. -/
def blockStart (title : Text) : Text :=
  format pre .blockStart (inQuotes (if title.isEmpty then "Untitled".toList else title))

def blockEnd : Text := format pre .blockEnd []
def intent (t : Text) : Text := format pre .intent (inQuotes t)
def param (name role : Text) : Text :=
  format pre .param (inQuotes name ++ " role=".toList ++ inQuotes role)
def sectionLabel (label : Text) : Text := format pre .sectionLabel (inQuotes label)
def disabled : Text := format pre .disabled []

end Marker
end MarkedShader
