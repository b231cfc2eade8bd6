import MarkedShader.Source.Extent
import MarkedShader.Source.Properties
import MarkedShader.Source.Walk

/-! Reading a whole source. Whatever is missing or malformed leaves defaults; only a blank source is
refused. -/
namespace MarkedShader

/-- Why a source is not read. -/
inductive SourceError
  | empty (path : Option Text)
  | missing (path : Text)
  | undecodable
  deriving DecidableEq, Repr

def SourceError.message : SourceError → Text
  | .empty none => "Shader source is empty".toList
  | .empty (some path) => "Shader source is empty: ".toList ++ path
  | .missing path => "Shader file not found: ".toList ++ path
  | .undecodable => "Shader file is not UTF-8".toList

namespace Source
open Text

/-- A struct member as a field of its own. -/
def customField (stage : Stage) (m : Member) : Field := .normalize
  { name := m.name, dataType := m.dataType, stage, isActive := true
    semantic := if stage = .output && isPositional m.semantic then [] else m.semantic }

/-- Activate the field of a member; an unknown one becomes a custom field. -/
def declare (stage : Stage) (g : Graph) (m : Member) : Graph :=
  match g.find? m.name stage with
  | some _ => g.modify m.name stage fun f => { f with isActive := true }
  | none => g.withFields stage (g.fields stage ++ [customField stage m])

/-- The first member of each name. -/
def firstOfEachName (ms : List Member) : List Member := ms.eraseDupsBy fun m n => m.name == n.name

/-- Bring a stage in line with a declared struct: its members are active, and beyond them only
required fields. -/
def applyMembers (g : Graph) (stage : Stage) (ms : List Member) : Graph :=
  let declared := (firstOfEachName ms).foldl (declare stage) g
  declared.withFields stage <| (declared.fields stage).map fun f =>
    if f.isRequired || (ms.any fun m => m.name = f.name) then f else { f with isActive := false }

/-- A struct without members changes nothing. -/
def applyStruct (g : Graph) (stage : Stage) (ms : List Member) : Graph :=
  if ms.isEmpty then g else applyMembers g stage ms

def graphOf (r : Registry) (inputs outputs : List Member) : Graph :=
  applyStruct (applyStruct (.ofRegistry r) .input inputs) .output outputs

/-- The attributes of the pass marker above a pass, with only blank and comment lines between. The
lines come nearest first. -/
def passAttributes (pre : Text) : List Text → Attributes
  | [] => []
  | l :: ls => match Marker.pass? pre (strip l) with
    | some text => Attributes.read text
    | none => if allBlank l || (strip l).startsWith "//".toList then passAttributes pre ls else []

/-- The first of several texts that is not empty. -/
def firstNonEmpty (ts : List (Option Text)) (default : Text) : Text :=
  ((ts.filterMap id).find? fun t => !t.isEmpty).getD default

variable (settings : Settings) (r : Registry)

/-- The pass of an extent, with the lines of the file and the first line after the pass before
it. -/
def readPass (ls : List Text) (cursor : Nat) (e : Extent) : Pass × List Warning :=
  match e.usePath with
  | some path => (.usePass (.fresh e.first) path, [])
  | none =>
    let content := contentOf settings e.first (between ls e.first e.last)
    let attributes := passAttributes settings.tagPrefix ((ls.take e.first).drop cursor).reverse
    ({ name := firstNonEmpty [attributes.get? "name", content.name] "NewPass".toList
       lightMode := firstNonEmpty [attributes.get? "lightmode", content.lightMode] []
       blocks := content.blocks
       graph := some (graphOf r content.inputs content.outputs)
       pragmas := content.pragmas
       includes := content.includes
       renderState := if content.renderState.hasOverrides then some content.renderState else none
       id := .fresh e.first }, content.warnings)

def readPasses (ls : List Text) (cursor : Nat) : List Extent → List Pass × List Warning
  | [] => ([], [])
  | e :: es =>
    let (p, warnings) := readPass settings r ls cursor e
    let (ps, more) := readPasses ls (e.last+1) es
    (p :: ps, warnings ++ more)

/-- What stands outside the passes. -/
def partsOutside (ls : List Text) (es : List Extent) : Parts :=
  (gaps ls es).foldl
    (fun p (first, last) => walk (Parts.step settings) first p (between ls first last)) {}

/-- The pass that takes what stands outside the passes, with that added. -/
def Parts.attachTo (outside : Parts) (p : Pass) : Pass :=
  { p with
    blocks := (outside.blocks ++ p.blocks).mergeSort fun a b => a.startLine ≤ b.startLine
    graph := p.graph.map fun g =>
      applyStruct (applyStruct g .input outside.inputs) .output outside.outputs }

def Parts.attachWarnings (outside : Parts) (target : Option Text) : List Warning :=
  outside.blocks.map (fun b => ⟨b.startLine.toNat, .blockOutside b.title target⟩) ++
    outside.structLines.map fun line => ⟨line, .structOutside target⟩

/-- Move what stands outside the passes into the first pass that is not a use-pass. -/
def Parts.attach (outside : Parts) (passes : List Pass) : List Pass × List Warning :=
  if outside.isEmpty then (passes, []) else
  match passes.findIdx? fun p => !p.isUsePass with
  | none => (passes, outside.attachWarnings none)
  | some i => (passes.modify i outside.attachTo, outside.attachWarnings (passes[i]?.map (·.name)))

/-- The passes of a source; without any, the whole source is one pass. -/
def passExtents (ls : List Text) : List Extent × List Warning :=
  let (es, warnings) := extents ls
  (if es.isEmpty then [⟨0, ls.length-1, none⟩] else es, warnings)

def documentOf (content : Text) : Document × List Warning :=
  let ls := lines content
  let (properties, propertyWarnings) := properties settings.tagPrefix ls
  let (es, extentWarnings) := passExtents ls
  let outside := partsOutside settings ls es
  let (passes, passWarnings) := readPasses settings r ls 0 es
  let (passes, attachWarnings) := outside.attach passes
  ({ shaderName := (shaderName? content).getD settings.defaultShaderName
     globalSettings := globalSettings settings.tagPrefix ls
     properties, passes
     activeIndex := (passes.findIdx? fun p => !p.isUsePass).getD 0
     rawContent := content },
   propertyWarnings ++ extentWarnings ++ outside.warnings ++ passWarnings ++ attachWarnings)

/-- The document that a source describes, and what was amiss. -/
def parse (content : Text) : Except SourceError (Document × List Warning) :=
  if allBlank content then .error (.empty none) else .ok (documentOf settings r content)

/-- The same for a file, which the document then knows as its own. -/
def parseFile (path content : Text) : Except SourceError (Document × List Warning) :=
  if allBlank content then .error (.empty (some path))
  else let (d, warnings) :=
    documentOf settings r content; .ok ({ d with filePath := path }, warnings)

end Source
end MarkedShader
