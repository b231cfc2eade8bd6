import MarkedShader.Draft.Edit
import MarkedShader.Writing.Document

/-! The annotated text of a draft. Most leaves are written as they are spelled; those that stand
between the quotes of a marker have to be texts. Of several faults the one that is met first in the
text counts. -/
namespace MarkedShader.Draft

/-- A bound of a range has to be a number; one of another property is not written. -/
def bound (s : Store) (kind : PropertyKind) (d : Data) : Except Fault Number :=
  if kind ≠ .range then .ok (.ofNat 0) else do
    let _ ← spelled s d
    match d.numeral? with
    | some n => .ok n
    | none => .error .notANumber

/-- A property with the texts that are written for it. Where there is no texture, a volume or cube
texture is declared with whatever stands in its place. -/
def Property.settled (s : Store) (p : Property) : Except Fault MarkedShader.Property := do
  let minValue ← bound s p.kind p.minValue
  let maxValue ← bound s p.kind p.maxValue
  let name ← textIn s p.name
  let displayName ← textIn s p.displayName
  let defaultValue ← textIn s p.defaultValue
  let role ← textIfTrue s p.role
  let defaultTexture ← textIfTrue s p.defaultTexture
  let settled : MarkedShader.Property :=
    { name, displayName, kind := p.kind, defaultValue, minValue, maxValue, role, defaultTexture }
  if s.isTrue p.rawDeclaration then
    return { settled with rawDeclaration := ← spelled s p.rawDeclaration }
  let texture ← if p.kind = .texture2D then .ok defaultTexture else spelled s p.defaultTexture
  .ok { settled with
    rawDeclaration := MarkedShader.Property.synthesize { settled with defaultTexture := texture } }

def GlobalSettings.settled (s : Store) (g : GlobalSettings) :
    Except Fault MarkedShader.GlobalSettings := do
  .ok { cull := ← textIn s g.cull, blend := ← textIn s g.blend, zwrite := ← textIn s g.zwrite
        renderType := ← textIn s g.renderType, renderQueue := ← textIn s g.renderQueue }

/-- The role written beside a parameter: that of the first property of its name, if it has one. -/
def roleOf (s : Store) (properties : List Property) (param : Data) : Except Fault Data := do
  match (← findIdx? (fun p => equal s p.name param) properties).bind (properties[·]?) with
  | some p => .ok (if s.isTrue p.role then p.role else .ofString "parameter")
  | none => .ok (.ofString "parameter")

def paramWith (s : Store) (properties : List Property) (param : Data) :
    Except Fault (Text × Text) := do
  let role ← roleOf s properties param
  .ok (← textIn s param, ← textIn s role)

/-- What the header of a block says: its intent, and its parameters with their roles. -/
structure Heading where
  intent : Text
  params : List (Text × Text)
  deriving DecidableEq, Repr

def Block.heading (s : Store) (properties : List Property) (b : Block) : Except Fault Heading := do
  .ok ⟨← textIfTrue s b.intent, ← (← itemsIn s b.referencedParams).mapM (paramWith s properties)⟩

/-- A block as it is written, with its parameters and their roles. Only code that is not a bare
declaration has a header. -/
def Block.settled (s : Store) (properties : List Property) (b : Block) :
    Except Fault (MarkedShader.Block × List (Text × Text)) := do
  let title ← textIn s b.title
  let isEnabled := s.isTrue b.isEnabled
  let settled (code : Text) (h : Heading) : MarkedShader.Block × List (Text × Text) :=
    ({ title, code, inSection := b.inSection, intent := h.intent, isEnabled, id := .fresh 0 },
      h.params)
  match s.view b.code with
  | .text code =>
    if isDeclarationOnly code then return settled code ⟨[], []⟩
    .ok (settled code (← b.heading s properties))
  | code =>
    if ← holds s code ['\x7b'] then
      let _ ← b.heading s properties
    .error .notText

/-- A field with the texts that are written for it. A semantic that does not count as true is not
there. -/
def Field.settled (s : Store) (f : Field) : Except Fault MarkedShader.Field := do
  .ok { dataType := ← spelled s f.dataType, name := ← spelled s f.name
        semantic := ← spelledIfTrue s f.semantic
        stage := f.stage }

def structs (settings : Settings) (s : Store) (g : Graph) : Except Fault Layout := do
  let inputs ← (g.activeFields .input).mapM fun f => do
    .ok (Writing.member (← spelled s f.dataType) (← spelled s f.name) (← spelled s f.semantic))
  let outputs ← (g.activeFields .output).mapM (·.settled s)
  .ok (Writing.structsOf settings inputs ((Writing.withSemantics 0 outputs).map fun (f, semantic) =>
    Writing.member f.dataType f.name semantic))

def stencilTexts (s : Store) (x : Stencil) : Except Fault (List Text) :=
  [x.ref, x.comp, x.passOp, x.failOp, x.zfailOp, x.readMask, x.writeMask].mapM (spelled s)

def stateValue (x : RenderState) : StateKey → Data
  | .cull => x.cull
  | .blend => x.blend
  | .zwrite => x.zwrite
  | .ztest => x.ztest
  | .colorMask => x.colorMask

def renderState (s : Store) (x : RenderState) : Except Fault Layout := do
  let states ← (StateKey.all.filter fun key => s.isTrue (stateValue x key)).mapM fun key => do
    .ok (key, ← spelled s (stateValue x key))
  .ok (Writing.renderStateWith states (← x.stencil.mapM (stencilTexts s)))

/-- What follows the blocks of a section. -/
def entry (settings : Settings) (r : Registry) (g : Graph) (blocks : List MarkedShader.Block) :
    Section → Except Fault Layout
  | .vertex => do
    .ok (Writing.vertexEntryWith settings
      (Writing.vertexLines (← g.edges r) (g.isActiveInput Writing.positionInput)
      (g.isActiveInput Writing.tangentInput) blocks))
  | .fragment => .ok (Writing.fragmentEntry settings blocks)
  | _ => .ok .empty

def inSection (settings : Settings) (r : Registry) (s : Store) (ps : List Property) (g : Graph)
    (p : Pass) (part : Section) (label : Text) : Except Fault Layout := do
  let blocks ← (p.blocksIn part).mapM (·.settled s ps)
  .ok (Writing.sectionWith settings part label
    (blocks.map fun (b, params) => Writing.blockWith settings.tagPrefix params b)
    (← entry settings r g (blocks.map (·.1)) part))

def pass (settings : Settings) (r : Registry) (s : Store) (ps : List Property)
    (settled : List MarkedShader.Property) (p : Pass) : Except Fault Layout := do
  if p.isUsePass then return Writing.usePass (← spelled s p.usePassPath)
  let g := p.graph.getD (.ofGraph (.ofRegistry r))
  let name ← textIn s p.name
  let lightMode ← textIn s p.lightMode
  let state ← p.renderState.mapM (renderState s)
  let pragmas ← p.pragmas.mapM (spelledIfTrue s)
  let includes ← p.includes.mapM (spelled s)
  let structs ← structs settings s g
  let sections ← Section.layout.mapM fun (part, label) => inSection settings r s ps g p part label
  .ok (Writing.passWith settings name lightMode (state.getD .empty)
    (Writing.programWith settings settled pragmas includes structs (.concat sections)))

/-- The layout of the whole text. -/
def layout (settings : Settings) (r : Registry) (d : Draft) : Except Fault Layout := do
  let name ← spelled d.store d.shaderName
  let properties ← d.properties.mapM (·.settled d.store)
  let globalSettings ← d.globalSettings.settled d.store
  let passes ← d.passes.mapM (pass settings r d.store d.properties properties)
  .ok (Writing.shader settings name properties globalSettings passes)

/-- Whether the integers of a stencil can be written in digits. -/
def Stencil.isWritable (x : Stencil) : Bool :=
  [x.ref, x.readMask, x.writeMask].all fun d => !d.isTooLong

/-- Whether the bounds of all ranges and the integers of all stencils can be written in digits. -/
def hasWritableNumbers (d : Draft) : Bool :=
  (d.properties.all fun p => p.kind ≠ .range || !(p.minValue.isTooLong || p.maxValue.isTooLong)) &&
  d.passes.all fun p => (p.renderState.bind (·.stencil)).all (·.isWritable)

/-- The whole annotated text of a draft. -/
def generate (settings : Settings) (r : Registry) (d : Draft) : Except Fault Text :=
  let inDraft (d : Draft) := do .ok ((← layout settings r d).text settings.indent)
  if d.hasWritableNumbers then d.ask (fun d => .ok (d.generate settings r)) inDraft else inDraft d

end MarkedShader.Draft
