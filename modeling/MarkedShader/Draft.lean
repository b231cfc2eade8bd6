import MarkedShader.Data.Store
import MarkedShader.Document

/-! Drafts: documents as a record gives them. The parts are in place, but a leaf may hold any value,
and values may stand in several leaves or in themselves. -/
namespace MarkedShader
namespace Draft

structure Field where
  name : Data
  dataType : Data
  semantic : Data
  displayName : Data
  stage : Stage
  isRequired : Bool
  isActive : Bool
  annotation : Data

structure Graph where
  inputs : List Field
  outputs : List Field

structure Property where
  name : Data
  displayName : Data
  kind : PropertyKind
  defaultValue : Data
  minValue : Data
  maxValue : Data
  role : Data
  rawDeclaration : Data
  defaultTexture : Data

structure Block where
  title : Data
  code : Data
  inSection : Section
  intent : Data
  referencedParams : Data
  isEnabled : Data
  startLine : Data
  endLine : Data
  id : Data

structure Stencil where
  ref : Data
  comp : Data
  passOp : Data
  failOp : Data
  zfailOp : Data
  readMask : Data
  writeMask : Data

/-- A null means that the default is inherited. -/
structure RenderState where
  cull : Data
  blend : Data
  zwrite : Data
  ztest : Data
  colorMask : Data
  stencil : Option Stencil

structure GlobalSettings where
  cull : Data
  blend : Data
  zwrite : Data
  renderType : Data
  renderQueue : Data

structure Pass where
  name : Data
  lightMode : Data
  blocks : List Block
  graph : Option Graph
  pragmas : List Data
  includes : List Data
  renderState : Option RenderState
  isUsePass : Bool
  usePassPath : Data
  id : Data

end Draft

structure Draft where
  shaderName : Data
  filePath : Data
  globalSettings : Draft.GlobalSettings
  properties : List Draft.Property
  passes : List Draft.Pass
  activeIndex : Int
  rawContent : Data
  isDirty : Bool
  /-- What is kept of the values in the leaves. -/
  store : Store := {}

def Identity.toData : Identity → Data
  | .given t => .text t
  | .fresh serial => .madeUp serial

def Number.toData : Number → Data
  | .int i => .int i
  | .real x => .real x

namespace Draft

def ofTexts (ts : List Text) : List Data := ts.map .text

def optional (t : Option Text) : Data := (t.map Data.text).getD .null

namespace Field

def ofField (f : MarkedShader.Field) : Field :=
  { name := .text f.name, dataType := .text f.dataType, semantic := .text f.semantic
    displayName := .text f.displayName
    stage := f.stage, isRequired := f.isRequired, isActive := f.isActive
    annotation := .text f.annotation }

end Field

namespace Graph

def ofGraph (g : MarkedShader.Graph) : Graph := ⟨g.inputs.map .ofField, g.outputs.map .ofField⟩

end Graph

namespace Property

def ofProperty (p : MarkedShader.Property) : Property :=
  { name := .text p.name, displayName := .text p.displayName, kind := p.kind
    defaultValue := .text p.defaultValue
    minValue := p.minValue.toData, maxValue := p.maxValue.toData, role := .text p.role
    rawDeclaration := .text p.rawDeclaration, defaultTexture := .text p.defaultTexture }

end Property

namespace Block

def ofBlock (b : MarkedShader.Block) : Block :=
  { title := .text b.title, code := .text b.code, inSection := b.inSection, intent := .text b.intent
    referencedParams := .list (ofTexts b.referencedParams), isEnabled := .bool b.isEnabled
    startLine := .int b.startLine, endLine := .int b.endLine, id := b.id.toData }

end Block

namespace Stencil

def ofStencil (s : MarkedShader.Stencil) : Stencil :=
  { ref := .int s.ref, comp := .text s.comp, passOp := .text s.passOp, failOp := .text s.failOp
    zfailOp := .text s.zfailOp, readMask := .int s.readMask, writeMask := .int s.writeMask }

end Stencil

namespace RenderState

def ofRenderState (s : MarkedShader.RenderState) : RenderState :=
  { cull := optional s.cull, blend := optional s.blend, zwrite := optional s.zwrite
    ztest := optional s.ztest
    colorMask := optional s.colorMask, stencil := s.stencil.map .ofStencil }

end RenderState

namespace GlobalSettings

def ofGlobalSettings (g : MarkedShader.GlobalSettings) : GlobalSettings :=
  { cull := .text g.cull, blend := .text g.blend, zwrite := .text g.zwrite
    renderType := .text g.renderType
    renderQueue := .text g.renderQueue }

end GlobalSettings

namespace Pass

def ofPass (p : MarkedShader.Pass) : Pass :=
  { name := .text p.name, lightMode := .text p.lightMode, blocks := p.blocks.map .ofBlock
    graph := p.graph.map .ofGraph, pragmas := ofTexts p.pragmas, includes := ofTexts p.includes
    renderState := p.renderState.map .ofRenderState, isUsePass := p.isUsePass
    usePassPath := .text p.usePassPath
    id := p.id.toData }

end Pass

def ofDocument (d : Document) : Draft :=
  { shaderName := .text d.shaderName, filePath := .text d.filePath
    globalSettings := .ofGlobalSettings d.globalSettings, properties := d.properties.map .ofProperty
    passes := d.passes.map .ofPass, activeIndex := d.activeIndex, rawContent := .text d.rawContent
    isDirty := d.isDirty }

end Draft
end MarkedShader
