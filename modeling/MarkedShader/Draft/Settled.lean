import MarkedShader.Draft

/-! The document that a draft is, if each of its leaves has the kind that it should have. What can
be done with a draft is then done with that document. -/
namespace MarkedShader

namespace Data

def text? : Data → Option Text
  | text t => some t
  | _ => none

def int? : Data → Option Int
  | int i => some i
  | _ => none

def bool? : Data → Option Bool
  | bool value => some value
  | _ => none

/-- A number proper: a truth value is none. -/
def numeral? : Data → Option Number
  | int i => some (.int i)
  | real x => some (.real x)
  | _ => none

/-- A text, or none for a null. -/
def optionalText? : Data → Option (Option Text)
  | null => some none
  | text t => some (some t)
  | _ => none

/-- A list of texts that is not kept elsewhere. -/
def texts? : Data → Option (List Text)
  | list ds => ds.mapM text?
  | _ => none

def identity? : Data → Option Identity
  | text t => some (.given t)
  | madeUp serial => some (.fresh serial)
  | _ => none

/-- The identity that a value is. One that is none is compared with texts only, so that the empty
text stands for it. -/
def identity (d : Data) : Identity := d.identity?.getD (.given [])

end Data

namespace Draft

/-- What a part that may be missing is settled as. -/
def settle {α β : Type} (settled? : α → Option β) : Option α → Option (Option β)
  | none => some none
  | some a => (settled? a).map some

/-- Do something with what a part of a draft is settled as, or else with the part itself. -/
def settledOr {α β γ : Type} (settled? : α → Option β) (withSettled : β → γ)
    (withDraft : α → γ) (a : α) : γ :=
  match settled? a with
  | some b => withSettled b
  | none => withDraft a

namespace Field

def field? (f : Field) : Option MarkedShader.Field := do
  some { name := ← f.name.text?, dataType := ← f.dataType.text?, semantic := ← f.semantic.text?
         displayName := ← f.displayName.text?, stage := f.stage, isRequired := f.isRequired
         isActive := f.isActive
         annotation := ← f.annotation.text? }

end Field

namespace Graph

def graph? (g : Graph) : Option MarkedShader.Graph := do
  some ⟨← g.inputs.mapM (·.field?), ← g.outputs.mapM (·.field?)⟩

def ask {α : Type} (ofGraph : MarkedShader.Graph → α) (ofDraft : Graph → α) (g : Graph) : α :=
  settledOr (·.graph?) ofGraph ofDraft g

def edit {α : Type} (inGraph : MarkedShader.Graph → MarkedShader.Graph × α)
    (inDraft : Graph → Graph × α) (g : Graph) : Graph × α :=
  g.ask (fun graph => (inGraph graph).map .ofGraph id) inDraft

end Graph

namespace Property

def property? (p : Property) : Option MarkedShader.Property := do
  some { name := ← p.name.text?, displayName := ← p.displayName.text?, kind := p.kind
         defaultValue := ← p.defaultValue.text?, minValue := ← p.minValue.numeral?
         maxValue := ← p.maxValue.numeral?
         role := ← p.role.text?, rawDeclaration := ← p.rawDeclaration.text?
         defaultTexture := ← p.defaultTexture.text? }

end Property

namespace Block

def block? (b : Block) : Option MarkedShader.Block := do
  some { title := ← b.title.text?, code := ← b.code.text?, inSection := b.inSection
         intent := ← b.intent.text?
         referencedParams := ← b.referencedParams.texts?, isEnabled := ← b.isEnabled.bool?
         startLine := ← b.startLine.int?, endLine := ← b.endLine.int?, id := ← b.id.identity? }

def ask {α : Type} (ofBlock : MarkedShader.Block → α) (ofDraft : Block → α) (b : Block) : α :=
  settledOr (·.block?) ofBlock ofDraft b

end Block

namespace Stencil

def stencil? (s : Stencil) : Option MarkedShader.Stencil := do
  some { ref := ← s.ref.int?, comp := ← s.comp.text?, passOp := ← s.passOp.text?
         failOp := ← s.failOp.text?
         zfailOp := ← s.zfailOp.text?, readMask := ← s.readMask.int?
         writeMask := ← s.writeMask.int? }

end Stencil

namespace RenderState

def renderState? (s : RenderState) : Option MarkedShader.RenderState := do
  some { cull := ← s.cull.optionalText?, blend := ← s.blend.optionalText?
         zwrite := ← s.zwrite.optionalText?
         ztest := ← s.ztest.optionalText?, colorMask := ← s.colorMask.optionalText?
         stencil := ← settle Stencil.stencil? s.stencil }

end RenderState

namespace GlobalSettings

def globalSettings? (g : GlobalSettings) : Option MarkedShader.GlobalSettings := do
  some { cull := ← g.cull.text?, blend := ← g.blend.text?, zwrite := ← g.zwrite.text?
         renderType := ← g.renderType.text?, renderQueue := ← g.renderQueue.text? }

end GlobalSettings

namespace Pass

def pass? (p : Pass) : Option MarkedShader.Pass := do
  some { name := ← p.name.text?, lightMode := ← p.lightMode.text?
         blocks := ← p.blocks.mapM (·.block?)
         graph := ← settle Graph.graph? p.graph, pragmas := ← p.pragmas.mapM (·.text?)
         includes := ← p.includes.mapM (·.text?)
         renderState := ← settle RenderState.renderState? p.renderState
         isUsePass := p.isUsePass, usePassPath := ← p.usePassPath.text?, id := ← p.id.identity? }

def ask {α : Type} (ofPass : MarkedShader.Pass → α) (ofDraft : Pass → α) (p : Pass) : α :=
  settledOr (·.pass?) ofPass ofDraft p

end Pass

def document? (d : Draft) : Option Document := do
  some { shaderName := ← d.shaderName.text?, filePath := ← d.filePath.text?
         globalSettings := ← d.globalSettings.globalSettings?
         properties := ← d.properties.mapM (·.property?)
         passes := ← d.passes.mapM (·.pass?), activeIndex := d.activeIndex
         rawContent := ← d.rawContent.text?
         isDirty := d.isDirty }

/-- What is asked about a draft is asked about the document that it is, or else about the draft. -/
def ask {α : Type} (ofDocument : Document → α) (ofDraft : Draft → α) (d : Draft) : α :=
  settledOr (·.document?) ofDocument ofDraft d

/-- A draft is edited as the document that it is, or else as a draft. -/
def edit {α : Type} (inDocument : Document → Document × α) (inDraft : Draft → Draft × α)
    (d : Draft) : Draft × α :=
  d.ask (fun document => (inDocument document).map .ofDocument id) inDraft

end Draft
end MarkedShader
