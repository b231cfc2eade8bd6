import MarkedShader.Draft.Settled

/-! A document is what the draft made of it is settled as. Main statement: `document?_ofDocument`,
so that whatever is asked about such a draft is asked about the document. -/
namespace MarkedShader

namespace Data

@[simp] theorem text?_text (t : Text) : (text t).text? = some t := rfl

@[simp] theorem int?_int (i : Int) : (int i).int? = some i := rfl

@[simp] theorem bool?_bool (value : Bool) : (bool value).bool? = some value := rfl

@[simp] theorem numeral?_toData (n : Number) : n.toData.numeral? = some n := by cases n <;> rfl

@[simp] theorem identity?_toData (id : Identity) : id.toData.identity? = some id := by
  cases id <;> rfl

end Data

namespace Draft

theorem mapM_map_of_left_inverse {α β : Type} {settled? : α → Option β} {ofSettled : β → α}
    (h : ∀ b, settled? (ofSettled b) = some b) (bs : List β) :
    (bs.map ofSettled).mapM settled? = some bs := by
  induction bs with
  | nil => rfl
  | cons b bs ih => simp [h, ih]

theorem settle_map_of_left_inverse {α β : Type} {settled? : α → Option β} {ofSettled : β → α}
    (h : ∀ b, settled? (ofSettled b) = some b) (b : Option β) :
    settle settled? (b.map ofSettled) = some b := by
  cases b with
  | none => rfl
  | some b => simp [settle, h]

@[simp] theorem mapM_text?_ofTexts (ts : List Text) : (ofTexts ts).mapM (·.text?) = some ts :=
  mapM_map_of_left_inverse Data.text?_text ts

@[simp] theorem optionalText?_optional (t : Option Text) : (optional t).optionalText? = some t := by
  cases t <;> rfl

@[simp] theorem field?_ofField (f : MarkedShader.Field) : (Field.ofField f).field? = some f := rfl

@[simp] theorem graph?_ofGraph (g : MarkedShader.Graph) : (Graph.ofGraph g).graph? = some g := by
  simp [Graph.graph?, Graph.ofGraph, mapM_map_of_left_inverse field?_ofField]

@[simp] theorem property?_ofProperty (p : MarkedShader.Property) :
    (Property.ofProperty p).property? = some p := by
  simp [Property.property?, Property.ofProperty]

@[simp] theorem block?_ofBlock (b : MarkedShader.Block) : (Block.ofBlock b).block? = some b := by
  simp [Block.block?, Block.ofBlock, Data.texts?]

@[simp] theorem stencil?_ofStencil (s : MarkedShader.Stencil) :
    (Stencil.ofStencil s).stencil? = some s := rfl

@[simp] theorem renderState?_ofRenderState (s : MarkedShader.RenderState) :
    (RenderState.ofRenderState s).renderState? = some s := by
  simp [RenderState.renderState?, RenderState.ofRenderState,
    settle_map_of_left_inverse stencil?_ofStencil]

@[simp] theorem globalSettings?_ofGlobalSettings (g : MarkedShader.GlobalSettings) :
    (GlobalSettings.ofGlobalSettings g).globalSettings? = some g := rfl

@[simp] theorem pass?_ofPass (p : MarkedShader.Pass) : (Pass.ofPass p).pass? = some p := by
  simp [Pass.pass?, Pass.ofPass, mapM_map_of_left_inverse block?_ofBlock,
    settle_map_of_left_inverse graph?_ofGraph,
    settle_map_of_left_inverse renderState?_ofRenderState]

@[simp] theorem document?_ofDocument (d : Document) : (ofDocument d).document? = some d := by
  simp [document?, ofDocument, mapM_map_of_left_inverse property?_ofProperty,
    mapM_map_of_left_inverse pass?_ofPass]

@[simp] theorem ask_ofDocument {α : Type} (aboutDocument : Document → α) (aboutDraft : Draft → α)
    (d : Document) : (ofDocument d).ask aboutDocument aboutDraft = aboutDocument d := by
  simp [ask, settledOr]

end Draft
end MarkedShader
