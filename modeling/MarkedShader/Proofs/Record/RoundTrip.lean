import MarkedShader.Draft.Lemmas
import MarkedShader.Proofs.Record.Accepted
import MarkedShader.Record.Yaml
import MarkedShader.Registry.Standard

/-! Documents through their records. Main statement: `round_trip`. -/
namespace MarkedShader

namespace Draft

variable {d e : Draft}

lemma copied_keeps (normal : d.HasNormalFields) (h : d.copied = .ok e) :
    e.HasNormalFields ∧ e.store = d.store := by
  obtain ⟨globalSettings, -, h⟩ := Record.Read.exists_of_bind_eq_ok h
  obtain ⟨properties, -, h⟩ := Record.Read.exists_of_bind_eq_ok h
  obtain ⟨passes, hpasses, h⟩ := Record.Read.exists_of_bind_eq_ok h
  cases h
  refine ⟨fun p hp => ?_, rfl⟩
  obtain ⟨q, hq, h⟩ := Record.Read.exists_of_mem_mapM hpasses hp
  obtain ⟨renderState, -, h⟩ := Record.Read.exists_of_bind_eq_ok h
  obtain ⟨blocks, -, h⟩ := Record.Read.exists_of_bind_eq_ok h
  cases h
  exact normal q hq

/-- A draft comes back from its record as its copy, or cannot be copied into one. -/
lemma throughRecord_eq (normal : d.HasNormalFields) :
    d.throughRecord = d.copied.mapError .unspellable := by
  rw [throughRecord, toRecord_eq]
  cases h : d.copied with
  | error => rfl
  | ok e =>
    obtain ⟨hnormal, hstore⟩ := copied_keeps normal h
    show ofRecord d.store (Id.run (Record.draft pure e)) = .ok e
    rw [← hstore]
    exact Record.Read.draft_written hnormal

lemma isNormal_ofField {f : MarkedShader.Field} (h : f.IsNormal) :
    (Field.ofField f).IsNormal {} := by
  refine ⟨h.active, fun hl => ?_⟩
  have hnone : f.displayName = [] := by
    simpa [Store.isTrue, Store.view, Data.isTrue, Field.ofField] using hl
  show Data.text f.displayName = Data.text f.name
  rw [h.label hnone, hnone]

lemma isTree_ofTexts (ts : List Text) : (Data.list (ofTexts ts)).isTree := by
  refine Data.allLeaves_list_iff.mpr fun d hd => ?_
  obtain ⟨t, -, rfl⟩ := List.mem_map.mp hd
  rfl

lemma isTree_toData (id : Identity) : id.toData.isTree := by cases id <;> rfl

lemma isTree_optional (t : Option Text) : (optional t).isTree := by cases t <;> rfl

lemma isTree_ofBlock (b : MarkedShader.Block) : (Record.block (.ofBlock b)).isTree := by
  simp only [Record.block, Block.ofBlock, Record.isTree_entry, isTree_ofTexts, isTree_toData]
  rfl

lemma isTree_ofProperty (p : MarkedShader.Property) : (Record.property (.ofProperty p)).isTree := by
  have hnumber : ∀ n : Number, n.toData.isTree := fun n => by cases n <;> rfl
  simp only [Record.property, Property.ofProperty, Record.isTree_entry, hnumber]
  rfl

lemma isTree_ofRenderState (r : MarkedShader.RenderState) :
    (Record.renderState (.ofRenderState r)).isTree := by
  have hstencil : (Record.orNull Record.stencil (r.stencil.map .ofStencil)).isTree := by
    cases r.stencil <;> rfl
  simp only [Record.renderState, RenderState.ofRenderState, Record.isTree_entry,
    isTree_optional, hstencil]
  rfl

lemma holdsTrees_ofPass (p : MarkedShader.Pass) : (Pass.ofPass p).HoldsTrees := by
  refine ⟨?_, fun b hb => ?_⟩
  · show (Record.orNull Record.renderState (p.renderState.map .ofRenderState)).isTree
    cases p.renderState with
    | none => rfl
    | some r => exact isTree_ofRenderState r
  · obtain ⟨b, -, rfl⟩ := List.mem_map.mp hb
    exact isTree_ofBlock b

lemma holdsTrees_ofDocument (d : Document) : (ofDocument d).HoldsTrees := by
  refine ⟨rfl, fun p hp => ?_, fun p hp => ?_⟩
  · obtain ⟨p, -, rfl⟩ := List.mem_map.mp hp
    exact isTree_ofProperty p
  · obtain ⟨p, -, rfl⟩ := List.mem_map.mp hp
    exact holdsTrees_ofPass p

end Draft

/-- Each field of each graph is as fields are made. -/
def Document.HasNormalFields (d : Document) : Prop :=
  ∀ p ∈ d.passes, ∀ g ∈ p.graph, ∀ f ∈ g.inputs ++ g.outputs, f.IsNormal

instance (d : Document) : Decidable d.HasNormalFields :=
  inferInstanceAs
    (Decidable (∀ p ∈ d.passes, ∀ g ∈ p.graph, ∀ f ∈ g.inputs ++ g.outputs, f.IsNormal))

lemma Document.HasNormalFields.ofDocument {d : Document} (h : d.HasNormalFields) :
    (Draft.ofDocument d).HasNormalFields := by
  intro p hp f hf
  obtain ⟨q, hq, rfl⟩ := List.mem_map.mp hp
  obtain ⟨g, hg, hf⟩ := List.mem_flatMap.mp hf
  obtain ⟨graph, hgraph, rfl⟩ := Option.map_eq_some_iff.mp (Option.mem_toList.mp hg)
  obtain ⟨made, hmade, rfl⟩ : ∃ made ∈ graph.inputs ++ graph.outputs, .ofField made = f := by
    rw [← List.mem_map, List.map_append]
    exact hf
  exact Draft.isNormal_ofField (h q hq graph hgraph made hmade)

lemma Document.ofRecord_toRecord {d : Document} (h : d.HasNormalFields) :
    ofRecord d.toRecord = .ok d := by
  have hread : Draft.ofRecord {} d.toRecord = .ok (.ofDocument d) :=
    Record.Read.draft_written h.ofDocument
  simp [ofRecord, hread, Bind.bind, Except.bind]

namespace Record

/-- A document whose graph fields are as fields are made is read back from its record, and so is
whatever was read from a record: it comes back as its copy, which for a tree is what it was. -/
theorem round_trip :
    (∀ d : Document, d.HasNormalFields → Document.ofRecord d.toRecord = .ok d ∧
      (Draft.ofDocument d).throughRecord = .ok (.ofDocument d)) ∧
    ∀ (s : Store) (d : Data) (e : Draft), Draft.ofRecord s d = .ok e →
      e.throughRecord = e.copied.mapError .unspellable ∧ (d.isTree → e.throughRecord = .ok e) := by
  refine ⟨fun d h => ⟨Document.ofRecord_toRecord h, ?_⟩, fun s d e h => ?_⟩
  · rw [Draft.throughRecord_eq h.ofDocument, (Draft.holdsTrees_ofDocument d).copied]
    rfl
  · have hcopied := Draft.throughRecord_eq (Read.hasNormalFields_of_draft h)
    refine ⟨hcopied, fun hd => ?_⟩
    rw [hcopied, (Read.holdsTrees_of_draft hd h).copied]
    rfl

/-- A record of a pass that sets the reference of a stencil and leaves out the rest. -/
def stencilRecord : Data := .mapping [
  entry "version" (.int version), entry "shader_name" (.ofString "Glow"),
  entry "passes" (.list [.mapping [
    entry "id" (.int 7), entry "name" (.ofString "Lit"),
    entry "render_state" (.mapping [entry "stencil" (.mapping [entry "ref" (.int 2)])])]])]

def stencilDraft : Draft where
  shaderName := .ofString "Glow"
  filePath := .text []
  globalSettings := .ofGlobalSettings {}
  properties := []
  passes := [{
    name := .ofString "Lit", lightMode := .text [], blocks := [], graph := none, pragmas := []
    includes := []
    renderState := some { cull := .null, blend := .null, zwrite := .null, ztest := .null
                          colorMask := .null
                          stencil := some { Draft.Stencil.ofStencil {} with ref := .int 2 } }
    isUsePass := false, usePassPath := .text [], id := .int 7 }]
  activeIndex := 0
  rawContent := .text []
  isDirty := false

lemma ofRecord_stencilRecord : Draft.ofRecord {} stencilRecord = .ok stencilDraft := by
  show (do
    if !(Data.int version).same (.int version) then
      throw (Read.faultOf {} (.int version) .version (.unspellable .integerTooLong))
    .ok stencilDraft : Except RecordFault Draft) = _
  rw [Read.same_version]
  rfl

theorem round_trip_stencil :
    let d : Document :=
      { passes := [.outline .standard (.fresh 1), .depthOnly (.fresh 2)], activeIndex := 1 }
    Document.ofRecord d.toRecord = .ok d ∧ stencilDraft.throughRecord = .ok stencilDraft :=
  ⟨(round_trip.1 _ (by decide)).1,
    (round_trip.2 {} stencilRecord stencilDraft ofRecord_stencilRecord).2 (by decide)⟩

end Record
end MarkedShader
