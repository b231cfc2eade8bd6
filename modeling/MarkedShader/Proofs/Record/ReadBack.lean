import MarkedShader.Proofs.Record.Copy
import MarkedShader.Record.Read

/-! Reading what was written: each part of a draft is read from its record as it was. Main
statement: `draft_written`. -/
namespace MarkedShader
namespace Draft

/-- What holds of a field as it is read: a required one is active, and a display name that counts as
none is the name. -/
structure Field.IsNormal (s : Store) (f : Field) : Prop where
  active : f.isRequired → f.isActive
  label : s.isTrue f.displayName = false → f.displayName = f.name

def Pass.fields (p : Pass) : List Field := p.graph.toList.flatMap fun g => g.inputs ++ g.outputs

def HasNormalFields (d : Draft) : Prop := ∀ p ∈ d.passes, ∀ f ∈ p.fields, f.IsNormal d.store

end Draft

lemma mapM_of_forall_eq_ok {ε α : Type} {f : α → Except ε α} {as : List α}
    (h : ∀ a ∈ as, f a = .ok a) : as.mapM f = .ok as := by
  induction as with
  | nil => rfl
  | cons a as ih =>
    rw [List.mapM_cons, h a List.mem_cons_self, ih fun b hb => h b (List.mem_cons_of_mem a hb)]
    rfl

namespace Record.Read
variable (s : Store)

lemma optional_orNull {α : Type} {read : Data → Except RecordFault α} {write : α → Data}
    {a : Option α} (h : ∀ b ∈ a, read (write b) = .ok b) (null : ∀ b, write b ≠ .null) :
    optional read (orNull write a) = .ok a := by
  cases a with
  | none => rfl
  | some a =>
    show optional read (write a) = _
    rw [optional, h a rfl]
    · rfl
    · exact fun e => null a e

lemma property_written (p : Draft.Property) : property s (Record.property p) = .ok p := by
  obtain ⟨_, _, kind⟩ := p
  cases kind <;> rfl

lemma block_written (serial : Nat) (b : Draft.Block) : block s serial (Record.block b) = .ok b := by
  obtain ⟨_, _, inSection⟩ := b
  cases inSection <;> rfl

lemma blocks_written (serial : Nat) (bs : List Draft.Block) :
    blocks s serial (bs.map Record.block) = .ok bs := by
  induction bs generalizing serial with
  | nil => rfl
  | cons b bs ih =>
    rw [List.map_cons, blocks, block_written, ih]
    rfl

lemma field_written {f : Draft.Field} (h : f.IsNormal s) : field s (Record.field f) = .ok f := by
  obtain ⟨name, dataType, semantic, label, stage, isRequired, isActive, note⟩ := f
  obtain ⟨hactive, hlabel⟩ := h
  have hread :
      field s (Record.field ⟨name, dataType, semantic, label, stage, isRequired, isActive, note⟩) =
      .ok ⟨name, dataType, semantic, if s.isTrue label then label else name, stage, isRequired,
        isRequired || isActive, note⟩ := by
    cases stage <;> rfl
  have hlabel : (if s.isTrue label then label else name) = label := by
    cases hl : s.isTrue label with
    | true => rfl
    | false => exact (hlabel hl).symm
  have hactive : (isRequired || isActive) = isActive := by
    cases isRequired with
    | true => exact (hactive rfl).symm
    | false => rfl
  rw [hread, hlabel, hactive]

lemma graph_written {g : Draft.Graph} (h : ∀ f ∈ g.inputs ++ g.outputs, f.IsNormal s) :
    graph s (Record.graph g) = .ok g := by
  have hinputs : (g.inputs.map Record.field).mapM (field s) = .ok g.inputs := by
    rw [List.mapM_map]
    exact mapM_of_forall_eq_ok fun f hf => field_written s (h f (List.mem_append_left _ hf))
  have houtputs : (g.outputs.map Record.field).mapM (field s) = .ok g.outputs := by
    rw [List.mapM_map]
    exact mapM_of_forall_eq_ok fun f hf => field_written s (h f (List.mem_append_right _ hf))
  show (do
    let inputs ← (g.inputs.map Record.field).mapM (field s)
    let outputs ← (g.outputs.map Record.field).mapM (field s)
    .ok ⟨inputs, outputs⟩ : Except RecordFault Draft.Graph) = _
  rw [hinputs, houtputs]
  rfl

lemma stencil_written (t : Draft.Stencil) : stencil s (Record.stencil t) = .ok t := rfl

lemma renderState_written (r : Draft.RenderState) :
    renderState s (Record.renderState r) = .ok r := by
  have hstencil : optional (stencil s) (orNull Record.stencil r.stencil) = .ok r.stencil :=
    optional_orNull (fun t _ => stencil_written s t) fun _ => nofun
  show (do
    Except.ok { r with stencil := ← optional (stencil s) (orNull Record.stencil r.stencil) } :
      Except RecordFault _) = _
  rw [hstencil]
  rfl

lemma globalSettings_written (g : Draft.GlobalSettings) :
    globalSettings s (Record.globalSettings g) = .ok g := rfl

lemma pass_written (serial : Nat) {p : Draft.Pass} (h : ∀ f ∈ p.fields, f.IsNormal s) :
    pass s serial (Id.run (Record.pass pure p)) = .ok p := by
  have hgraph : optional (graph s) (orNull Record.graph p.graph) = .ok p.graph :=
    optional_orNull (fun g hg => graph_written s fun f hf =>
      h f (List.mem_flatMap.mpr ⟨g, by simpa using hg, hf⟩)) fun _ => nofun
  have hblocks := blocks_written s serial p.blocks
  have hstate :
      optional (renderState s) (orNull Record.renderState p.renderState) = .ok p.renderState :=
    optional_orNull (fun r _ => renderState_written s r) fun _ => nofun
  simp only [Record.pass, pure_bind, List.mapM_pure]
  show (do
    let graph ← optional (graph s) (orNull Record.graph p.graph)
    let blocks ← blocks s serial (p.blocks.map Record.block)
    let renderState ← optional (renderState s) (orNull Record.renderState p.renderState)
    .ok { p with blocks, graph, renderState } : Except RecordFault _) = _
  rw [hgraph, hblocks, hstate]
  rfl

lemma passes_written (serial : Nat) {ps : List Draft.Pass}
    (h : ∀ p ∈ ps, ∀ f ∈ p.fields, f.IsNormal s) :
    passes s serial (ps.map fun p => Id.run (Record.pass pure p)) = .ok ps := by
  induction ps generalizing serial with
  | nil => rfl
  | cons p ps ih =>
    rw [List.map_cons, passes, pass_written s serial (h p List.mem_cons_self)]
    show (do
      let ps ← passes s (serial + p.blocks.length) (ps.map fun p => Id.run (Record.pass pure p))
      .ok (p :: ps) : Except RecordFault _) = _
    rw [ih _ fun q hq => h q (List.mem_cons_of_mem p hq)]
    rfl

lemma same_version : (Data.int version).same (.int version) = true := by
  simp [Data.same, Data.equalWith, Data.number?, Number.sameValue, Number.le]

theorem draft_written {d : Draft} (h : d.HasNormalFields) :
    draft d.store (Id.run (Record.draft pure d)) = .ok d := by
  have hproperties :
      (d.properties.map Record.property).mapM (property d.store) = .ok d.properties := by
    rw [List.mapM_map]
    exact mapM_of_forall_eq_ok fun p _ => property_written d.store p
  let ps := d.passes.map fun p => Id.run (Record.pass pure p)
  have hpasses : passes d.store (nextSerial d.store ps) ps = .ok d.passes :=
    passes_written d.store _ h
  simp only [Record.draft, pure_bind, List.mapM_pure, Id.run_bind, List.idRun_mapM, Id.run_pure]
  show (do
    if !(Data.int version).same (.int version) then
      throw (faultOf d.store (.int version) .version (.unspellable .integerTooLong))
    let properties ← (d.properties.map Record.property).mapM (property d.store)
    let passes ← passes d.store (nextSerial d.store ps) ps
    .ok { d with properties, passes } : Except RecordFault _) = _
  rw [same_version, hproperties, hpasses]
  rfl

end Record.Read

namespace Draft

/-- The parts of a pass that are copied into a record are trees. -/
structure Pass.HoldsTrees (p : Pass) : Prop where
  renderState : (Record.orNull Record.renderState p.renderState).isTree
  blocks : ∀ b ∈ p.blocks, (Record.block b).isTree

/-- The parts of a draft that are copied into a record are trees. -/
structure HoldsTrees (d : Draft) : Prop where
  globalSettings : (Record.globalSettings d.globalSettings).isTree
  properties : ∀ p ∈ d.properties, (Record.property p).isTree
  passes : ∀ p ∈ d.passes, p.HoldsTrees

/-- What is written as a tree is copied as it is, as it can be read back. -/
lemma copied_of_isTree {s : Store} {α : Type} {write : α → Data} {copied : α → Except Data.Fault α}
    {read : Data → Except RecordFault α} (hcopy : ∀ a, s.copy (write a) = write <$> copied a)
    (hread : ∀ a, read (write a) = .ok a) {a : α} (h : (write a).isTree) : copied a = .ok a := by
  have hwrite := hcopy a
  rw [s.copy_of_isTree h] at hwrite
  cases hb : copied a with
  | error =>
    rw [hb] at hwrite
    cases hwrite
  | ok b =>
    rw [hb] at hwrite
    have hsame : (.ok a : Except RecordFault α) = .ok b := by
      rw [← hread a, Except.ok.inj hwrite, hread b]
    rw [Except.ok.inj hsame]

open Record.Read

lemma Pass.HoldsTrees.copied {p : Pass} (h : p.HoldsTrees) (s : Store) : p.copied s = .ok p := by
  have hstate : copiedOr (·.copied s) p.renderState = .ok p.renderState := by
    have htree := h.renderState
    cases hr : p.renderState with
    | none => rfl
    | some r =>
      rw [hr] at htree
      rw [copiedOr, copied_of_isTree (copy_renderState s) (renderState_written s) htree]
      rfl
  have hblocks : p.blocks.mapM (·.copied s) = .ok p.blocks :=
    mapM_of_forall_eq_ok fun b hb =>
      copied_of_isTree (copy_block s) (block_written s 0) (h.blocks b hb)
  rw [Pass.copied, hstate]
  show (do
    let blocks ← p.blocks.mapM (·.copied s)
    .ok { p with blocks } : Except Data.Fault _) = _
  rw [hblocks]
  rfl

lemma HoldsTrees.copied {d : Draft} (h : d.HoldsTrees) : d.copied = .ok d := by
  have hsettings : d.globalSettings.copied d.store = .ok d.globalSettings :=
    copied_of_isTree (copy_globalSettings d.store) (globalSettings_written d.store) h.globalSettings
  have hproperties : d.properties.mapM (·.copied d.store) = .ok d.properties :=
    mapM_of_forall_eq_ok fun p hp =>
      copied_of_isTree (copy_property d.store) (property_written d.store) (h.properties p hp)
  have hpasses : d.passes.mapM (·.copied d.store) = .ok d.passes :=
    mapM_of_forall_eq_ok fun p hp => (h.passes p hp).copied d.store
  rw [Draft.copied, hsettings]
  show (do
    let properties ← d.properties.mapM (·.copied d.store)
    let passes ← d.passes.mapM (·.copied d.store)
    .ok { d with properties, passes } : Except Data.Fault _) = _
  rw [hproperties, hpasses]
  rfl

end Draft
end MarkedShader
