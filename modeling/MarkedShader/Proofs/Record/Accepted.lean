import MarkedShader.Proofs.Record.ReadBack

/-! What is read from a record: where the parts of a draft come from, and what holds of them. Main
statements: `hasNormalFields_of_draft` for all records, and `holdsTrees_of_draft` for trees. -/
namespace MarkedShader
namespace Record.Read

lemma exists_of_bind_eq_ok {ε α β : Type} {x : Except ε α} {k : α → Except ε β} {b : β}
    (h : x >>= k = .ok b) : ∃ a, x = .ok a ∧ k a = .ok b := by
  cases x with
  | error => contradiction
  | ok a => exact ⟨a, rfl, h⟩

/-- Where each item is read in its turn, and a state goes on from one to the next, all that is read
comes from an item. -/
lemma exists_of_mem_each {σ ε α β : Type}
    {each : σ → List α → Except ε (List β)} {read : σ → α → Except ε β}
    {next : σ → β → σ} {state : σ} {as : List α} {bs : List β} (h : each state as = .ok bs)
    (nil : ∀ state, each state [] = .ok [])
    (cons : ∀ state a as, each state (a :: as) = do
      let b ← read state a
      let bs ← each (next state b) as
      .ok (b :: bs)) {b : β} (hb : b ∈ bs) :
    ∃ state, ∃ a ∈ as, read state a = .ok b := by
  induction as generalizing state bs with
  | nil =>
    rw [nil] at h
    cases h
    contradiction
  | cons a as ih =>
    rw [cons] at h
    obtain ⟨c, hc, h⟩ := exists_of_bind_eq_ok h
    obtain ⟨cs, hcs, h⟩ := exists_of_bind_eq_ok h
    cases h
    rcases List.mem_cons.mp hb with rfl | hb
    · exact ⟨state, a, List.mem_cons_self, hc⟩
    · obtain ⟨state, a', ha', hread⟩ := ih hcs hb
      exact ⟨state, a', List.mem_cons_of_mem a ha', hread⟩

/-- What is in a list that was read comes from an item that it was read from. -/
theorem exists_of_mem_mapM {ε α β : Type} {read : α → Except ε β} {as : List α} {bs : List β}
    (h : as.mapM read = .ok bs) {b : β} (hb : b ∈ bs) : ∃ a ∈ as, read a = .ok b := by
  obtain ⟨_, hread⟩ := @exists_of_mem_each Unit ε α β (fun _ => List.mapM read) (fun _ => read)
    (fun _ _ => ()) () as bs h (fun _ => rfl) (fun _ _ _ => List.mapM_cons) b hb
  exact hread

variable {s : Store} {d : Data}

lemma read_of_optional {α : Type} {read : Data → Except RecordFault α} {b : α}
    (h : optional read d = .ok (some b)) : read d = .ok b := by
  unfold optional at h
  split at h
  · cases h
  · cases hread : read d with
    | error => simp [hread, Except.map] at h
    | ok c => simpa [hread, Except.map] using h

lemma exists_of_mem_blocks {serial : Nat} {ds : List Data} {bs : List Draft.Block}
    (h : blocks s serial ds = .ok bs) {b : Draft.Block} (hb : b ∈ bs) :
    ∃ serial, ∃ d ∈ ds, block s serial d = .ok b :=
  exists_of_mem_each h (fun _ => rfl) (fun _ _ _ => rfl) hb

lemma exists_of_mem_passes {serial : Nat} {ds : List Data} {ps : List Draft.Pass}
    (h : passes s serial ds = .ok ps) {p : Draft.Pass} (hp : p ∈ ps) :
    ∃ serial, ∃ d ∈ ds, pass s serial d = .ok p :=
  exists_of_mem_each h (fun _ => rfl) (fun _ _ _ => rfl) hp

lemma isNormal_of_field {f : Draft.Field} (h : field s d = .ok f) : f.IsNormal s := by
  obtain ⟨es, -, h⟩ := exists_of_bind_eq_ok h
  obtain ⟨name, -, h⟩ := exists_of_bind_eq_ok h
  obtain ⟨dataType, -, h⟩ := exists_of_bind_eq_ok h
  obtain ⟨d, -, h⟩ := exists_of_bind_eq_ok h
  obtain ⟨stage, -, h⟩ := exists_of_bind_eq_ok h
  cases h
  refine ⟨fun hr => ?_, fun hl => ?_⟩
  · exact Bool.or_eq_true_iff.mpr (.inl hr)
  · simp only at hl ⊢
    split at hl
    · rename_i hlabel
      rw [hlabel] at hl
      cases hl
    · exact if_neg ‹_›

lemma isNormal_of_graph {g : Draft.Graph} (h : graph s d = .ok g) :
    ∀ f ∈ g.inputs ++ g.outputs, f.IsNormal s := by
  obtain ⟨es, -, h⟩ := exists_of_bind_eq_ok h
  obtain ⟨inputs, -, h⟩ := exists_of_bind_eq_ok h
  obtain ⟨ds, -, h⟩ := exists_of_bind_eq_ok h
  obtain ⟨fs, hfs, h⟩ := exists_of_bind_eq_ok h
  obtain ⟨outputs, -, h⟩ := exists_of_bind_eq_ok h
  obtain ⟨ds', -, h⟩ := exists_of_bind_eq_ok h
  obtain ⟨gs, hgs, h⟩ := exists_of_bind_eq_ok h
  cases h
  intro f hf
  rcases List.mem_append.mp hf with hf | hf
  · obtain ⟨_, _, hf⟩ := exists_of_mem_mapM hfs hf
    exact isNormal_of_field hf
  · obtain ⟨_, _, hf⟩ := exists_of_mem_mapM hgs hf
    exact isNormal_of_field hf

/-- Where the parts of a pass come from that consist of others. -/
lemma of_pass {serial : Nat} {p : Draft.Pass} (h : pass s serial d = .ok p) :
    ∃ es ds, entriesOr s .noParts d = .ok es ∧
      optional (graph s) (getD es "data_flow" .null) = .ok p.graph ∧
      items s (getD es "blocks" (.list [])) = .ok ds ∧ blocks s serial ds = .ok p.blocks ∧
      optional (renderState s) (getD es "render_state" .null) = .ok p.renderState := by
  obtain ⟨es, hes, h⟩ := exists_of_bind_eq_ok h
  obtain ⟨graph, hgraph, h⟩ := exists_of_bind_eq_ok h
  obtain ⟨ds, hds, h⟩ := exists_of_bind_eq_ok h
  obtain ⟨blocks, hblocks, h⟩ := exists_of_bind_eq_ok h
  obtain ⟨id, -, h⟩ := exists_of_bind_eq_ok h
  obtain ⟨name, -, h⟩ := exists_of_bind_eq_ok h
  obtain ⟨pragmas, -, h⟩ := exists_of_bind_eq_ok h
  obtain ⟨includes, -, h⟩ := exists_of_bind_eq_ok h
  obtain ⟨renderState, hstate, h⟩ := exists_of_bind_eq_ok h
  cases h
  exact ⟨es, ds, hes, hgraph, hds, hblocks, hstate⟩

lemma isNormal_of_pass {serial : Nat} {p : Draft.Pass} (h : pass s serial d = .ok p) :
    ∀ f ∈ p.fields, f.IsNormal s := by
  obtain ⟨es, ds, -, hgraph, -⟩ := of_pass h
  intro f hf
  obtain ⟨g, hg, hf⟩ := List.mem_flatMap.mp hf
  rw [Option.mem_toList.mp hg] at hgraph
  exact isNormal_of_graph (read_of_optional hgraph) f hf

lemma of_draft {e : Draft} (h : draft s d = .ok e) :
    e.store = s ∧ ∃ es ds as serial, entriesOr s .notMapping d = .ok es ∧
      items s (getD es "properties" (.list [])) = .ok ds ∧ ds.mapM (property s) = .ok e.properties ∧
      globalSettings s (getD es "global_settings" (.mapping [])) = .ok e.globalSettings ∧
      items s (getD es "passes" (.list [])) = .ok as ∧ passes s serial as = .ok e.passes := by
  obtain ⟨es, hes, h⟩ := exists_of_bind_eq_ok h
  dsimp only at h
  split at h
  · contradiction
  · obtain ⟨ds, hds, h⟩ := exists_of_bind_eq_ok h
    obtain ⟨properties, hproperties, h⟩ := exists_of_bind_eq_ok h
    obtain ⟨shaderName, -, h⟩ := exists_of_bind_eq_ok h
    obtain ⟨active, -, h⟩ := exists_of_bind_eq_ok h
    obtain ⟨settings, hsettings, h⟩ := exists_of_bind_eq_ok h
    obtain ⟨as, has, h⟩ := exists_of_bind_eq_ok h
    obtain ⟨passes, hpasses, h⟩ := exists_of_bind_eq_ok h
    cases h
    exact ⟨rfl, es, ds, as, _, hes, hds, hproperties, hsettings, has, hpasses⟩

theorem hasNormalFields_of_draft {e : Draft} (h : draft s d = .ok e) : e.HasNormalFields := by
  obtain ⟨rfl, es, ds, as, serial, -, -, -, -, -, hpasses⟩ := of_draft h
  intro p hp
  obtain ⟨serial, d, -, hread⟩ := exists_of_mem_passes hpasses hp
  exact isNormal_of_pass hread

variable {es : Entries}

lemma isTree_of_lookup? {key : String} (h : (Data.mapping es).isTree)
    (hd : Data.lookup? key es = some d) : d.isTree := by
  induction es with
  | nil => contradiction
  | cons e es ih =>
    obtain ⟨hentry, hes⟩ := Bool.and_eq_true_iff.mp h
    unfold Data.lookup? at hd
    split at hd
    · cases hd
      exact (Bool.and_eq_true_iff.mp hentry).2
    · exact ih hes hd

lemma isTree_getD (h : (Data.mapping es).isTree) (key : String) {d : Data} (hd : d.isTree) :
    (getD es key d).isTree := by
  unfold getD
  cases hfound : Data.lookup? key es with
  | none => exact hd
  | some d => exact isTree_of_lookup? h hfound

lemma isTree_of_partOf {key : String} (h : (Data.mapping es).isTree)
    (hd : partOf es key = .ok d) : d.isTree := by
  unfold partOf at hd
  split at hd
  · cases hd
    exact isTree_of_lookup? h ‹_›
  · contradiction

lemma isTree_insert {key value : Data} (hkey : key.isTree) (hvalue : value.isTree)
    (h : (Data.mapping es).isTree) : (Data.mapping (Data.insert key value es)).isTree := by
  induction es with
  | nil => exact Bool.and_eq_true_iff.mpr ⟨Bool.and_eq_true_iff.mpr ⟨hkey, hvalue⟩, rfl⟩
  | cons e es ih =>
    obtain ⟨hentry, hes⟩ := Bool.and_eq_true_iff.mp h
    unfold Data.insert
    split
    · have hk := (Bool.and_eq_true_iff.mp hentry).1
      exact Bool.and_eq_true_iff.mpr ⟨Bool.and_eq_true_iff.mpr ⟨hk, hvalue⟩, hes⟩
    · exact Bool.and_eq_true_iff.mpr ⟨hentry, ih hes⟩

lemma isTree_of_items {ds : List Data} (h : d.isTree) (hds : items s d = .ok ds) :
    ∀ d ∈ ds, d.isTree := by
  unfold items Store.items? at hds
  rw [s.view_of_isTree h] at hds
  cases d with
  | list | tuple =>
    cases hds
    exact Data.allLeaves_list_iff.mp h
  | text | bytes =>
    cases hds
    intro d hd
    obtain ⟨_, -, rfl⟩ := List.mem_map.mp hd
    rfl
  | mapping es =>
    cases hds
    intro d hd
    obtain ⟨e, he, rfl⟩ := List.mem_map.mp hd
    exact (Data.allLeaves_mapping_iff.mp h e he).1
  | set => exact absurd h Bool.false_ne_true
  | _ => contradiction

lemma isTree_of_entriesOr {fault : RecordFault} (h : d.isTree)
    (hes : entriesOr s fault d = .ok es) : (Data.mapping es).isTree := by
  unfold entriesOr at hes
  rw [s.view_of_isTree h] at hes
  split at hes
  · cases hes
    exact h
  · contradiction

lemma isTree_of_ofPairs {index : Nat} {fs : Entries} {ds : List Data} (hds : ∀ d ∈ ds, d.isTree)
    (hfs : (Data.mapping fs).isTree) (h : ofPairs s index fs ds = .ok es) :
    (Data.mapping es).isTree := by
  induction ds generalizing index fs with
  | nil =>
    cases h
    exact hfs
  | cons d ds ih =>
    obtain ⟨parts, hparts, h⟩ := exists_of_bind_eq_ok h
    have trees := isTree_of_items (hds d List.mem_cons_self) hparts
    split at h
    · split at h
      · exact ih (fun d hd => hds d (List.mem_cons_of_mem _ hd))
          (isTree_insert (trees _ (by simp)) (trees _ (by simp)) hfs) h
      · contradiction
    · contradiction

lemma isTree_of_copied (h : d.isTree) (hes : copied s d = .ok es) : (Data.mapping es).isTree := by
  unfold copied at hes
  rw [s.view_of_isTree h] at hes
  split at hes
  · cases hes
    exact h
  · obtain ⟨ds, hds, hes⟩ := exists_of_bind_eq_ok hes
    exact isTree_of_ofPairs (isTree_of_items h hds) rfl hes

lemma eq_of_onlyNamed {names : List String} {fs : Entries}
    (h : onlyNamed names es = .ok fs) : fs = es := by
  unfold onlyNamed at h
  split at h
  · cases h
    rfl
  · contradiction

lemma isTree_property {p : Draft.Property} (hd : d.isTree) (h : property s d = .ok p) :
    (Record.property p).isTree := by
  obtain ⟨es, hes, h⟩ := exists_of_bind_eq_ok h
  obtain ⟨found, -, h⟩ := exists_of_bind_eq_ok h
  obtain ⟨kind, -, h⟩ := exists_of_bind_eq_ok h
  obtain ⟨fs, hfs, h⟩ := exists_of_bind_eq_ok h
  obtain ⟨name, hname, h⟩ := exists_of_bind_eq_ok h
  cases h
  cases eq_of_onlyNamed hfs
  have trees := isTree_of_copied hd hes
  simp only [Record.property, isTree_entry, Bool.and_eq_true]
  and_intros <;> first | exact isTree_of_partOf trees hname | exact isTree_getD trees _ rfl | rfl

lemma isTree_block {serial : Nat} {b : Draft.Block} (hd : d.isTree) (h : block s serial d = .ok b) :
    (Record.block b).isTree := by
  obtain ⟨es, hes, h⟩ := exists_of_bind_eq_ok h
  obtain ⟨found, -, h⟩ := exists_of_bind_eq_ok h
  obtain ⟨inSection, -, h⟩ := exists_of_bind_eq_ok h
  obtain ⟨fs, hfs, h⟩ := exists_of_bind_eq_ok h
  obtain ⟨title, htitle, h⟩ := exists_of_bind_eq_ok h
  cases h
  cases eq_of_onlyNamed hfs
  have trees := isTree_of_copied hd hes
  simp only [Record.block, isTree_entry, Bool.and_eq_true]
  and_intros <;> first | exact isTree_of_partOf trees htitle | exact isTree_getD trees _ rfl | rfl

lemma isTree_stencil {t : Draft.Stencil} (hd : d.isTree) (h : stencil s d = .ok t) :
    (Record.stencil t).isTree := by
  obtain ⟨es, hes, h⟩ := exists_of_bind_eq_ok h
  obtain ⟨fs, hfs, h⟩ := exists_of_bind_eq_ok h
  cases h
  cases eq_of_onlyNamed hfs
  have trees := isTree_of_entriesOr hd hes
  simp only [Record.stencil, isTree_entry, Bool.and_eq_true]
  and_intros <;> first | exact isTree_getD trees _ rfl | rfl

lemma isTree_orNull {α : Type} {read : Data → Except RecordFault α} {write : α → Data}
    {a : Option α} (h : optional read d = .ok a) (htree : ∀ b, read d = .ok b → (write b).isTree) :
    (orNull write a).isTree := by
  cases a with
  | none => rfl
  | some b => exact htree b (read_of_optional h)

lemma isTree_renderState {r : Draft.RenderState} (hd : d.isTree) (h : renderState s d = .ok r) :
    (Record.renderState r).isTree := by
  obtain ⟨es, hes, h⟩ := exists_of_bind_eq_ok h
  obtain ⟨found, hfound, h⟩ := exists_of_bind_eq_ok h
  cases h
  have trees := isTree_of_entriesOr hd hes
  have hstencil := isTree_orNull hfound fun t => isTree_stencil (isTree_getD trees _ rfl)
  simp only [Record.renderState, isTree_entry, Bool.and_eq_true]
  and_intros <;> first | exact hstencil | exact isTree_getD trees _ rfl | rfl

lemma isTree_globalSettings {g : Draft.GlobalSettings} (hd : d.isTree)
    (h : globalSettings s d = .ok g) : (Record.globalSettings g).isTree := by
  obtain ⟨es, hes, h⟩ := exists_of_bind_eq_ok h
  obtain ⟨fs, hfs, h⟩ := exists_of_bind_eq_ok h
  cases h
  cases eq_of_onlyNamed hfs
  have trees := isTree_of_entriesOr hd hes
  simp only [Record.globalSettings, isTree_entry, Bool.and_eq_true]
  and_intros <;> first | exact isTree_getD trees _ rfl | rfl

lemma holdsTrees_of_pass {serial : Nat} {p : Draft.Pass} (hd : d.isTree)
    (h : pass s serial d = .ok p) : p.HoldsTrees := by
  obtain ⟨es, ds, hes, -, hds, hblocks, hstate⟩ := of_pass h
  have trees := isTree_of_entriesOr hd hes
  refine ⟨isTree_orNull hstate fun r =>
    isTree_renderState (isTree_getD trees _ rfl), fun b hb => ?_⟩
  obtain ⟨serial, c, hc, hread⟩ := exists_of_mem_blocks hblocks hb
  exact isTree_block (isTree_of_items (isTree_getD trees _ rfl) hds c hc) hread

theorem holdsTrees_of_draft {e : Draft} (hd : d.isTree) (h : draft s d = .ok e) : e.HoldsTrees := by
  obtain ⟨rfl, es, ds, as, serial, hes, hds, hproperties, hsettings, has, hpasses⟩ := of_draft h
  have trees := isTree_of_entriesOr hd hes
  refine ⟨isTree_globalSettings (isTree_getD trees _ rfl) hsettings, fun p hp => ?_, fun p hp => ?_⟩
  · obtain ⟨c, hc, hread⟩ := exists_of_mem_mapM hproperties hp
    exact isTree_property (isTree_of_items (isTree_getD trees _ rfl) hds c hc) hread
  · obtain ⟨serial, c, hc, hread⟩ := exists_of_mem_passes hpasses hp
    exact holdsTrees_of_pass (isTree_of_items (isTree_getD trees _ rfl) has c hc) hread

end Record.Read
end MarkedShader
