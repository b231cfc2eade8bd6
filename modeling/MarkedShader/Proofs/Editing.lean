import MarkedShader.File
import MarkedShader.Generated
import MarkedShader.Proofs.Answers
import MarkedShader.Proofs.Graph.Calls
import Mathlib.Data.List.InsertIdx

/-! Runs of edits on a document, and which blocks and which raw text they leave. -/
namespace MarkedShader

/-- A change of a block in place. -/
inductive BlockEdit
  | title (t : Text)
  | code (t : Text)
  | inSection (s : Section)
  | intent (t : Text)
  | enable (value : Bool)
  | addParam (param : Text)

def BlockEdit.apply : BlockEdit → Block → Block
  | .title t, b => { b with title := t }
  | .code t, b => { b with code := t }
  | .inSection s, b => { b with inSection := s }
  | .intent t, b => { b with intent := t }
  | .enable value, b => { b with isEnabled := value }
  | .addParam param, b => b.addParam param

/-- A change of a pass in place. -/
inductive PassEdit
  | addBlock (b : Block)
  | removeBlock (id : Identity)
  | addPragma (pragma : Text)
  | addInclude (path : Text)
  | renderState (s : Option RenderState)
  | graph (c : Graph.Call)

/-- A use-pass refuses blocks, pragmas and includes. -/
def PassEdit.apply (r : Registry) (p : Pass) : PassEdit → Pass
  | .addBlock b => match p.addBlock b with
    | .ok q => q
    | .error _ => p
  | .removeBlock id => p.removeBlock id
  | .addPragma pragma => match p.addPragma pragma with
    | .ok (q, _) => q
    | .error _ => p
  | .addInclude path => match p.addInclude path with
    | .ok (q, _) => q
    | .error _ => p
  | .renderState s => { p with renderState := s }
  | .graph c => { p with graph := p.graph.map (c.apply r) }

/-- A change of a document: of its passes, its blocks or its properties, or saving it. -/
inductive Edit
  | rename (shaderName : Text)
  | setActivePass (index : Int)
  | addPass (p : Pass)
  | removePass (id : Identity)
  | movePass (source target : Int)
  | changePass (index : Nat) (e : PassEdit)
  | setGlobals (g : GlobalSettings)
  | addBlock (b : Block)
  | removeBlock (id : Identity)
  | updateCode (id : Identity) (code : Text)
  | changeBlock (place : Position) (e : BlockEdit)
  | store (response : Text) (target : Generated.Target)
  | addProperty (p : Property)
  | removeProperty (name : Text)
  | mergeProperties (ps : List Property)
  | markClean
  | save (path : Text)

/-- The document after an edit; one that is refused leaves it as it is. -/
def Edit.apply (settings : Settings) (r : Registry) (d : Document) : Edit → Document
  | .rename shaderName => { d with shaderName }
  | .setActivePass index => (d.setActivePass index).1
  | .addPass p => d.addPass p
  | .removePass id => (d.removePass id).1
  | .movePass source target => (d.movePass source target).1
  | .changePass index e => d.modifyPass index fun p => e.apply r p
  | .setGlobals g => { d with globalSettings := g }
  | .addBlock b => match d.addBlock b with
    | .ok e => e
    | .error _ => d
  | .removeBlock id => (d.removeBlock id).1
  | .updateCode id code => (d.updateCode id code).1
  | .changeBlock place e => d.modifyBlock place e.apply
  | .store response target => match Generated.store d response target with
    | .ok (e, _) => e
    | .error _ => d
  | .addProperty p => (d.addProperty p).1
  | .removeProperty name => (d.removeProperty name).1
  | .mergeProperties ps => (d.mergeProperties ps).1
  | .markClean => d.markClean
  | .save path => match d.save? settings r path with
    | some s => s.saved
    | none => d

/-- The blocks that an edit brings into a document as they are. -/
def Edit.brings : Edit → List Block
  | .addPass p => p.blocks
  | .changePass _ (.addBlock b) | .addBlock b => [b]
  | _ => []

def Document.after (settings : Settings) (r : Registry) (d : Document)
    (edits : List Edit) : Document :=
  edits.foldl (Edit.apply settings r) d

namespace Document

lemma mem_allBlocks {d : Document} {b : Block} : b ∈ d.allBlocks ↔ ∃ p ∈ d.passes, b ∈ p.blocks :=
  List.mem_flatMap

lemma mem_of_blockAt? {d : Document} {place : Position} {b : Block}
    (h : d.blockAt? place = some b) : b ∈ d.allBlocks := by
  obtain ⟨p, hp, hb⟩ := Option.bind_eq_some_iff.mp h
  exact mem_allBlocks.mpr ⟨p, List.mem_of_getElem? hp, List.mem_of_getElem? hb⟩

/-- The blocks at the places of a document are all its blocks, in order. -/
lemma filterMap_positions (d : Document) : d.positions.filterMap d.blockAt? = d.allBlocks := by
  have hrange : ∀ bs : List Block, (List.range bs.length).map (fun j => bs[j]?) = bs.map some := by
    intro bs
    refine List.ext_getElem (by simp) fun n hn _ => ?_
    simp only [List.length_map, List.length_range] at hn
    simp [List.getElem?_eq_getElem hn]
  have hpass : ∀ q ∈ d.passes.zipIdx,
      ((List.range q.1.blocks.length).map fun j => (⟨q.2, j⟩ : Position)).filterMap d.blockAt? =
      q.1.blocks := by
    intro q hq
    have hget := List.mem_zipIdx_iff_getElem?.mp hq
    have hat : d.blockAt? ∘ (fun j => (⟨q.2, j⟩ : Position)) = fun j => q.1.blocks[j]? := by
      funext j
      simp [blockAt?, hget]
    rw [List.filterMap_map, hat]
    have := congrArg (List.filterMap id) (hrange q.1.blocks)
    rwa [List.filterMap_map, List.filterMap_map, Function.id_comp, Function.id_comp,
      List.filterMap_some] at this
  rw [positions, List.filterMap_flatten, List.map_map, allBlocks, List.flatMap_def]
  have hzip : d.passes.zipIdx.map (fun q => q.1.blocks) = d.passes.map (·.blocks) := by
    have := congrArg (List.map fun p : Pass => p.blocks) (List.zipIdx_map_fst 0 d.passes)
    rwa [List.map_map] at this
  rw [← hzip]
  exact congrArg List.flatten (List.map_congr_left hpass)

/-- At the place that a search finds is the first block that passes the test. -/
theorem blockAt?_findPosition? (d : Document) (test : Block → Bool) :
    (d.findPosition? test).bind d.blockAt? = d.allBlocks.find? test := by
  rw [← filterMap_positions, List.find?_filterMap]
  rfl

end Document

lemma exists_of_map_eq_ok {ε α β : Type} {f : α → β} {x : Except ε α} {b : β}
    (h : x.map f = .ok b) : ∃ a, x = .ok a ∧ f a = b := by
  cases x with
  | error => contradiction
  | ok a => exact ⟨a, rfl, Except.ok.inj h⟩

/-- What is stored is new code for a block that is there, with the parameters that it names, or a
new block. -/
theorem Generated.store_cases {d e : Document} {place : Position} {response : Text}
    {target : Target}
    (stored : store d response target = .ok (e, place)) :
    let code := Text.dedent (Generated.code response)
    (∃ id, target = .existing id ∧ d.findBlock? id = some place ∧
      e = (d.updateCode id code).1.modifyBlock place (noteParams d code)) ∨
    ∃ title inSection intent, target = .new title inSection intent ∧
      d.addBlock (noteParams d code (newBlock d.newBlockId code title inSection intent)) = .ok e ∧
      place = ⟨d.activePosition?.getD 0, (d.activePass?.map (·.blocks.length)).getD 0⟩ := by
  intro code
  cases target with
  | existing id =>
    simp only [store] at stored
    split at stored
    · contradiction
    · rename_i hfound
      cases stored
      exact .inl ⟨id, rfl, hfound, rfl⟩
  | new title inSection intent =>
    obtain ⟨_, added, heq⟩ := exists_of_map_eq_ok stored
    cases heq
    exact .inr ⟨title, inSection, intent, rfl, added, rfl⟩

/-- What holds of every item goes on to hold if the change keeps it. -/
theorem forall_mem_modify {α : Type} {good : α → Prop} {change : α → α} {as : List α} {index : Nat}
    (kept : ∀ a, good a → good (change a)) (old : ∀ a ∈ as, good a) :
    ∀ a ∈ as.modify index change, good a := by
  intro a ha
  obtain ⟨j, hj⟩ := List.mem_iff_getElem?.mp ha
  rw [List.getElem?_modify] at hj
  obtain ⟨c, hc, rfl⟩ := Option.map_eq_some_iff.mp hj
  have hold := old c (List.mem_of_getElem? hc)
  split
  · exact kept c hold
  · exact hold

section
variable {holds : Block → Prop} {d : Document} {r : Registry}

lemma Pass.blocks_of_addBlock {p q : Pass} {b : Block} (h : p.addBlock b = .ok q) :
    q.blocks = p.blocks ++ [b] := by
  unfold addBlock at h
  split_ifs at h
  cases h
  rfl

lemma PassEdit.forall_apply {p : Pass} (e : PassEdit) {index : Nat}
    (brought : ∀ b ∈ (Edit.changePass index e).brings, holds b)
    (h : ∀ b ∈ p.blocks, holds b) : ∀ b ∈ (e.apply r p).blocks, holds b := by
  cases e with
  | addBlock b =>
    simp only [PassEdit.apply, Pass.addBlock]
    split_ifs
    · exact h
    · intro c hc
      rcases List.mem_append.mp hc with hc | hc
      · exact h c hc
      · exact brought c hc
  | removeBlock id => exact fun b hb => h b ((List.mem_filter.mp hb).1)
  | addPragma pragma =>
    simp only [PassEdit.apply, Pass.addPragma]
    split_ifs <;> exact h
  | addInclude path =>
    simp only [PassEdit.apply, Pass.addInclude]
    split_ifs <;> exact h
  | renderState s => exact h
  | graph c => exact h

namespace Document

lemma forall_modifyPass {index : Nat} {change : Pass → Pass}
    (kept : ∀ p, (∀ b ∈ p.blocks, holds b) → ∀ b ∈ (change p).blocks, holds b)
    (h : ∀ b ∈ d.allBlocks, holds b) : ∀ b ∈ (d.modifyPass index change).allBlocks, holds b := by
  intro b hb
  obtain ⟨p, hp, hb⟩ := mem_allBlocks.mp hb
  exact forall_mem_modify kept (fun p hp b hb => h b (mem_allBlocks.mpr ⟨p, hp, hb⟩)) p hp b hb

lemma forall_modifyBlock {place : Position} {change : Block → Block}
    (kept : ∀ b, holds b → holds (change b)) (h : ∀ b ∈ d.allBlocks, holds b) :
    ∀ b ∈ (d.modifyBlock place change).allBlocks, holds b :=
  forall_modifyPass (fun _ => forall_mem_modify kept) h

lemma forall_of_passes_subset {e : Document} (sub : ∀ p ∈ e.passes, p ∈ d.passes)
    (h : ∀ b ∈ d.allBlocks, holds b) : ∀ b ∈ e.allBlocks, holds b := by
  intro b hb
  obtain ⟨p, hp, hb⟩ := mem_allBlocks.mp hb
  exact h b (mem_allBlocks.mpr ⟨p, sub p hp, hb⟩)

lemma mem_passes_of_mem_removePass {id : Identity} :
    ∀ p ∈ (d.removePass id).1.passes, p ∈ d.passes := by
  unfold removePass
  split
  · exact fun _ hp => hp
  · exact fun _ hp => List.mem_of_mem_eraseIdx hp

lemma forall_addPass {p : Pass} (brought : ∀ b ∈ p.blocks, holds b)
    (h : ∀ b ∈ d.allBlocks, holds b) : ∀ b ∈ (d.addPass p).allBlocks, holds b := by
  intro b hb
  obtain ⟨q, hq, hb⟩ := mem_allBlocks.mp hb
  rcases List.mem_append.mp hq with hq | hq
  · exact h b (mem_allBlocks.mpr ⟨q, hq, hb⟩)
  · exact brought b (List.mem_singleton.mp hq ▸ hb)

lemma forall_removeBlock {id : Identity} (h : ∀ b ∈ d.allBlocks, holds b) :
    ∀ b ∈ (d.removeBlock id).1.allBlocks, holds b := by
  unfold removeBlock
  split
  · exact h
  · exact forall_modifyPass (fun p hp b hb => hp b ((List.mem_filter.mp hb).1)) h

lemma forall_addBlock {b : Block} {e : Document} (added : d.addBlock b = .ok e) (brought : holds b)
    (h : ∀ b ∈ d.allBlocks, holds b) : ∀ b ∈ e.allBlocks, holds b := by
  unfold addBlock at added
  split at added
  · contradiction
  · split at added
    · contradiction
    · rename_i p hp
      obtain ⟨q, hq, rfl⟩ := exists_of_map_eq_ok added
      intro c hc
      obtain ⟨s, hs, hcs⟩ := mem_allBlocks.mp hc
      have old : ∀ p ∈ d.passes, ∀ b ∈ p.blocks, holds b :=
        fun p hp b hb => h b (mem_allBlocks.mpr ⟨p, hp, hb⟩)
      rcases List.mem_or_eq_of_mem_set hs with hs | rfl
      · exact old s hs c hcs
      · rw [Pass.blocks_of_addBlock hq] at hcs
        rcases List.mem_append.mp hcs with hc | hc
        · exact old p (List.mem_of_getElem? hp) c hc
        · rw [List.mem_singleton.mp hc]
          exact brought

lemma rawContent_addBlock {b : Block} {e : Document} (added : d.addBlock b = .ok e) :
    e.rawContent = d.rawContent :=
  (changes_of_addBlock added).frame.rawContent

lemma rawContent_updateCode (id : Identity) (code : Text) :
    (d.updateCode id code).1.rawContent = d.rawContent :=
  (run_frame d (.updateCode id code)).rawContent

lemma rawContent_store {e : Document} {place : Position} {response : Text}
    {target : Generated.Target} (stored : Generated.store d response target = .ok (e, place)) :
    e.rawContent = d.rawContent := by
  obtain ⟨id, -, -, rfl⟩ | ⟨_, _, _, -, added, -⟩ := Generated.store_cases stored
  · exact rawContent_updateCode id _
  · exact rawContent_addBlock added

/-- Adding a property touches neither the passes nor the raw text. -/
lemma frame_addProperty (p : Property) :
    (d.addProperty p).1.passes = d.passes ∧ (d.addProperty p).1.rawContent = d.rawContent := by
  unfold addProperty
  split_ifs <;> exact ⟨rfl, rfl⟩

lemma frame_mergeProperties (ps : List Property) :
    (d.mergeProperties ps).1.passes = d.passes ∧
      (d.mergeProperties ps).1.rawContent = d.rawContent := by
  unfold mergeProperties
  refine List.foldlRecOn ps _ (motive := fun state : Document × List Text =>
    state.1.passes = d.passes ∧ state.1.rawContent = d.rawContent) ⟨rfl,
      rfl⟩ fun state old p _ => ?_
  obtain ⟨hpasses, hraw⟩ := frame_addProperty (d := state.1) p
  exact ⟨hpasses.trans old.1, hraw.trans old.2⟩

/-- A saved document has the same passes, and the text that is written as its raw content. -/
theorem saved_of_save? {settings : Settings} {path : Text} {s : Save}
    (h : d.save? settings r path = some s) :
    s.saved.passes = d.passes ∧ s.saved.rawContent = d.generate settings r := by
  simp only [save?] at h
  split_ifs at h <;> cases h <;> exact ⟨rfl, rfl⟩

end Document
end

/-- Only saving changes the raw text. -/
theorem Edit.rawContent_apply {settings : Settings} {r : Registry} {d : Document} (e : Edit)
    (h : ∀ path, e ≠ .save path) : (e.apply settings r d).rawContent = d.rawContent := by
  cases e with
  | rename | setGlobals | markClean | addPass | changePass | changeBlock => rfl
  | setActivePass index =>
    simp only [apply, Document.setActivePass]
    split_ifs <;> rfl
  | removePass id => exact (Document.run_frame d (.removePass id)).rawContent
  | movePass source target => exact (Document.run_frame d (.movePass source target)).rawContent
  | addBlock b =>
    simp only [apply]
    split
    · rename_i added
      exact Document.rawContent_addBlock added
    · rfl
  | removeBlock id => exact (Document.run_frame d (.removeBlock id)).rawContent
  | updateCode id code => exact Document.rawContent_updateCode id code
  | store response target =>
    simp only [apply]
    split
    · rename_i stored
      exact Document.rawContent_store stored
    · rfl
  | addProperty p => exact (Document.frame_addProperty p).2
  | removeProperty name => exact (Document.run_frame d (.removeProperty name)).rawContent
  | mergeProperties ps => exact (Document.frame_mergeProperties ps).2
  | save path => exact absurd rfl (h path)

/-- What is true of a block whatever is changed in place: it depends on the recorded lines only, and
it is true where none are recorded. -/
structure OfSpan (holds : Block → Prop) : Prop where
  congr : ∀ b c : Block, b.startLine = c.startLine → b.endLine = c.endLine → holds b → holds c
  unplaced : ∀ b : Block, b.startLine < 0 → holds b

namespace OfSpan

variable {holds : Block → Prop} (span : OfSpan holds) {d : Document} {r : Registry}
  {settings : Settings}
include span

lemma addParam (b : Block) (param : Text) (h : holds b) : holds (b.addParam param) := by
  unfold Block.addParam
  split
  · exact h
  · exact span.congr b _ rfl rfl h

lemma noteParams (code : Text) (b : Block) (h : holds b) :
    holds (Generated.noteParams d code b) := by
  simp only [Generated.noteParams]
  generalize (d.properties.map (·.name)).filter _ = params
  induction params generalizing b with
  | nil => exact h
  | cons param params ih => exact ih _ (span.addParam b param h)

lemma blockEdit (e : BlockEdit) (b : Block) (h : holds b) : holds (e.apply b) := by
  cases e with
  | addParam param => exact span.addParam b param h
  | _ => exact span.congr b _ rfl rfl h

lemma updateCode (id : Identity) (code : Text) (h : ∀ b ∈ d.allBlocks, holds b) :
    ∀ b ∈ (d.updateCode id code).1.allBlocks, holds b := by
  unfold Document.updateCode
  split
  · exact h
  · split_ifs
    · exact h
    · exact Document.forall_modifyBlock (fun b hb => span.congr b _ rfl rfl hb) h

lemma store {e : Document} {place : Position} {response : Text} {target : Generated.Target}
    (stored : Generated.store d response target = .ok (e, place)) (h : ∀ b ∈ d.allBlocks, holds b) :
    ∀ b ∈ e.allBlocks, holds b := by
  obtain ⟨id, -, -, rfl⟩ | ⟨_, _, _, -, added, -⟩ := Generated.store_cases stored
  · exact Document.forall_modifyBlock (span.noteParams _) (span.updateCode id _ h)
  · exact Document.forall_addBlock added
      (span.noteParams _ _ (span.unplaced _ (Int.negSucc_lt_zero 0))) h

/-- An edit leaves such a property true of every block, if it is true of the blocks that it
brings. -/
theorem edit (e : Edit) (brought : ∀ b ∈ e.brings, holds b) (h : ∀ b ∈ d.allBlocks, holds b) :
    ∀ b ∈ (e.apply settings r d).allBlocks, holds b := by
  cases e with
  | rename | setGlobals | markClean => exact h
  | setActivePass index =>
    simp only [Edit.apply, Document.setActivePass]
    split_ifs <;> exact h
  | addPass p => exact Document.forall_addPass brought h
  | removePass id => exact Document.forall_of_passes_subset Document.mem_passes_of_mem_removePass h
  | movePass source target =>
    exact Document.forall_of_passes_subset (Document.perm_movePass source target).subset h
  | changePass index e =>
    exact Document.forall_modifyPass (fun p => PassEdit.forall_apply e brought) h
  | addBlock b =>
    simp only [Edit.apply]
    split
    · rename_i added
      exact Document.forall_addBlock added (brought b List.mem_cons_self) h
    · exact h
  | removeBlock id => exact Document.forall_removeBlock h
  | updateCode id code => exact span.updateCode id code h
  | changeBlock place e => exact Document.forall_modifyBlock (span.blockEdit e) h
  | store response target =>
    simp only [Edit.apply]
    split
    · rename_i stored
      exact span.store stored h
    · exact h
  | addProperty p =>
    exact Document.forall_of_passes_subset (fun q hq => (Document.frame_addProperty p).1 ▸ hq) h
  | removeProperty name =>
    simp only [Edit.apply, Document.removeProperty]
    split_ifs <;> exact h
  | mergeProperties ps =>
    exact Document.forall_of_passes_subset
      (fun q hq => (Document.frame_mergeProperties ps).1 ▸ hq) h
  | save path =>
    simp only [Edit.apply]
    split
    · rename_i s hs
      exact Document.forall_of_passes_subset (fun p hp => (Document.saved_of_save? hs).1 ▸ hp) h
    · exact h

end OfSpan
end MarkedShader
