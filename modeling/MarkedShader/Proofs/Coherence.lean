import MarkedShader.Proofs.Editing
import MarkedShader.Proofs.Passes
import MarkedShader.Registry.Standard

/-! What no run of edits breaks: the active index points at a pass, property names are distinct, and
use-passes hold nothing of their own. Main statement: `after_coherent`. -/
namespace MarkedShader

/-- A use-pass holds nothing of its own. -/
def Pass.RefersOnly (p : Pass) : Prop :=
  p.isUsePass → p.blocks = [] ∧ p.pragmas = [] ∧ p.includes = [] ∧ p.graph = none

instance (p : Pass) : Decidable p.RefersOnly := inferInstanceAs (Decidable (_ → _))

namespace Pass.RefersOnly

variable {p q : Pass}

lemma of_own (h : p.isUsePass = false) : p.RefersOnly := fun huse => absurd huse (by simp [h])

lemma usePass (id : Identity) (path : Text) : (Pass.usePass id path).RefersOnly :=
  fun _ => ⟨rfl, rfl, rfl, rfl⟩

/-- Whatever becomes of the blocks, no blocks stay no blocks. -/
lemma withBlocks {change : List Block → List Block} (h : p.RefersOnly) (none : change [] = []) :
    RefersOnly { p with blocks := change p.blocks } := fun huse => by
  obtain ⟨hblocks, hrest⟩ := h huse
  exact ⟨by rw [hblocks, none], hrest⟩

lemma addBlock {b : Block} (added : p.addBlock b = .ok q) : q.RefersOnly := by
  unfold Pass.addBlock at added
  split_ifs at added with huse
  cases added
  exact of_own (by simpa using huse)

lemma edit {r : Registry} (h : p.RefersOnly) (e : PassEdit) : (e.apply r p).RefersOnly := by
  cases e with
  | addBlock b =>
    simp only [PassEdit.apply]
    split
    · rename_i added
      exact addBlock added
    · exact h
  | removeBlock id => exact h.withBlocks rfl
  | addPragma pragma =>
    simp only [PassEdit.apply, Pass.addPragma]
    split_ifs with huse hknown
    · exact h
    · exact h
    · exact of_own (by simpa using huse)
  | addInclude path =>
    simp only [PassEdit.apply, Pass.addInclude]
    split_ifs with huse hknown
    · exact h
    · exact h
    · exact of_own (by simpa using huse)
  | renderState s => exact h
  | graph c =>
    intro huse
    obtain ⟨hblocks, hpragmas, hincludes, hgraph⟩ := h huse
    exact ⟨hblocks, hpragmas, hincludes, by simp only [PassEdit.apply, hgraph, Option.map_none]⟩

end Pass.RefersOnly

namespace Document

/-- The active index points at a pass, or is zero if there is none. -/
def ActiveInRange (d : Document) : Prop :=
  0 ≤ d.activeIndex ∧ d.activeIndex < d.passes.length ∨ d.passes = [] ∧ d.activeIndex = 0

def DistinctProperties (d : Document) : Prop := (d.properties.map (·.name)).Nodup

structure Coherent (d : Document) : Prop where
  active : d.ActiveInRange
  distinct : d.DistinctProperties
  references : ∀ p ∈ d.passes, p.RefersOnly

/-- Another document has the same active index and as many passes, and is coherent otherwise if that
one is. -/
structure Keeps (d e : Document) : Prop where
  activeIndex : e.activeIndex = d.activeIndex
  length : e.passes.length = d.passes.length
  references : (∀ p ∈ d.passes, p.RefersOnly) → ∀ p ∈ e.passes, p.RefersOnly
  distinct : d.DistinctProperties → e.DistinctProperties

namespace Keeps

variable {d e f : Document}

lemma of_passes_eq (activeIndex : e.activeIndex = d.activeIndex) (passes : e.passes = d.passes)
    (distinct : d.DistinctProperties → e.DistinctProperties) : Keeps d e :=
  ⟨activeIndex, congrArg List.length passes, passes ▸ id, distinct⟩

lemma refl (d : Document) : Keeps d d := of_passes_eq rfl rfl id

lemma trans (h : Keeps d e) (h' : Keeps e f) : Keeps d f where
  activeIndex := h'.activeIndex.trans h.activeIndex
  length := h'.length.trans h.length
  references := h'.references ∘ h.references
  distinct := h'.distinct ∘ h.distinct

lemma coherent (h : Keeps d e) (old : d.Coherent) : e.Coherent where
  active := by
    rcases old.active with ⟨hlow, hhigh⟩ | ⟨hnone, hzero⟩
    · exact .inl ⟨h.activeIndex ▸ hlow, by rw [h.activeIndex, h.length]; exact hhigh⟩
    · exact .inr ⟨List.eq_nil_of_length_eq_zero (by rw [h.length, hnone]; rfl),
        h.activeIndex.trans hzero⟩
  distinct := h.distinct old.distinct
  references := h.references old.references

lemma modifyPass {change : Pass → Pass} (kept : ∀ p : Pass, p.RefersOnly → (change p).RefersOnly)
    (index : Nat) : Keeps d (d.modifyPass index change) where
  activeIndex := rfl
  length := List.length_modify ..
  references := forall_mem_modify kept
  distinct := id

lemma modifyBlock (place : Position) (change : Block → Block) :
    Keeps d (d.modifyBlock place change) :=
  modifyPass (fun _ h => h.withBlocks (List.modify_nil ..)) place.pass

lemma markDirty (h : Keeps d e) : Keeps d { e with isDirty := true } :=
  ⟨h.activeIndex, h.length, h.references, h.distinct⟩

lemma addBlock {b : Block} (added : d.addBlock b = .ok e) : Keeps d e := by
  unfold Document.addBlock at added
  split at added
  · contradiction
  · rename_i i _
    split at added
    · contradiction
    · obtain ⟨q, hq, rfl⟩ := exists_of_map_eq_ok added
      have kept : Keeps d (d.modifyPass i fun _ => q) := modifyPass (fun _ _ => .addBlock hq) i
      rw [Document.modifyPass, ← List.set_eq_modify] at kept
      exact kept.markDirty

lemma removeBlock (id : Identity) : Keeps d (d.removeBlock id).1 := by
  unfold Document.removeBlock
  split
  · exact refl d
  · exact (modifyPass (fun p h => h.edit (r := {}) (.removeBlock id)) _).markDirty

lemma updateCode (id : Identity) (code : Text) : Keeps d (d.updateCode id code).1 := by
  unfold Document.updateCode
  split
  · exact refl d
  · split_ifs
    · exact refl d
    · exact (modifyBlock _ _).markDirty

lemma store {place : Position} {response : Text} {target : Generated.Target}
    (stored : Generated.store d response target = .ok (e, place)) : Keeps d e := by
  obtain ⟨id, -, -, rfl⟩ | ⟨_, _, _, -, added, -⟩ := Generated.store_cases stored
  · exact (updateCode id _).trans (modifyBlock place _)
  · exact addBlock added

lemma addProperty (p : Property) : Keeps d (d.addProperty p).1 := by
  unfold Document.addProperty
  split_ifs with hknown
  · exact refl d
  · refine of_passes_eq rfl rfl fun distinct => ?_
    have hnew : p.name ∉ d.properties.map (·.name) := by simpa [findProperty?] using hknown
    simp only [DistinctProperties, List.map_append, List.map_singleton]
    exact distinct.append (List.nodup_singleton _) (List.disjoint_singleton.mpr hnew)

lemma removeProperty (name : Text) : Keeps d (d.removeProperty name).1 := by
  unfold Document.removeProperty
  split_ifs
  · exact of_passes_eq rfl rfl fun distinct => distinct.sublist (List.filter_sublist.map _)
  · exact refl d

lemma mergeProperties (ps : List Property) : Keeps d (d.mergeProperties ps).1 := by
  unfold Document.mergeProperties
  refine List.foldlRecOn ps _ (motive := fun state : Document × List Text => Keeps d state.1)
    (refl d) fun state kept p _ => ?_
  exact kept.trans (addProperty p)

lemma save {settings : Settings} {r : Registry} {path : Text} {s : Save}
    (h : d.save? settings r path = some s) : Keeps d s.saved := by
  simp only [save?] at h
  split_ifs at h <;> cases h <;> exact of_passes_eq rfl rfl id

end Keeps

variable {d : Document}

lemma Coherent.setActivePass (h : d.Coherent) (index : Int) :
    (d.setActivePass index).1.Coherent := by
  unfold Document.setActivePass
  split_ifs with hindex
  · exact ⟨.inl ⟨hindex.1, hindex.2.1⟩, h.distinct, h.references⟩
  · exact h

lemma Coherent.addPass (h : d.Coherent) {p : Pass} (hp : p.RefersOnly) :
    (d.addPass p).Coherent where
  active := by
    refine .inl ?_
    simp only [Document.addPass, List.length_append, List.length_singleton]
    rcases h.active with ⟨hlow, hhigh⟩ | ⟨-, hzero⟩
    · omega
    · omega
  distinct := h.distinct
  references q hq := by
    rcases List.mem_append.mp hq with hq | hq
    · exact h.references q hq
    · exact List.mem_singleton.mp hq ▸ hp

lemma Coherent.removePass (h : d.Coherent) (id : Identity) : (d.removePass id).1.Coherent := by
  unfold Document.removePass
  split
  · exact h
  · rename_i index hindex
    obtain ⟨hlt, -⟩ := List.findIdx?_eq_some_iff_getElem.mp hindex
    refine ⟨?_, h.distinct, fun p hp => h.references p (List.mem_of_mem_eraseIdx hp)⟩
    have hlength : (d.passes.eraseIdx index).length = d.passes.length - 1 := by
      rw [List.length_eraseIdx, if_pos hlt]
    have hactive : 0 ≤ d.activeIndex ∧ d.activeIndex < d.passes.length :=
      h.active.resolve_right fun hnone => by simp [hnone.1] at hlt
    by_cases hlast : d.passes.length = 1
    · -- the only pass goes, and with it the index is zero
      refine .inr ⟨List.eq_nil_of_length_eq_zero (by rw [hlength, hlast]), ?_⟩
      simp only [hlength]
      split_ifs <;> omega
    · refine .inl ?_
      simp only [hlength]
      split_ifs <;> omega

lemma Coherent.movePass (h : d.Coherent) (source target : Int) :
    (d.movePass source target).1.Coherent := by
  unfold Document.movePass
  simp only
  split_ifs with hrange
  · split
    · exact h
    · rename_i moved hmoved
      have ht : target.toNat < d.passes.length := by omega
      have hperm := perm_move hmoved ht
      refine ⟨?_, h.distinct, fun p hp => h.references p (hperm.subset hp)⟩
      refine .inl ?_
      simp only [hperm.length_eq]
      split
      · rename_i active hactive
        -- the active pass is among the passes still, so that it is found
        obtain ⟨i, -, hi⟩ := Option.bind_eq_some_iff.mp hactive
        have hfound := List.findIdx_lt_length_of_exists (p := fun p => decide (p = active))
          ⟨active, hperm.symm.subset (List.mem_of_getElem? hi), decide_eq_true rfl⟩
        rw [hperm.length_eq] at hfound
        omega
      · exact h.active.resolve_right fun hnone => by simp [hnone.1] at hrange; omega
  · exact h

/-- An edit keeps a document coherent, if a pass that it brings refers only or is no use-pass. -/
lemma Coherent.edit {settings : Settings} {r : Registry} (h : d.Coherent) (e : Edit)
    (brought : ∀ p, e = .addPass p → p.RefersOnly) : (e.apply settings r d).Coherent := by
  cases e with
  | rename | setGlobals | markClean =>
    refine Keeps.coherent (d := d) ?_ h
    exact .of_passes_eq rfl rfl id
  | setActivePass index => exact h.setActivePass index
  | addPass p => exact h.addPass (brought p rfl)
  | removePass id => exact h.removePass id
  | movePass source target => exact h.movePass source target
  | changePass index e => exact (Keeps.modifyPass (fun _ hp => hp.edit e) index).coherent h
  | addBlock b =>
    simp only [Edit.apply]
    split
    · rename_i added
      exact (Keeps.addBlock added).coherent h
    · exact h
  | removeBlock id => exact (Keeps.removeBlock id).coherent h
  | updateCode id code => exact (Keeps.updateCode id code).coherent h
  | changeBlock place e => exact (Keeps.modifyBlock place e.apply).coherent h
  | store response target =>
    simp only [Edit.apply]
    split
    · rename_i stored
      exact (Keeps.store stored).coherent h
    · exact h
  | addProperty p => exact (Keeps.addProperty p).coherent h
  | removeProperty name => exact (Keeps.removeProperty name).coherent h
  | mergeProperties ps => exact (Keeps.mergeProperties ps).coherent h
  | save path =>
    simp only [Edit.apply]
    split
    · rename_i saved
      exact (Keeps.save saved).coherent h
    · exact h

lemma Coherent.after {settings : Settings} {r : Registry} (h : d.Coherent) (edits : List Edit)
    (brought : ∀ p, Edit.addPass p ∈ edits → p.RefersOnly) :
    (d.after settings r edits).Coherent := by
  unfold Document.after
  induction edits generalizing d with
  | nil => exact h
  | cons e edits ih =>
    exact ih (h.edit e fun p hp => brought p (hp ▸ List.mem_cons_self))
      fun p hp => brought p (List.mem_cons_of_mem _ hp)

end Document

namespace Source
open Text

lemma nodup_propertiesFrom {pre : Text} {i : Nat} {known : List Text} (ls : List Text) :
    ((propertiesFrom pre i known ls).1.map (·.name)).Nodup ∧
      ∀ p ∈ (propertiesFrom pre i known ls).1, p.name ∉ known := by
  induction ls generalizing i known with
  | nil => exact ⟨List.nodup_nil, fun _ hp => absurd hp List.not_mem_nil⟩
  | cons l ls ih =>
    rw [propertiesFrom]
    split
    · exact ih
    · simp only
      split_ifs with hname hknown
      · exact ih
      · exact ih
      · rename_i text _
        obtain ⟨hdistinct, hnew⟩ :=
          @ih (i+1) ((propertyOf pre (Attributes.read text) ls).name :: known)
        refine ⟨List.nodup_cons.mpr ⟨fun hmem => ?_, hdistinct⟩,
          List.forall_mem_cons.mpr ⟨by simpa using hknown, ?_⟩⟩
        · obtain ⟨p, hp, he⟩ := List.mem_map.mp hmem
          exact hnew p hp (he ▸ List.mem_cons_self)
        · exact fun p hp hmem => hnew p hp (List.mem_cons_of_mem _ hmem)

variable {settings : Settings} {r : Registry}

lemma refersOnly_readPass (ls : List Text) (cursor : Nat) (e : Extent) :
    (readPass settings r ls cursor e).1.RefersOnly := by
  unfold readPass
  split
  · exact .usePass _ _
  · exact .of_own rfl

lemma readPasses_refersOnly (ls : List Text) (es : List Extent) (cursor : Nat) :
    (readPasses settings r ls cursor es).1.length = es.length ∧
      ∀ p ∈ (readPasses settings r ls cursor es).1, p.RefersOnly := by
  induction es generalizing cursor with
  | nil => exact ⟨rfl, fun _ hp => absurd hp List.not_mem_nil⟩
  | cons e es ih =>
    obtain ⟨hlength, hall⟩ := ih (e.last+1)
    exact ⟨congrArg (· + 1) hlength,
      List.forall_mem_cons.mpr ⟨refersOnly_readPass ls cursor e, hall⟩⟩

/-- What stands outside the passes goes to a pass that is no use-pass. -/
lemma attach_refersOnly (outside : Parts) {ps : List Pass} (h : ∀ p ∈ ps, p.RefersOnly) :
    (outside.attach ps).1.length = ps.length ∧ ∀ p ∈ (outside.attach ps).1, p.RefersOnly := by
  unfold Parts.attach
  split_ifs
  · exact ⟨rfl, h⟩
  · split
    · exact ⟨rfl, h⟩
    · rename_i i hi
      obtain ⟨hlt, hown, -⟩ := List.findIdx?_eq_some_iff_getElem.mp hi
      refine ⟨List.length_modify .., fun p hp => ?_⟩
      obtain ⟨j, hj⟩ := List.mem_iff_getElem?.mp hp
      rw [List.getElem?_modify] at hj
      obtain ⟨q, hq, rfl⟩ := Option.map_eq_some_iff.mp hj
      split
      · rename_i he
        subst he
        rw [List.getElem?_eq_getElem hlt, Option.some.injEq] at hq
        exact .of_own (by simpa [hq, Parts.attachTo] using hown)
      · exact h q (List.mem_of_getElem? hq)

lemma passExtents_ne_nil (ls : List Text) : (passExtents ls).1 ≠ [] := by
  unfold passExtents
  simp only
  split_ifs with hnone
  · exact List.cons_ne_nil _ _
  · simpa using hnone

variable (settings r)

lemma coherent_documentOf (content : Text) : (documentOf settings r content).1.Coherent := by
  obtain ⟨es, hes⟩ : ∃ es, es = (passExtents (lines content)).1 := ⟨_, rfl⟩
  obtain ⟨ps, hps⟩ : ∃ ps, ps = ((partsOutside settings (lines content) es).attach
    (readPasses settings r (lines content) 0 es).1).1 := ⟨_, rfl⟩
  have hread : (documentOf settings r content).1.passes = ps ∧
      (documentOf settings r content).1.activeIndex =
        (ps.findIdx? fun p => !p.isUsePass).getD 0 := by
    subst hps hes
    exact ⟨rfl, rfl⟩
  obtain ⟨hlength, hall⟩ := readPasses_refersOnly (lines content) es 0
  obtain ⟨hsame, hrefers⟩ := attach_refersOnly (partsOutside settings (lines content) es) hall
  have hpos : 0 < ps.length := by
    rw [hps, hsame, hlength, hes]
    exact List.length_pos_iff.mpr (passExtents_ne_nil _)
  refine ⟨.inl ?_, (nodup_propertiesFrom _).1, hread.1 ▸ hps ▸ hrefers⟩
  -- the first pass that is no use-pass, or else the first pass
  rw [hread.1, hread.2]
  cases hfind : ps.findIdx? fun p => !p.isUsePass with
  | none => exact ⟨Int.le_refl 0, by simpa using hpos⟩
  | some i =>
    obtain ⟨hlt, -⟩ := List.findIdx?_eq_some_iff_getElem.mp hfind
    exact ⟨Int.natCast_nonneg i, by simpa using hlt⟩

end Source

namespace Document

/-- The documents that editing begins with. -/
inductive Beginning : Document → Prop
  | parsed {settings : Settings} {r : Registry} {content : Text} {d : Document} {ws : List Warning}
      (read : Source.parse settings r content = .ok (d, ws)) : Beginning d
  | starter (r : Registry) (shaderName : Text) : Beginning (.starter r shaderName)
  | blank : Beginning {}

lemma Beginning.coherent {d : Document} (h : Beginning d) : d.Coherent := by
  cases h with
  | @parsed settings r content d ws read =>
    unfold Source.parse at read
    split_ifs at read
    have hread := Source.coherent_documentOf settings r content
    rwa [Except.ok.inj read] at hread
  | starter r shaderName =>
    refine ⟨.inl ⟨Int.le_refl 0, by simp [Document.starter]⟩, List.nodup_nil, ?_⟩
    simp only [Document.starter, List.forall_mem_cons]
    exact ⟨.of_own rfl, .usePass _ _, .usePass _ _, fun _ hp => absurd hp List.not_mem_nil⟩
  | blank => exact ⟨.inr ⟨rfl, rfl⟩, List.nodup_nil, fun _ hp => absurd hp List.not_mem_nil⟩

/-- Whatever is done to a document from its beginning on, refused edits included, it stays
coherent. -/
theorem after_coherent {d : Document} (begins : Beginning d) (settings : Settings) (r : Registry)
    (edits : List Edit) (brought : ∀ p, Edit.addPass p ∈ edits → p.RefersOnly) :
    (d.after settings r edits).Coherent :=
  begins.coherent.after edits brought

/-- The lit pass goes, so that a reference is active and refuses a block; the last pass becomes the
first, and the active index follows the active pass. -/
theorem after_coherent_starter :
    let edits := [.setActivePass 1, .removePass (.fresh 0),
      .addBlock { title := "Glow".toList, id := .fresh 7 },
      .addPass (.usePass (.fresh 3) "Lab/Base/META".toList), .movePass 2 0,
      .addProperty { name := "_Glow".toList },
      .addProperty { name := "_Glow".toList, defaultValue := "1".toList }]
    let d := (starter .standard "Lab/Glow".toList).after {} .standard edits
    d.Coherent ∧ d.passes.map (·.id) = [.fresh 3, .fresh 1, .fresh 2] ∧ d.activeIndex = 1 ∧
      d.allBlocks = [] ∧ d.properties.map (·.defaultValue) = [[]] := by
  intro edits d
  refine ⟨after_coherent (.starter _ _) _ _ edits fun p hp => ?_, by decide⟩
  have hadded : p = .usePass (.fresh 3) "Lab/Base/META".toList := by simpa [edits] using hp
  exact hadded ▸ .usePass _ _

end Document
end MarkedShader
