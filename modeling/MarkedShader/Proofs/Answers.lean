import MarkedShader.Proofs.Passes

/-! What calls of a document answer. A call that says that it changed the document did so and marked
it, and any other call leaves the document as it is. Main statement: `run_honest`. -/
namespace MarkedShader
namespace Document

/-- A call that answers whether it changed the document. -/
inductive Call
  | addPass (p : Pass)
  | removePass (id : Identity)
  | movePass (source target : Int)
  | addBlock (b : Block)
  | removeBlock (id : Identity)
  | updateCode (id : Identity) (code : Text)
  | addProperty (p : Property)
  | removeProperty (name : Text)

namespace Call

def answered : Document × Bool → Document × Except EditError Bool :=
  fun (e, changed) => (e, .ok changed)

/-- The document after a call, and the answer. -/
def run (d : Document) : Call → Document × Except EditError Bool
  | .addPass p => (d.addPass p, .ok true)
  | .removePass id => answered (d.removePass id)
  | .movePass source target => answered (d.movePass source target)
  | .addBlock b => match d.addBlock b with
    | .ok e => (e, .ok true)
    | .error x => (d, .error x)
  | .removeBlock id => answered (d.removeBlock id)
  | .updateCode id code => answered (d.updateCode id code)
  | .addProperty p => answered (d.addProperty p)
  | .removeProperty name => answered (d.removeProperty name)

/-- The pass that a call takes away, moves or changes the blocks of. -/
def addressed? (d : Document) : Call → Option Pass
  | .removePass id => (d.findPass? id).bind (d.passes[·]?)
  | .movePass source _ => d.passes[source.toNat]?
  | .addBlock _ => d.activePass?
  | .removeBlock id => (d.passOfBlock? id).bind (d.passes[·]?)
  | .updateCode id _ => (d.findBlock? id).bind fun place => d.passes[place.pass]?
  | .addPass _ | .addProperty _ | .removeProperty _ => none

end Call

/-- What a call does that changes the document. Blocks may share an identity: then all of them go
that are in the first pass with one, and the first of them gets the code. -/
inductive Changes (d : Document) : Call → Document → Prop
  | addPass (p : Pass) :
      Changes d (.addPass p) { d with passes := d.passes ++ [p], isDirty := true }
  | removePass {before p after} (split : d.passes = before ++ p :: after)
      (found : d.findPass? p.id = some before.length) (index : Int) :
      Changes d (.removePass p.id)
        { d with passes := before ++ after, activeIndex := index, isDirty := true }
  | movePass {before p after} {target : Nat} (split : d.passes = before ++ p :: after)
      (range : target < d.passes.length) (other : before.length ≠ target) (index : Int) :
      Changes d (.movePass before.length target)
        { d with passes := (before ++ after).insertIdx target p
                 activeIndex := index, isDirty := true }
  | addBlock {before p after} (split : d.passes = before ++ p :: after)
      (active : d.activeIndex = before.length) (own : p.isUsePass = false) (b : Block) :
      Changes d (.addBlock b)
        { d with passes := before ++ { p with blocks := p.blocks ++ [b] } :: after
                 isDirty := true }
  | removeBlock {before p after b} (split : d.passes = before ++ p :: after)
      (found : d.passOfBlock? b.id = some before.length) (held : b ∈ p.blocks) :
      Changes d (.removeBlock b.id)
        { d with
          passes := before ++ { p with blocks := p.blocks.filter fun c => c.id ≠ b.id } :: after
          isDirty := true }
  | updateCode {before p after front b back code} (split : d.passes = before ++ p :: after)
      (blocks : p.blocks = front ++ b :: back)
      (found : d.findBlock? b.id = some ⟨before.length, front.length⟩) (other : b.code ≠ code) :
      Changes d (.updateCode b.id code)
        { d with passes := before ++ { p with blocks := front ++ { b with code } :: back } :: after
                 isDirty := true }
  | addProperty {p : Property} (unknown : d.findProperty? p.name = none) :
      Changes d (.addProperty p) { d with properties := d.properties ++ [p], isDirty := true }
  | removeProperty {p : Property} (known : p ∈ d.properties) :
      Changes d (.removeProperty p.name)
        { d with properties := d.properties.filter fun q => q.name ≠ p.name, isDirty := true }

/-- Only a block is refused, where there is no pass for it or one that holds none. -/
inductive Refuses (d : Document) : Call → EditError → Prop
  | noActivePass {b} (none : d.activePass? = none) :
      Refuses d (.addBlock b) (.noActivePass d.activeIndex)
  | usePass {b p} (active : d.activePass? = some p) (references : p.isUsePass) :
      Refuses d (.addBlock b) (.usePass p.name "blocks".toList)

/-- A call is refused, or it changes the document and says so, or it says that it did not. -/
inductive Outcome (d : Document) (c : Call) : Document × Except EditError Bool → Prop
  | unchanged : Outcome d c (d, .ok false)
  | refused {x} (refuses : d.Refuses c x) : Outcome d c (d, .error x)
  | changed {e} (changes : d.Changes c e) : Outcome d c (e, .ok true)

variable {d e : Document} {c : Call} {before after : List Pass} {p : Pass}

lemma outcome_removePass (d : Document) (id : Identity) :
    Outcome d (.removePass id) (Call.answered (d.removePass id)) := by
  rw [removePass]
  cases hfound : d.findPass? id with
  | none => exact .unchanged
  | some i =>
    obtain ⟨hi, hid, -⟩ := List.findIdx?_eq_some_iff_getElem.mp hfound
    obtain ⟨before, after, split, rfl⟩ := exists_split_of_getElem? (List.getElem?_eq_getElem hi)
    obtain rfl := of_decide_eq_true hid
    generalize d.passes[before.length] = p at split hfound
    simp only [split, eraseIdx_split]
    exact .changed (.removePass split hfound _)

lemma outcome_movePass (d : Document) (source target : Int) :
    Outcome d (.movePass source target) (Call.answered (d.movePass source target)) := by
  by_cases hrange : 0 ≤ source ∧ source < d.passes.length ∧ 0 ≤ target ∧
    target < d.passes.length ∧ source ≠ target
  · obtain ⟨i, rfl⟩ := Int.eq_ofNat_of_zero_le hrange.1
    obtain ⟨j, rfl⟩ := Int.eq_ofNat_of_zero_le hrange.2.2.1
    have hi : i < d.passes.length := by omega
    have hj : j < d.passes.length := by omega
    have hne : i ≠ j := by omega
    obtain ⟨before, after, split, rfl⟩ := exists_split_of_getElem? (List.getElem?_eq_getElem hi)
    rw [movePass_of_range (List.getElem?_eq_getElem hi) hj hne]
    generalize d.passes[before.length] = p at split
    rw [split, eraseIdx_split]
    exact .changed (.movePass split hj hne _)
  · rw [movePass_of_not_range hrange]
    exact .unchanged

lemma addBlock_of_none (none : d.activePass? = none) (b : Block) :
    d.addBlock b = .error (.noActivePass d.activeIndex) := by
  rw [addBlock]
  cases hposition : d.activePosition? with
  | none => rfl
  | some i =>
    rw [activePass?, hposition, Option.bind_some] at none
    simp only [none]

/-- Where the active pass stands, in a document taken apart at it. -/
theorem activePosition?_of_split (split : d.passes = before ++ p :: after)
    (index : d.activeIndex = before.length) : d.activePosition? = some before.length := by
  rw [activePosition?, index, if_pos]
  · rfl
  · rw [split, List.length_append, List.length_cons]
    omega

/-- A block goes to the end of the active pass, and nothing else changes but the mark of a
change. -/
theorem addBlock_of_split (split : d.passes = before ++ p :: after)
    (index : d.activeIndex = before.length) (b : Block) :
    d.addBlock b = (p.addBlock b).map fun q =>
      { d with passes := before ++ q :: after, isDirty := true } := by
  rw [addBlock, activePosition?_of_split split index]
  simp only [split, getElem?_split, List.set_append_right, Nat.le_refl, Nat.sub_self,
    List.set_cons_zero]

/-- A block is refused for the reasons for which the call is. -/
theorem addBlock_eq_error_iff {b : Block} {x : EditError} :
    d.addBlock b = .error x ↔ d.Refuses (.addBlock b) x := by
  cases hactive : d.activePass? with
  | none =>
    rw [addBlock_of_none hactive]
    refine ⟨fun h => Except.error.inj h ▸ .noActivePass hactive, fun refuses => ?_⟩
    cases refuses with
    | noActivePass => rfl
    | usePass active => simp [hactive] at active
  | some p =>
    obtain ⟨k, index, hp⟩ := index_of_activePass? hactive
    obtain ⟨before, after, split, rfl⟩ := exists_split_of_getElem? hp
    rw [addBlock_of_split split index, Pass.addBlock]
    split_ifs with huse
    · refine ⟨fun h => Except.error.inj h ▸ .usePass hactive huse, fun refuses => ?_⟩
      cases refuses with
      | noActivePass none => simp [hactive] at none
      | usePass active =>
        obtain rfl := Option.some.inj (hactive.symm.trans active)
        rfl
    · refine ⟨fun h => by contradiction, fun refuses => ?_⟩
      cases refuses with
      | noActivePass none => simp [hactive] at none
      | usePass active references =>
        obtain rfl := Option.some.inj (hactive.symm.trans active)
        contradiction

lemma changes_of_addBlock {b : Block} (added : d.addBlock b = .ok e) :
    d.Changes (.addBlock b) e := by
  cases hactive : d.activePass? with
  | none =>
    rw [addBlock_of_none hactive] at added
    contradiction
  | some p =>
    obtain ⟨k, index, hp⟩ := index_of_activePass? hactive
    obtain ⟨before, after, split, rfl⟩ := exists_split_of_getElem? hp
    rw [addBlock_of_split split index, Pass.addBlock] at added
    split_ifs at added with huse
    · contradiction
    · obtain rfl := Except.ok.inj added
      exact .addBlock split index (by simpa using huse) b

lemma outcome_addBlock (d : Document) (b : Block) :
    Outcome d (.addBlock b) (Call.run d (.addBlock b)) := by
  rw [Call.run]
  cases hadded : d.addBlock b with
  | error x => exact .refused (addBlock_eq_error_iff.mp hadded)
  | ok e => exact .changed (changes_of_addBlock hadded)

lemma modifyPass_split (split : d.passes = before ++ p :: after) (change : Pass → Pass) :
    d.modifyPass before.length change = { d with passes := before ++ change p :: after } := by
  rw [modifyPass, split, modify_split]

lemma outcome_removeBlock (d : Document) (id : Identity) :
    Outcome d (.removeBlock id) (Call.answered (d.removeBlock id)) := by
  rw [removeBlock]
  cases hfound : d.passOfBlock? id with
  | none => exact .unchanged
  | some i =>
    obtain ⟨hi, hheld, -⟩ := List.findIdx?_eq_some_iff_getElem.mp hfound
    obtain ⟨before, after, split, rfl⟩ := exists_split_of_getElem? (List.getElem?_eq_getElem hi)
    generalize d.passes[before.length] = p at split hheld
    rw [Pass.findBlock?, List.findIdx?_isSome, List.any_eq_true] at hheld
    obtain ⟨b, hb, hid⟩ := hheld
    obtain rfl := of_decide_eq_true hid
    simp only [modifyPass_split split]
    exact .changed (.removeBlock split hfound hb)

/-- Where a block is found by its identity. -/
theorem split_of_findBlock? {id : Identity} {place : Position}
    (found : d.findBlock? id = some place) :
    ∃ before p after front b back, d.passes = before ++ p :: after ∧ p.blocks = front ++ b :: back ∧
      place = ⟨before.length, front.length⟩ ∧ b.id = id := by
  have hat := List.find?_some found
  simp only [Option.any_eq_true, decide_eq_true_eq] at hat
  obtain ⟨b, hat, hid⟩ := hat
  obtain ⟨p, hp, hb⟩ := Option.bind_eq_some_iff.mp hat
  obtain ⟨i, j⟩ := place
  obtain ⟨before, after, split, rfl⟩ := exists_split_of_getElem? hp
  obtain ⟨front, back, blocks, rfl⟩ := exists_split_of_getElem? hb
  exact ⟨before, p, after, front, b, back, split, blocks, rfl, hid⟩

section
variable {front back : List Block} {b : Block} (split : d.passes = before ++ p :: after)
  (blocks : p.blocks = front ++ b :: back)
include split blocks

lemma blockAt?_split : d.blockAt? ⟨before.length, front.length⟩ = some b := by
  simp only [blockAt?, split, getElem?_split, Option.bind_some, blocks]

lemma modifyBlock_split (change : Block → Block) :
    d.modifyBlock ⟨before.length, front.length⟩ change =
      { d with passes := before ++ { p with blocks := front ++ change b :: back } :: after } := by
  rw [modifyBlock, modifyPass_split split, blocks, modify_split]

/-- Passes taken apart at a block are equal exactly if that block is. -/
theorem passes_eq_iff_of_block {c : Block} :
    before ++ { p with blocks := front ++ c :: back } :: after = d.passes ↔ c = b := by
  rw [split]
  constructor
  · intro same
    have hblocks := congrArg Pass.blocks (List.cons.inj (List.append_cancel_left same)).1
    rw [blocks] at hblocks
    exact (List.cons.inj (List.append_cancel_left hblocks)).1
  · rintro rfl
    rw [← blocks]

end

lemma outcome_updateCode (d : Document) (id : Identity) (code : Text) :
    Outcome d (.updateCode id code) (Call.answered (d.updateCode id code)) := by
  rw [updateCode]
  cases hfound : d.findBlock? id with
  | none => exact .unchanged
  | some place =>
    obtain ⟨before, p, after, front, b, back, split, blocks, rfl, rfl⟩ := split_of_findBlock? hfound
    simp only [blockAt?_split split blocks, Option.any_some, decide_eq_true_eq]
    split_ifs with hcode
    · exact .unchanged
    · rw [modifyBlock_split split blocks]
      exact .changed (.updateCode split blocks hfound hcode)

lemma outcome_addProperty (d : Document) (p : Property) :
    Outcome d (.addProperty p) (Call.answered (d.addProperty p)) := by
  rw [addProperty]
  split_ifs with hknown
  · exact .unchanged
  · exact .changed (.addProperty (by simpa using hknown))

lemma outcome_removeProperty (d : Document) (name : Text) :
    Outcome d (.removeProperty name) (Call.answered (d.removeProperty name)) := by
  rw [removeProperty]
  split_ifs with hknown
  · obtain ⟨p, hp⟩ := Option.isSome_iff_exists.mp hknown
    have hname : p.name = name :=
      of_decide_eq_true (List.find?_some (p := fun q : Property => decide (q.name = name)) hp)
    subst hname
    exact .changed (.removeProperty (List.mem_of_find?_eq_some hp))
  · exact .unchanged

lemma outcome (d : Document) (c : Call) : Outcome d c (c.run d) := by
  cases c with
  | addPass p => exact .changed (.addPass p)
  | removePass id => exact outcome_removePass d id
  | movePass source target => exact outcome_movePass d source target
  | addBlock b => exact outcome_addBlock d b
  | removeBlock id => exact outcome_removeBlock d id
  | updateCode id code => exact outcome_updateCode d id code
  | addProperty p => exact outcome_addProperty d p
  | removeProperty name => exact outcome_removeProperty d name

/-- What a call leaves as it was: everything but the passes and the properties, the passes that it
is not addressed to, in their order, and of any pass all but its blocks. -/
structure Frame (d : Document) (c : Call) (e : Document) : Prop where
  shaderName : e.shaderName = d.shaderName
  filePath : e.filePath = d.filePath
  globalSettings : e.globalSettings = d.globalSettings
  rawContent : e.rawContent = d.rawContent
  others : (d.passes.filter fun p => c.addressed? d ≠ some p).Sublist e.passes
  own : ∀ q ∈ e.passes, c = .addPass q ∨ ∃ p ∈ d.passes, q = { p with blocks := q.blocks }

lemma Frame.of_passes_eq (shaderName : e.shaderName = d.shaderName)
    (filePath : e.filePath = d.filePath) (globalSettings : e.globalSettings = d.globalSettings)
    (rawContent : e.rawContent = d.rawContent) (passes : e.passes = d.passes) : Frame d c e where
  shaderName := shaderName
  filePath := filePath
  globalSettings := globalSettings
  rawContent := rawContent
  others := passes ▸ List.filter_sublist
  own q hq := .inr ⟨q, passes ▸ hq, rfl⟩

lemma others_of_split (split : d.passes = before ++ p :: after)
    (addressed : c.addressed? d = some p) :
    (d.passes.filter fun p => c.addressed? d ≠ some p).Sublist (before ++ after) := by
  rw [split, List.filter_append, List.filter_cons_of_neg (by simp [addressed])]
  exact List.filter_sublist.append List.filter_sublist

/-- Only the blocks of the pass that is addressed change. -/
lemma Frame.of_blocks {bs : List Block} (split : d.passes = before ++ p :: after)
    (addressed : c.addressed? d = some p) :
    Frame d c { d with passes := before ++ { p with blocks := bs } :: after, isDirty := true } where
  shaderName := rfl
  filePath := rfl
  globalSettings := rfl
  rawContent := rfl
  others := (others_of_split split addressed).trans
    ((List.Sublist.refl _).append (List.sublist_cons_self _ _))
  own q hq := by
    refine .inr ?_
    rw [split]
    rcases List.mem_append.mp hq with hq | hq
    · exact ⟨q, List.mem_append_left _ hq, rfl⟩
    · rcases List.mem_cons.mp hq with rfl | hq
      · exact ⟨p, List.mem_append_right _ List.mem_cons_self, rfl⟩
      · exact ⟨q, List.mem_append_right _ (List.mem_cons_of_mem _ hq), rfl⟩

/-- What a change of a document leaves as it was. -/
theorem Changes.frame (changes : d.Changes c e) : Frame d c e := by
  cases changes with
  | addPass p =>
    refine ⟨rfl, rfl, rfl, rfl,
      List.filter_sublist.trans (List.sublist_append_left _ _), fun q hq => ?_⟩
    rcases List.mem_append.mp hq with hq | hq
    · exact .inr ⟨q, hq, rfl⟩
    · exact .inl (congrArg Call.addPass (List.mem_singleton.mp hq).symm)
  | @removePass before p after split found index =>
    have addressed : (Call.removePass p.id).addressed? d = some p := by
      rw [Call.addressed?, found, Option.bind_some, split, getElem?_split]
    refine ⟨rfl, rfl, rfl, rfl, others_of_split split addressed, fun q hq => .inr ⟨q, ?_, rfl⟩⟩
    rw [split]
    exact ((List.Sublist.refl _).append (List.sublist_cons_self _ _)).subset hq
  | @movePass before p after target split range other index =>
    have addressed : (Call.movePass before.length target).addressed? d = some p := by
      rw [Call.addressed?, Int.toNat_natCast, split, getElem?_split]
    refine ⟨rfl, rfl, rfl, rfl,
      (others_of_split split addressed).trans (List.sublist_insertIdx _ _ _),
      fun q hq => .inr ⟨q, ?_, rfl⟩⟩
    rw [split]
    rcases List.eq_or_mem_of_mem_insertIdx hq with rfl | hq
    · exact List.mem_append_right _ List.mem_cons_self
    · exact ((List.Sublist.refl _).append (List.sublist_cons_self _ _)).subset hq
  | addBlock split active own b =>
    exact .of_blocks split ((activePass?_of_index active split).trans (getElem?_split _ _ _))
  | removeBlock split found held =>
    refine .of_blocks split ?_
    rw [Call.addressed?, found, Option.bind_some, split, getElem?_split]
  | updateCode split blocks found other =>
    refine .of_blocks split ?_
    rw [Call.addressed?, found, Option.bind_some, split, getElem?_split]
  | addProperty => exact .of_passes_eq rfl rfl rfl rfl rfl
  | removeProperty => exact .of_passes_eq rfl rfl rfl rfl rfl

/-- Every call, refused or not, leaves alone what it is not addressed to. -/
theorem run_frame (d : Document) (c : Call) : Frame d c (c.run d).1 := by
  have houtcome := outcome d c
  generalize c.run d = left at houtcome
  cases houtcome with
  | unchanged => exact .of_passes_eq rfl rfl rfl rfl rfl
  | refused => exact .of_passes_eq rfl rfl rfl rfl rfl
  | changed changes => exact changes.frame

lemma Changes.isDirty (changes : d.Changes c e) : e.isDirty := by
  cases changes <;> rfl

lemma passes_ne_of_blocks {bs : List Block} (split : d.passes = before ++ p :: after)
    (other : bs ≠ p.blocks) : before ++ { p with blocks := bs } :: after ≠ d.passes := by
  rw [split]
  intro same
  exact other (congrArg Pass.blocks (List.cons.inj (List.append_cancel_left same)).1)

/-- Where passes are told apart, a pass that is moved stands elsewhere. -/
lemma Changes.differs (changes : d.Changes c e) (distinct : d.DistinctPasses) :
    e.passes ≠ d.passes ∨ e.properties ≠ d.properties := by
  cases changes with
  | addPass p => exact .inl (by simp)
  | removePass split => exact .inl (by simp [split])
  | @movePass before p after target split range other index =>
    refine .inl fun same => other ?_
    have hmoved : d.passes[target]? = some p := by
      have hle : target ≤ (before ++ after).length := by
        rw [split] at range
        simp only [List.length_append, List.length_cons] at range ⊢
        omega
      rw [← same]
      exact List.getElem?_insertIdx_self.trans (if_pos hle)
    have hstood : d.passes[before.length]? = some p := by rw [split, getElem?_split]
    exact ((List.getElem?_inj range distinct.of_map).mp (hmoved.trans hstood.symm)).symm
  | addBlock split => exact .inl (passes_ne_of_blocks split (by simp))
  | removeBlock split found held =>
    refine .inl (passes_ne_of_blocks split fun same => ?_)
    simpa using List.filter_eq_self.mp same _ held
  | updateCode split blocks found other =>
    exact .inl fun same =>
      other (congrArg Block.code ((passes_eq_iff_of_block split blocks).mp same)).symm
  | addProperty => exact .inr (by simp)
  | removeProperty known =>
    refine .inr fun same => ?_
    simpa using List.filter_eq_self.mp same _ known

lemma run_of_refuses {x : EditError} (refuses : d.Refuses c x) : c.run d = (d, .error x) := by
  obtain ⟨b, rfl⟩ : ∃ b, c = .addBlock b := by cases refuses <;> exact ⟨_, rfl⟩
  rw [Call.run, addBlock_eq_error_iff.mpr refuses]

/-- A call that answers that it changed something has made such a change, and the document is
marked. A call that answers otherwise, or is refused, leaves the document as it is. Nothing but what
is addressed changes. -/
theorem run_honest (distinct : d.DistinctPasses) (c : Call) :
    ((c.run d).2 = .ok true → d.Changes c (c.run d).1 ∧ (c.run d).1.isDirty ∧
      ((c.run d).1.passes ≠ d.passes ∨ (c.run d).1.properties ≠ d.properties)) ∧
    ((c.run d).2 ≠ .ok true → (c.run d).1 = d) ∧
    (∀ x, (c.run d).2 = .error x ↔ d.Refuses c x) ∧
    Frame d c (c.run d).1 := by
  have herror : ∀ x, d.Refuses c x → (c.run d).2 = .error x :=
    fun x refuses => by rw [run_of_refuses refuses]
  have hframe := run_frame d c
  have houtcome := outcome d c
  generalize c.run d = left at houtcome herror hframe
  cases houtcome with
  | unchanged =>
    exact ⟨fun h => by simp at h, fun _ => rfl,
      fun x => ⟨fun h => by simp at h, fun h => herror x h⟩, hframe⟩
  | refused refuses =>
    refine ⟨fun h => by simp at h, fun _ => rfl,
      fun x => ⟨fun h => ?_, fun h => herror x h⟩, hframe⟩
    exact Except.error.inj h ▸ refuses
  | changed changes =>
    exact ⟨fun _ => ⟨changes, changes.isDirty, changes.differs distinct⟩, fun h => absurd rfl h,
      fun x => ⟨fun h => by simp at h, fun h => herror x h⟩, hframe⟩

/-- A use-pass refuses a block, and moving a pass to where it is changes nothing. -/
theorem run_honest_starter :
    let d : Document := { starter {} "Lit".toList with activeIndex := 1 }
    let tint : Block := { title := "Tint".toList, id := .fresh 3 }
    d.DistinctPasses ∧
      (Call.run d (.addBlock tint)).2 = .error (.usePass "ShadowCaster".toList "blocks".toList) ∧
      (Call.run d (.addBlock tint)).1 = d ∧ (Call.run d (.movePass 1 1)).1 = d ∧
      (Call.run d (.movePass 0 2)).1.isDirty ∧
        (Call.run d (.movePass 0 2)).1.rawContent = d.rawContent := by
  intro d tint
  have distinct : d.DistinctPasses := by decide
  obtain ⟨-, hkept, herror, -⟩ := run_honest distinct (.addBlock tint)
  have hrefused := (herror _).mpr (.usePass (p := .shadowCaster (.fresh 1)) rfl rfl)
  refine ⟨distinct, hrefused, hkept (by rw [hrefused]; simp), ?_, ?_⟩
  · exact (run_honest distinct (.movePass 1 1)).2.1 (by decide)
  · obtain ⟨hchanged, -, -, frame⟩ := run_honest distinct (.movePass 0 2)
    exact ⟨(hchanged rfl).2.1, frame.rawContent⟩

end Document
end MarkedShader
