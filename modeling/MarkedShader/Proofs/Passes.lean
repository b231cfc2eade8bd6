import MarkedShader.Document
import Mathlib.Data.List.Nodup
import Mathlib.Data.List.Perm.Basic

/-! Passes that are added, removed and moved. The active pass is kept by its index, which follows
the pass it points at. Main statement: `activePass_tracked`. -/
namespace MarkedShader

lemma exists_split_of_getElem? {α : Type} {as : List α} {i : Nat} {a : α} (h : as[i]? = some a) :
    ∃ before after, as = before ++ a :: after ∧ before.length = i := by
  obtain ⟨hi, rfl⟩ := List.getElem?_eq_some_iff.mp h
  refine ⟨as.take i, as.drop (i+1), ?_, ?_⟩
  · rw [List.getElem_cons_drop, List.take_append_drop]
  · rw [List.length_take, Nat.min_eq_left (Nat.le_of_lt hi)]

lemma eraseIdx_split {α : Type} (before after : List α) (a : α) :
    (before ++ a :: after).eraseIdx before.length = before ++ after := by
  rw [List.eraseIdx_append_of_length_le (Nat.le_refl _), Nat.sub_self, List.eraseIdx_cons_zero]

lemma getElem?_split {α : Type} (before after : List α) (a : α) :
    (before ++ a :: after)[before.length]? = some a := by
  rw [List.getElem?_append_right (Nat.le_refl _), Nat.sub_self, List.getElem?_cons_zero]

lemma modify_split {α : Type} (before after : List α) (a : α) (change : α → α) :
    (before ++ a :: after).modify before.length change = before ++ change a :: after := by
  induction before with
  | nil => rfl
  | cons b before ih =>
    rw [List.cons_append, List.length_cons, List.modify_succ_cons, ih, List.cons_append]

namespace Document

variable {d : Document} {a p : Pass} {before after : List Pass}

def DistinctPasses (d : Document) : Prop := (d.passes.map (·.id)).Nodup

instance (d : Document) : Decidable d.DistinctPasses := inferInstanceAs (Decidable (List.Nodup _))

/-- The active pass is the one at the active index. -/
theorem activePass?_of_index {k : Nat} {ps : List Pass} (index : d.activeIndex = k)
    (passes : d.passes = ps) : d.activePass? = ps[k]? := by
  rw [activePass?, activePosition?, index, passes]
  split_ifs with hrange
  · rfl
  · have hout : ps.length ≤ k := by omega
    rw [List.getElem?_eq_none hout]
    rfl

lemma index_of_activePass? (active : d.activePass? = some a) :
    ∃ k : Nat, d.activeIndex = k ∧ d.passes[k]? = some a := by
  obtain ⟨k, hk, ha⟩ := Option.bind_eq_some_iff.mp active
  rw [activePosition?] at hk
  split_ifs at hk with hrange
  cases hk
  exact ⟨_, (Int.toNat_of_nonneg hrange.1).symm, ha⟩

/-- The pass of an identity goes, and the others stay in order. -/
lemma removePass_of_split (distinct : d.DistinctPasses) (split : d.passes = before ++ p :: after) :
    d.removePass p.id = ({ d with
      passes := before ++ after
      activeIndex :=
        if before.length < d.activeIndex ∨ (before ++ after).length ≤ d.activeIndex then
          max 0 (d.activeIndex-1)
        else d.activeIndex
      isDirty := true }, true) := by
  have hbefore : ∀ q ∈ before, q.id ≠ p.id := by
    rw [DistinctPasses, split, List.map_append, List.map_cons, List.nodup_append] at distinct
    exact fun q hq => distinct.2.2 _ (List.mem_map_of_mem hq) _ List.mem_cons_self
  have hfound : d.findPass? p.id = some before.length := by
    have hnone : before.findIdx? (fun q => q.id = p.id) = none := by simpa using hbefore
    simp [findPass?, split, List.findIdx?_append, hnone, List.findIdx?_cons]
  rw [removePass, hfound]
  simp only [split, eraseIdx_split]

lemma removePass_of_not_mem {id : Identity} (unknown : id ∉ d.passes.map (·.id)) :
    d.removePass id = (d, false) := by
  have hnone : d.findPass? id = none := by simpa [findPass?] using unknown
  rw [removePass, hnone]

lemma passes_removePass (distinct : d.DistinctPasses) (id : Identity) :
    (d.removePass id).1.passes = d.passes.filter fun p => p.id ≠ id := by
  by_cases hknown : id ∈ d.passes.map (·.id)
  · obtain ⟨p, hp, rfl⟩ := List.mem_map.mp hknown
    obtain ⟨before, after, split⟩ := List.append_of_mem hp
    rw [removePass_of_split distinct split, split]
    rw [DistinctPasses, split, List.map_append, List.map_cons, List.nodup_append,
      List.nodup_cons] at distinct
    obtain ⟨-, ⟨hafter, -⟩, hbefore⟩ := distinct
    have hkeepBefore : ∀ q ∈ before, q.id ≠ p.id :=
      fun q hq => hbefore _ (List.mem_map_of_mem hq) _ List.mem_cons_self
    have hkeepAfter : ∀ q ∈ after, q.id ≠ p.id :=
      fun q hq he => hafter (he ▸ List.mem_map_of_mem hq)
    rw [List.filter_append, List.filter_cons_of_neg (by simp),
      List.filter_eq_self.mpr (by simpa using hkeepBefore),
      List.filter_eq_self.mpr (by simpa using hkeepAfter)]
  · rw [removePass_of_not_mem hknown]
    refine (List.filter_eq_self.mpr fun p hp => ?_).symm
    rw [decide_eq_true_eq]
    exact fun he => hknown (he ▸ List.mem_map_of_mem hp)

lemma activeIndex_removePass (distinct : d.DistinctPasses) (split : d.passes = before ++ p :: after)
    {k : Nat} (index : d.activeIndex = k) : (d.removePass p.id).1.activeIndex =
      (if before.length < k ∨ (before ++ after).length ≤ k then k - 1 else k : Nat) := by
  rw [removePass_of_split distinct split]
  simp only [index]
  split_ifs <;> omega

lemma activePass?_removePass (distinct : d.DistinctPasses) (split : d.passes = before ++ p :: after)
    {k : Nat} (index : d.activeIndex = k) : (d.removePass p.id).1.activePass? =
      (before ++ after)[if before.length < k ∨ (before ++ after).length ≤ k then
        k - 1 else k]? := by
  refine activePass?_of_index (activeIndex_removePass distinct split index) ?_
  rw [removePass_of_split distinct split]

/-- Another pass goes, before the active one or after it. -/
lemma activePass?_removePass_of_ne (distinct : d.DistinctPasses) (active : d.activePass? = some a)
    {id : Identity} (hne : id ≠ a.id) : (d.removePass id).1.activePass? = some a := by
  by_cases hknown : id ∈ d.passes.map (·.id)
  · obtain ⟨p, hp, rfl⟩ := List.mem_map.mp hknown
    obtain ⟨before, after, split⟩ := List.append_of_mem hp
    obtain ⟨k, hindex, ha⟩ := index_of_activePass? active
    have hlength : (before ++ after).length + 1 = d.passes.length := by simp [split, Nat.add_assoc]
    have hk : k < d.passes.length := (List.getElem?_eq_some_iff.mp ha).1
    rw [activePass?_removePass distinct split hindex]
    rw [split] at ha
    rcases Nat.lt_trichotomy k before.length with hlt | rfl | hgt
    · have hstays : ¬ (before.length < k ∨ (before ++ after).length ≤ k) := by
        rw [List.length_append]
        omega
      rw [if_neg hstays]
      rwa [List.getElem?_append_left hlt] at ha ⊢
    · rw [getElem?_split, Option.some.injEq] at ha
      exact absurd (congrArg Pass.id ha) hne
    · obtain ⟨j, rfl⟩ : ∃ j, k = before.length + (j + 1) := ⟨k - before.length - 1, by omega⟩
      rw [if_pos (.inl hgt), Nat.add_sub_assoc (Nat.le_add_left 1 j), Nat.add_sub_cancel]
      rw [List.getElem?_append_right (Nat.le_add_right ..), Nat.add_sub_cancel_left] at ha ⊢
      rwa [List.getElem?_cons_succ] at ha
  · rw [removePass_of_not_mem hknown]
    exact active

/-- The active pass goes. The one after it is active then, or else the one before it. -/
lemma activePass?_removePass_self (distinct : d.DistinctPasses)
    (split : d.passes = before ++ a :: after) (index : d.activeIndex = before.length) :
    (d.removePass a.id).1.activePass? = after.head?.or before.getLast? := by
  rw [activePass?_removePass distinct split index]
  cases after with
  | nil =>
    rw [List.append_nil, if_pos (.inr (Nat.le_refl _)), List.getLast?_eq_getElem?]
    rfl
  | cons next after =>
    rw [if_neg (by simp), getElem?_split]
    rfl

/-- A pass that is moved leaves the same passes. -/
theorem perm_move {ps : List Pass} {source target : Nat} {moved : Pass}
    (hs : ps[source]? = some moved) (ht : target < ps.length) :
    ((ps.eraseIdx source).insertIdx target moved).Perm ps := by
  obtain ⟨hlt, rfl⟩ := List.getElem?_eq_some_iff.mp hs
  have hle : target ≤ (ps.eraseIdx source).length := by rw [List.length_eraseIdx, if_pos hlt]; omega
  exact (List.perm_insertIdx _ _ hle).trans (List.getElem_cons_eraseIdx_perm hlt)

/-- A move to another place within the range takes place. -/
theorem movePass_of_range {source target : Nat} {moved : Pass} (hs : d.passes[source]? = some moved)
    (ht : target < d.passes.length) (hne : source ≠ target) :
    let passes := (d.passes.eraseIdx source).insertIdx target moved
    d.movePass source target = ({ d with
      passes
      activeIndex := match d.activePass? with
        | some active => passes.findIdx fun p => p = active
        | none => d.activeIndex
      isDirty := true }, true) := by
  have hlt := (List.getElem?_eq_some_iff.mp hs).1
  rw [movePass]
  simp only [Int.toNat_natCast, hs]
  exact if_pos (by omega)

/-- A move from or to a place that there is not leaves the document as it is. -/
theorem movePass_of_not_range {source target : Int}
    (h : ¬ (0 ≤ source ∧ source < d.passes.length ∧ 0 ≤ target ∧ target < d.passes.length ∧
      source ≠ target)) :
    d.movePass source target = (d, false) := by
  rw [movePass]
  exact if_neg h

lemma perm_movePass (source target : Int) : (d.movePass source target).1.passes.Perm d.passes := by
  by_cases hrange : 0 ≤ source ∧ source < d.passes.length ∧ 0 ≤ target ∧
    target < d.passes.length ∧ source ≠ target
  · obtain ⟨i, rfl⟩ := Int.eq_ofNat_of_zero_le hrange.1
    obtain ⟨j, rfl⟩ := Int.eq_ofNat_of_zero_le hrange.2.2.1
    have hsource := List.getElem?_eq_getElem (show i < d.passes.length by omega)
    have htarget : j < d.passes.length := by omega
    rw [movePass_of_range hsource htarget (by omega)]
    exact perm_move hsource htarget
  · rw [movePass_of_not_range hrange]

/-- The active pass is looked up again among the passes, and it is still there. -/
lemma activePass?_movePass (active : d.activePass? = some a) (source target : Int) :
    (d.movePass source target).1.activePass? = some a := by
  by_cases hrange : 0 ≤ source ∧ source < d.passes.length ∧ 0 ≤ target ∧
    target < d.passes.length ∧ source ≠ target
  · obtain ⟨i, rfl⟩ := Int.eq_ofNat_of_zero_le hrange.1
    obtain ⟨j, rfl⟩ := Int.eq_ofNat_of_zero_le hrange.2.2.1
    have hi : i < d.passes.length := by omega
    have hj : j < d.passes.length := by omega
    have hsource := List.getElem?_eq_getElem hi
    obtain ⟨k, -, ha⟩ := index_of_activePass? active
    have hmem := (perm_move hsource hj).symm.subset (List.mem_of_getElem? ha)
    have hmoved := movePass_of_range hsource hj (by omega)
    generalize (d.passes.eraseIdx i).insertIdx j d.passes[i] = ps at hmem hmoved
    have hfound :=
      List.findIdx_lt_length_of_exists (p := fun p => decide (p = a)) ⟨a, hmem, decide_eq_true rfl⟩
    have hindex : (d.movePass i j).1.activeIndex = (ps.findIdx fun p => p = a : Nat) := by
      simp only [hmoved, active]
    rw [activePass?_of_index hindex (by rw [hmoved]), List.getElem?_eq_getElem hfound]
    exact congrArg some (of_decide_eq_true (List.findIdx_getElem (w := hfound)))
  · rw [movePass_of_not_range hrange]
    exact active

/-- What edits of the passes do to an active pass between others. -/
structure TracksActive (d : Document) (before : List Pass) (a : Pass)
    (after : List Pass) : Prop where
  active : d.activePass? = some a
  addPass : ∀ p, (d.addPass p).activePass? = some a
  movePass : ∀ source target, (d.movePass source target).1.activePass? = some a
  removeOther : ∀ id, id ≠ a.id → (d.removePass id).1.activePass? = some a
  removeSelf : (d.removePass a.id).1.activePass? = after.head?.or before.getLast?
  removeOnly : before = [] → after = [] → (d.removePass a.id).1.activeIndex = 0

lemma tracksActive (distinct : d.DistinctPasses) (split : d.passes = before ++ a :: after)
    (index : d.activeIndex = before.length) : d.TracksActive before a after := by
  have active : d.activePass? = some a := by
    rw [activePass?_of_index index split, getElem?_split]
  refine ⟨active, fun p => ?_, activePass?_movePass active,
    fun _ => activePass?_removePass_of_ne distinct active,
    activePass?_removePass_self distinct split index, fun hbefore hafter => ?_⟩
  · rw [activePass?_of_index (d := d.addPass p) index rfl]
    simp [addPass, split]
  · rw [activeIndex_removePass distinct split index, hbefore, hafter]
    rfl

/-- The active pass stays the same pass as long as it is there, and then the one after it or before
it is active. A move takes a pass to its place and leaves the others in order, and a removal takes
one pass away. -/
theorem activePass_tracked (distinct : d.DistinctPasses)
    (inRange : 0 ≤ d.activeIndex ∧ d.activeIndex < d.passes.length) :
    (∃ before a after, d.passes = before ++ a :: after ∧ d.activeIndex = before.length ∧
      d.TracksActive before a after) ∧
      (∀ source target : Nat, source < d.passes.length → target < d.passes.length →
        source ≠ target → (d.movePass source target).2 = true ∧
          (d.movePass source target).1.passes[target]? = d.passes[source]? ∧
          (d.movePass source target).1.passes.eraseIdx target = d.passes.eraseIdx source) ∧
      ∀ id, (d.removePass id).1.passes = d.passes.filter fun p => p.id ≠ id := by
  refine ⟨?_, fun source target hs ht hne => ?_, passes_removePass distinct⟩
  · obtain ⟨k, hk⟩ := Int.eq_ofNat_of_zero_le inRange.1
    have hlt : k < d.passes.length := by omega
    obtain ⟨before, after, split, hlength⟩ :=
      exists_split_of_getElem? (List.getElem?_eq_getElem hlt)
    have index : d.activeIndex = before.length := by rw [hk, hlength]
    exact ⟨_, _, _, split, index, tracksActive distinct split index⟩
  · have hsource := List.getElem?_eq_getElem hs
    have hle : target ≤ (d.passes.eraseIdx source).length := by
      rw [List.length_eraseIdx, if_pos hs]
      omega
    rw [movePass_of_range hsource ht hne]
    refine ⟨rfl, ?_, List.eraseIdx_insertIdx_self _⟩
    rw [hsource, List.getElem?_insertIdx_self, if_pos hle]

/-- The middle one of three passes is active. -/
theorem activePass_tracked_middle :
    let d : Document := { starter {} "Lit".toList with activeIndex := 1 }
    d.DistinctPasses ∧ d.activePass? = some (.shadowCaster (.fresh 1)) ∧
      (d.movePass 0 2).1.activePass? = d.activePass? ∧
      (d.removePass (.fresh 1)).1.activePass? = some (.depthOnly (.fresh 2)) := by
  intro d
  have distinct : d.DistinctPasses := by decide
  have inRange : 0 ≤ d.activeIndex ∧ d.activeIndex < d.passes.length := by decide
  obtain ⟨⟨before, a, after, split, index, tracks⟩, -⟩ := activePass_tracked distinct inRange
  obtain ⟨first, rfl⟩ := List.length_eq_one_iff.mp (Int.ofNat.inj index).symm
  obtain ⟨rfl, rfl, rfl⟩ : first = .forwardLit {} (.fresh 0) ∧ a = .shadowCaster (.fresh 1) ∧
      after = [.depthOnly (.fresh 2)] := by
    simpa [d, starter, eq_comm] using split
  exact ⟨distinct, tracks.active, (tracks.movePass 0 2).trans tracks.active.symm, tracks.removeSelf⟩

end Document
end MarkedShader
