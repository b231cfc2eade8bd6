import Mathlib.Data.List.Nodup

/-! The first item of each key: nothing else is kept, every key is, and none is kept twice. -/
namespace MarkedShader.Firsts

variable {α κ : Type} [BEq κ] (key : α → κ)

/-- Induction along the items that are kept: after one, those with another key are left. -/
@[elab_as_elim]
lemma induction_on {motive : List α → Prop} (nil : motive [])
    (cons : ∀ a as, motive (as.filter fun b => (key b == key a) = false) → motive (a :: as)) :
    ∀ as, motive as
  | [] => nil
  | a :: as => cons a as (induction_on nil cons _)
termination_by as => as.length
decreasing_by exact Nat.lt_succ_of_le (List.length_filter_le _ _)

/-- The first items of each key are among the items. -/
theorem mem_of_mem {key : α → κ} {a : α} {as : List α}
    (h : a ∈ as.eraseDupsBy fun b c => key b == key c) : a ∈ as := by
  induction as using induction_on key with
  | nil => exact h
  | cons b as ih =>
    rw [List.eraseDupsBy_cons] at h
    rcases List.mem_cons.mp h with rfl | h
    · exact List.mem_cons_self
    · exact List.mem_cons_of_mem _ (List.mem_filter.mp (ih h)).1

variable [LawfulBEq κ]

/-- Each key has a first item. -/
theorem exists_key_eq {key : α → κ} {a : α} {as : List α} (h : a ∈ as) :
    ∃ b ∈ as.eraseDupsBy fun b c => key b == key c, key b = key a := by
  induction as using induction_on key with
  | nil => contradiction
  | cons b as ih =>
    rw [List.eraseDupsBy_cons]
    by_cases hk : key a = key b
    · exact ⟨b, List.mem_cons_self, hk.symm⟩
    · have ha : a ∈ as := (List.mem_cons.mp h).resolve_left fun he => hk (he ▸ rfl)
      obtain ⟨c, hc, hck⟩ := ih (List.mem_filter.mpr ⟨ha, by simpa using hk⟩)
      exact ⟨c, List.mem_cons_of_mem _ hc, hck⟩

/-- No two of the first items of each key have the same key. -/
theorem nodup_keys (as : List α) : ((as.eraseDupsBy fun b c => key b == key c).map key).Nodup := by
  induction as using induction_on key with
  | nil => exact List.nodup_nil
  | cons b as ih =>
    rw [List.eraseDupsBy_cons, List.map_cons, List.nodup_cons]
    refine ⟨fun hb => ?_, ih⟩
    obtain ⟨c, hc, hcb⟩ := List.mem_map.mp hb
    have hother := (List.mem_filter.mp (mem_of_mem hc)).2
    simp [hcb] at hother

end MarkedShader.Firsts
