import MarkedShader.Text.Basic
import Mathlib.Data.List.Infix

/-! Searching a text: where a reader is tried, and which parts a text joined of others can hold. -/
namespace MarkedShader.Text

variable {α : Type} {reader : Text → Option α} {t : Text}

/-- A search fails exactly if the reader does at every place. -/
theorem search_eq_none_iff : search reader t = none ↔ ∀ s, s <:+ t → reader s = none := by
  induction t with
  | nil => simp [search]
  | cons c t ih =>
    simp only [search, List.suffix_cons_iff]
    constructor
    · intro h s hs
      split at h
      · contradiction
      · rename_i hc
        rcases hs with rfl | hs
        · exact hc
        · exact ih.mp h s hs
    · intro h
      rw [h _ (.inl rfl)]
      exact ih.mpr fun s hs => h s (.inr hs)

/-- A search stops where the reader succeeds at once. -/
theorem search_of_reads {a : α} (h : reader t = some a) : search reader t = some a := by
  cases t with
  | nil => exact h
  | cons c t => simp [search, h]

/-- Places at which a reader fails are passed over. -/
theorem search_append {l : Text} (h : ∀ a b, l = a ++ b → b ≠ [] → reader (b ++ t) = none) :
    search reader (l ++ t) = search reader t := by
  induction l with
  | nil => rfl
  | cons c l ih =>
    have hc := h [] (c :: l) rfl (by simp)
    rw [List.cons_append] at hc ⊢
    simp only [search, hc]
    exact ih fun a b hl hb => h (c :: a) b (by rw [hl]; rfl) hb

/-- What a search finds, the reader reads at some place. -/
theorem exists_of_search {a : α} (h : search reader t = some a) :
    ∃ s, s <:+ t ∧ reader s = some a := by
  induction t with
  | nil => exact ⟨[], List.suffix_refl _, h⟩
  | cons c t ih =>
    simp only [search] at h
    split at h
    · rename_i hc
      exact ⟨c :: t, List.suffix_refl _, hc.trans h⟩
    · obtain ⟨s, hs, hr⟩ := ih h
      exact ⟨s, hs.trans (List.suffix_cons c t), hr⟩

/-- What a scan answers with was read at some place of the text. -/
theorem exists_of_mem_scan {reader : Option Char → Text → Option (α × Nat)} {before : Option Char}
    {skip : Nat} {a : α} (h : a ∈ scan reader before skip t) :
    ∃ before s n, s <:+ t ∧ reader before s = some (a, n) := by
  induction t generalizing before skip with
  | nil => simp [scan] at h
  | cons c t ih =>
    have later {before skip} (h : a ∈ scan reader before skip t) :
        ∃ before s n, s <:+ c :: t ∧ reader before s = some (a, n) := by
      obtain ⟨b, s, n, hs, hr⟩ := ih h
      exact ⟨b, s, n, hs.trans (List.suffix_cons c t), hr⟩
    cases skip with
    | succ skip => exact later h
    | zero =>
      rw [scan] at h
      cases hc : reader before (c :: t) with
      | none => exact later (by simpa [hc] using h)
      | some p =>
        obtain ⟨b, n⟩ := p
        simp only [hc, List.mem_cons] at h
        rcases h with rfl | h
        · exact ⟨before, c :: t, n, List.suffix_refl _, hc⟩
        · exact later h

/-- Nothing follows a lead exactly if the text does not begin with it. -/
theorem after?_eq_none_iff {lead : Text} : after? lead t = none ↔ ¬ lead <+: t := by
  rw [Option.eq_none_iff_forall_ne_some]
  constructor
  · rintro h ⟨r, rfl⟩
    exact h r (after?_append lead r)
  · rintro h r hr
    exact h ⟨r, (after?_eq_some_iff.mp hr).symm⟩

lemma holds_eq_false_iff {part : Text} : holds t part = false ↔ ¬ part <:+: t := by
  rw [holds, Option.isSome_eq_false_iff, Option.isNone_iff_eq_none, search_eq_none_iff,
    List.infix_iff_prefix_suffix]
  simp only [after?_eq_none_iff, not_exists, not_and]
  exact ⟨fun h s hp hs => h s hs hp, fun h s hs hp => h s hp hs⟩

/-- A part cannot reach over a character that it does not have. -/
theorem prefix_of_prefix_append_cons {p u b : Text} {c : Char} (hc : c ∉ p)
    (h : p <+: u ++ c :: b) : p <+: u := by
  induction p generalizing u with
  | nil => exact List.nil_prefix
  | cons x p ih =>
    cases u with
    | nil => exact absurd (List.cons_prefix_cons.mp h).1 fun e => hc (e ▸ List.mem_cons_self)
    | cons y u =>
      obtain ⟨rfl, hp⟩ := List.cons_prefix_cons.mp h
      exact List.cons_prefix_cons.mpr ⟨rfl, ih (fun hm => hc (List.mem_cons_of_mem _ hm)) hp⟩

/-- A part without some character lies on one side of it. -/
theorem infix_append_cons {p a b : Text} {c : Char} (hc : c ∉ p) (h : p <:+: a ++ c :: b) :
    p <:+: a ∨ p <:+: b := by
  induction a with
  | nil =>
    rcases List.infix_cons_iff.mp h with h | h
    · exact .inl (prefix_of_prefix_append_cons (u := []) hc h).isInfix
    · exact .inr h
  | cons x a ih =>
    rcases List.infix_cons_iff.mp h with h | h
    · exact .inl (prefix_of_prefix_append_cons (u := x :: a) hc h).isInfix
    · exact (ih h).imp_left fun h => h.trans (List.infix_cons (List.infix_refl a))

/-- A part cannot begin where its first character does not stand. -/
theorem infix_of_head_not_mem {c : Char} {p a b : Text} (hc : c ∉ a) (h : c :: p <:+: a ++ b) :
    c :: p <:+: b := by
  induction a with
  | nil => exact h
  | cons x a ih =>
    rw [List.mem_cons, not_or] at hc
    rcases List.infix_cons_iff.mp h with h | h
    · exact absurd (List.cons_prefix_cons.mp h).1 hc.1
    · exact ih hc.2 h

end MarkedShader.Text
