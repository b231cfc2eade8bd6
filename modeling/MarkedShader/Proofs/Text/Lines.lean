import MarkedShader.Proofs.Text.Readers
import MarkedShader.Text.Lines
import Mathlib.Data.List.DropRight
import Mathlib.Tactic.SplitIfs

/-! Lines are read back as they were joined, and code without common indentation is dedented to
itself, also under a margin and as a comment. -/
namespace MarkedShader.Text

/-- A line that no part of a line break belongs to. -/
def IsLine (l : Text) : Prop := '\n' ∉ l ∧ l.getLast? ≠ some '\r'

instance (l : Text) : Decidable (IsLine l) := inferInstanceAs (Decidable (_ ∧ _))

lemma isLine_of_not_mem {l : Text} (hn : '\n' ∉ l) (hr : '\r' ∉ l) : IsLine l :=
  ⟨hn, fun h => hr (List.mem_of_getLast? h)⟩

lemma unifyBreaks_cons {c : Char} {t : Text} (h : c = '\r' → t.head? ≠ some '\n') :
    unifyBreaks (c :: t) = c :: unifyBreaks t := by
  cases t with
  | nil => simp [unifyBreaks]
  | cons d t =>
    by_cases hc : c = '\r'
    · have hd : d ≠ '\n' := fun e => h hc (congrArg some e)
      simp [unifyBreaks, hd]
    · simp [unifyBreaks, hc]

lemma unifyBreaks_of_not_mem {t : Text} (h : '\r' ∉ t) : unifyBreaks t = t := by
  induction t with
  | nil => rfl
  | cons c t ih =>
    rw [List.mem_cons, not_or] at h
    rw [unifyBreaks_cons fun hc => absurd hc.symm h.1, ih h.2]

lemma unifyBreaks_of_unbroken {t : Text} (h : '\n' ∉ t) : unifyBreaks t = t := by
  induction t with
  | nil => rfl
  | cons c t ih =>
    rw [List.mem_cons, not_or] at h
    rw [unifyBreaks_cons fun _ hn => h.2 (List.mem_of_mem_head? hn), ih h.2]

lemma unifyBreaks_line {l : Text} (h : IsLine l) (t : Text) :
    unifyBreaks (l ++ '\n' :: t) = l ++ '\n' :: unifyBreaks t := by
  induction l with
  | nil => exact unifyBreaks_cons fun e => absurd e (by decide)
  | cons c l ih =>
    obtain ⟨hn, hr⟩ := h
    rw [List.mem_cons, not_or] at hn
    have hl : IsLine l := by
      refine ⟨hn.2, ?_⟩
      cases l with
      | nil => simp
      | cons d l => rwa [List.getLast?_cons_cons] at hr
    rw [List.cons_append, unifyBreaks_cons, ih hl, List.cons_append]
    rintro rfl
    cases l with
    | nil => exact absurd rfl hr
    | cons d l => exact fun e => hn.2 (Option.some.inj e ▸ List.mem_cons_self)

lemma lines_line {l : Text} (h : IsLine l) (t : Text) : lines (l ++ '\n' :: t) = l :: lines t := by
  rw [lines, unifyBreaks_line h, List.splitOn_append_cons_self_of_not_mem h.1]
  rfl

lemma joinLines_cons_cons (l k : Text) (ls : List Text) :
    joinLines (l :: k :: ls) = l ++ '\n' :: joinLines (k :: ls) := by
  simp [joinLines, List.intercalate_cons_cons]

/-- A text of lines, each with its line break, is read as these lines and an empty one. -/
theorem lines_joinLines {ls : List Text} (hne : ls ≠ []) (h : ∀ l ∈ ls, IsLine l) :
    lines (joinLines ls ++ ['\n']) = ls ++ [[]] := by
  induction ls with
  | nil => contradiction
  | cons l ls ih =>
    have hl := h l List.mem_cons_self
    cases ls with
    | nil =>
      have := lines_line hl []
      simpa [joinLines, lines, unifyBreaks] using this
    | cons k ls =>
      rw [joinLines_cons_cons, List.append_assoc, List.cons_append, lines_line hl,
        ih (List.cons_ne_nil k ls) fun l hl => h l (List.mem_cons_of_mem _ hl)]
      rfl

/-- Joined lines are read as they were. -/
theorem lines_joinLines_self {ls : List Text} (hne : ls ≠ []) (h : ∀ l ∈ ls, IsLine l) :
    lines (joinLines ls) = ls := by
  induction ls with
  | nil => contradiction
  | cons l ls ih =>
    have hl := h l List.mem_cons_self
    cases ls with
    | nil =>
      rw [joinLines, List.intercalate_singleton, lines, unifyBreaks_of_unbroken hl.1,
        List.splitOn_eq_singleton hl.1]
    | cons k ls =>
      rw [joinLines_cons_cons, lines_line hl,
        ih (List.cons_ne_nil k ls) fun l hl => h l (List.mem_cons_of_mem _ hl)]

/-- Lines that are joined are split again. -/
theorem splitOn_joinLines {ls : List Text} (hne : ls ≠ []) (h : ∀ l ∈ ls, '\n' ∉ l) :
    (joinLines ls).splitOn '\n' = ls := List.splitOn_intercalate '\n' h hne

/-- A text that is split is joined again. -/
theorem joinLines_splitOn (t : Text) : joinLines (t.splitOn '\n') = t :=
  List.intercalate_splitOn '\n'

lemma not_mem_of_mem_splitOn {t l : Text} {c : Char} (h : l ∈ t.splitOn c) : c ∉ l := by
  induction t generalizing l with
  | nil => simp_all
  | cons d t ih =>
    rw [List.splitOn_cons_eq_if_modifyHead] at h
    split_ifs at h with hd
    · rcases List.mem_cons.mp h with rfl | h
      · simp
      · exact ih h
    · cases hs : t.splitOn c with
      | nil => exact absurd hs (List.splitOn_ne_nil c t)
      | cons k ks =>
        rw [hs] at h ih
        rcases List.mem_cons.mp h with rfl | h
        · have hdc : c ≠ d := fun e => hd (beq_iff_eq.mpr e.symm)
          exact fun hc => (List.mem_cons.mp hc).elim hdc (ih List.mem_cons_self)
        · exact ih (List.mem_cons_of_mem k h)

lemma length_le_joinLines {ls : List Text} {l : Text} (h : l ∈ ls) :
    l.length ≤ (joinLines ls).length := by
  induction ls with
  | nil => contradiction
  | cons k ls ih =>
    cases ls with
    | nil =>
      rw [List.mem_singleton.mp h]
      simp [joinLines]
    | cons m ls =>
      rw [joinLines_cons_cons, List.length_append, List.length_cons]
      rcases List.mem_cons.mp h with rfl | h
      · omega
      · have := ih h
        omega

lemma subset_joinLines {ls : List Text} {l : Text} (h : l ∈ ls) : l ⊆ joinLines ls := by
  induction ls with
  | nil => contradiction
  | cons k ls ih =>
    cases ls with
    | nil =>
      rw [List.mem_singleton.mp h, joinLines, List.intercalate_singleton]
      exact List.Subset.refl k
    | cons m ls =>
      rw [joinLines_cons_cons]
      rcases List.mem_cons.mp h with rfl | h
      · exact List.subset_append_left _ _
      · exact fun c hc => List.mem_append_right _ (List.mem_cons_of_mem _ (ih h hc))

/-- In a text without carriage returns the lines have none. -/
theorem isLine_of_mem_lines {t l : Text} (unbroken : '\r' ∉ t) (h : l ∈ lines t) : IsLine l := by
  rw [lines, unifyBreaks_of_not_mem unbroken] at h
  refine isLine_of_not_mem (not_mem_of_mem_splitOn h) fun hr => unbroken ?_
  rw [← joinLines_splitOn t]
  exact subset_joinLines h hr

/-- Nothing is trimmed exactly if the last character is not one of those that are. -/
theorem trimEnd_eq_self_iff {p : Char → Bool} {t : Text} :
    trimEnd p t = t ↔ ∀ c ∈ t.getLast?, p c = false := by
  change t.rdropWhile p = t ↔ _
  rw [List.rdropWhile_eq_self_iff]
  constructor
  · intro h c hc
    obtain ⟨hne, rfl⟩ := List.mem_getLast?_eq_getLast hc
    simpa using h hne
  · intro h hne
    simpa using h _ (List.getLast?_eq_some_getLast hne)

lemma stop_trimEnd (p : Char → Bool) (t : Text) : ∀ c ∈ (trimEnd p t).getLast?, p c = false :=
  trimEnd_eq_self_iff.mp (List.rdropWhile_idempotent p t)

lemma prefix_trimEnd (p : Char → Bool) (t : Text) : trimEnd p t <+: t := List.rdropWhile_prefix p t

/-- Nothing is trimmed if neither the first nor the last character is one of those that are. -/
theorem trimBoth_eq_self {p : Char → Bool} {t : Text} (hfirst : ∀ c ∈ t.head?, p c = false)
    (hlast : ∀ c ∈ t.getLast?, p c = false) : trimBoth p t = t := by
  rw [trimBoth, dropWhile_of_stop hfirst, trimEnd_eq_self_iff.mpr hlast]

/-- Characters at the end that are all trimmed make no difference. -/
theorem trimEnd_append {p : Char → Bool} {tail : Text} (h : ∀ c ∈ tail, p c) (t : Text) :
    trimEnd p (t ++ tail) = trimEnd p t := by
  rw [trimEnd, List.reverse_append, List.dropWhile_append_of_pos (by simpa using h), trimEnd]

lemma trimEnd_append_cons {p : Char → Bool} {c : Char} {tail : Text} (hc : p c = false)
    (h : ∀ c ∈ tail, p c) (t : Text) : trimEnd p (t ++ c :: tail) = t ++ [c] := by
  rw [show t ++ c :: tail = (t ++ [c]) ++ tail by simp, trimEnd_append h]
  exact trimEnd_eq_self_iff.mpr (by simpa using hc)

/-- What stands before a character that is kept is kept with it. -/
theorem trimEnd_keeps {p : Char → Bool} {c : Char} (hc : p c = false) (t tail : Text) :
    ∃ rest, trimEnd p (t ++ c :: tail) = t ++ c :: rest := by
  have hkeep : (c :: t.reverse).dropWhile p = c :: t.reverse :=
    List.dropWhile_cons_of_neg (by simp [hc])
  refine ⟨trimEnd p tail, ?_⟩
  rw [trimEnd, List.reverse_append, List.reverse_cons, List.append_assoc, List.singleton_append,
    List.dropWhile_append, hkeep]
  split_ifs with h
  · rw [trimEnd, List.isEmpty_iff.mp h]
    simp
  · simp [trimEnd]

lemma head?_of_isPrefix {a t : Text} (h : a <+: t) : ∀ c ∈ a.head?, c ∈ t.head? := by
  obtain ⟨r, rfl⟩ := h
  cases a with
  | nil => simp
  | cons d a => simp

lemma trimBoth_trimBoth (p : Char → Bool) (t : Text) : trimBoth p (trimBoth p t) = trimBoth p t :=
  trimBoth_eq_self
    (fun c hc => stop_dropWhile p t c (head?_of_isPrefix (prefix_trimEnd p _) c hc))
    (stop_trimEnd p _)

/-- The lines without the empty ones at both ends. -/
def trimLines (ls : List Text) : List Text := (ls.dropWhile List.isEmpty).rdropWhile List.isEmpty

lemma dropWhile_joinLines {ls : List Text} (h : ∀ l ∈ ls, '\n' ∉ l) :
    (joinLines ls).dropWhile (· == '\n') = joinLines (ls.dropWhile List.isEmpty) := by
  induction ls with
  | nil => rfl
  | cons l ls ih =>
    have hrest : ∀ k ∈ ls, '\n' ∉ k := fun k hk => h k (List.mem_cons_of_mem _ hk)
    cases l with
    | nil =>
      cases ls with
      | nil => rfl
      | cons k ls =>
        rw [joinLines_cons_cons, List.nil_append]
        exact ih hrest
    | cons c l =>
      have hc : c ≠ '\n' := fun e => h _ List.mem_cons_self (e ▸ List.mem_cons_self)
      have hfirst : ∀ d ∈ (joinLines ((c :: l) :: ls)).head?, (d == '\n') = false := by
        cases ls with
        | nil => simp [joinLines, hc]
        | cons k ls => simp [joinLines_cons_cons, hc]
      exact dropWhile_of_stop hfirst

lemma joinLines_append_singleton {ls : List Text} (hne : ls ≠ []) (l : Text) :
    joinLines (ls ++ [l]) = joinLines ls ++ '\n' :: l := by
  induction ls with
  | nil => contradiction
  | cons k ls ih =>
    cases ls with
    | nil => simp [joinLines]
    | cons m ls =>
      have := ih (List.cons_ne_nil m ls)
      simp_all [joinLines_cons_cons]

lemma reverse_joinLines (ls : List Text) :
    (joinLines ls).reverse = joinLines (ls.reverse.map List.reverse) := by
  induction ls with
  | nil => rfl
  | cons l ls ih =>
    cases ls with
    | nil => simp [joinLines]
    | cons k ls =>
      rw [joinLines_cons_cons, List.reverse_append, List.reverse_cons, ih,
        List.reverse_cons (a := l), List.map_append, List.map_singleton,
        joinLines_append_singleton (by simp), List.append_assoc, List.singleton_append]

lemma trimBoth_joinLines {ls : List Text} (h : ∀ l ∈ ls, '\n' ∉ l) :
    trimBoth (· == '\n') (joinLines ls) = joinLines (trimLines ls) := by
  rw [trimBoth, dropWhile_joinLines h, trimEnd, reverse_joinLines, dropWhile_joinLines,
    reverse_joinLines]
  · have hempty : List.isEmpty ∘ List.reverse = (List.isEmpty : Text → Bool) := by
      funext l
      cases l <;> simp
    rw [List.dropWhile_map, ← List.map_reverse, List.map_map, hempty]
    simp [trimLines, List.rdropWhile]
  · simp only [List.mem_map, List.mem_reverse]
    rintro _ ⟨l, hl, rfl⟩
    simpa using h l ((List.dropWhile_sublist _).subset hl)

end MarkedShader.Text
