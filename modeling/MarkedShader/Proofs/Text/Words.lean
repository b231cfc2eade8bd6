import MarkedShader.Proofs.Attributes

/-! The words of a text are its maximal runs of word characters. -/
namespace MarkedShader.Text

variable {w t r : Text}

/-- A name that stands in a text with no word character before or after it. -/
def IsWordOf (w t : Text) : Prop :=
  IsName w ∧ ∃ a b, t = a ++ (w ++ b) ∧ (∀ c ∈ a.getLast?, isWord c = false) ∧
    ∀ c ∈ b.head?, isWord c = false

/-- A name that ends where no word character follows is the first word. -/
lemma words_append (hw : IsName w) (stop : ∀ c ∈ r.head?, isWord c = false) :
    words (w ++ r) = w :: words r := by
  obtain ⟨hne, hall⟩ := hw
  have hword := word?_append hne hall stop
  obtain ⟨c, v, rfl⟩ := List.exists_cons_of_ne_nil hne
  rw [List.cons_append] at hword ⊢
  rw [words, scan_of_some (a := c :: v) (n := v.length), List.drop_left, words]
  rw [hword]
  rfl

lemma words_cons {c : Char} (hc : isWord c = false) (t : Text) : words (c :: t) = words t := by
  rw [words, scan_of_none, words]
  simp [word?, run?, hc]

lemma IsWordOf.append (h : IsWordOf w r) (stop : ∀ c ∈ r.head?, isWord c = false) (m : Text) :
    IsWordOf w (m ++ r) := by
  obtain ⟨hw, a, b, rfl, before, after⟩ := h
  refine ⟨hw, m ++ a, b, (List.append_assoc ..).symm, ?_, after⟩
  cases a with
  | nil =>
    -- a word right behind another one would go on with it
    obtain ⟨c, v, rfl⟩ := List.exists_cons_of_ne_nil hw.1
    have hc := stop c rfl
    rw [hw.2 c List.mem_cons_self] at hc
    contradiction
  | cons d a => rwa [List.getLast?_append_of_ne_nil _ (List.cons_ne_nil d a)]

lemma IsWordOf.cons {c : Char} (h : IsWordOf w t) (hc : isWord c = false) :
    IsWordOf w (c :: t) := by
  obtain ⟨hw, a, b, rfl, before, after⟩ := h
  refine ⟨hw, c :: a, b, rfl, ?_, after⟩
  cases a with
  | nil => exact fun d hd => Option.some.inj hd ▸ hc
  | cons d a => rwa [List.getLast?_cons_cons]

lemma IsWordOf.of_append {m : Text} (h : IsWordOf w (m ++ r)) (hm : IsName m)
    (stop : ∀ c ∈ r.head?, isWord c = false) : w = m ∨ IsWordOf w r := by
  obtain ⟨hw, a, b, split, before, after⟩ := h
  by_cases ha : a = []
  · have hfirst := word?_append hw.1 hw.2 after
    rw [← List.nil_append (w ++ b), ← ha, ← split, word?_append hm.1 hm.2 stop] at hfirst
    exact .inl (Prod.mk.inj (Option.some.inj hfirst)).1.symm
  · right
    have hlast := List.getLast?_eq_some_getLast ha
    rcases List.append_eq_append_iff.mp split with ⟨u, rfl, hr⟩ | ⟨u, rfl, -⟩
    · refine ⟨hw, u, b, hr, ?_, after⟩
      by_cases hu : u = []
      · simp [hu]
      · rwa [List.getLast?_append_of_ne_nil _ hu] at before
    · have hc := before _ hlast
      rw [hm.2 _ (List.mem_append_left u (List.getLast_mem ha))] at hc
      contradiction

lemma IsWordOf.of_cons {c : Char} (h : IsWordOf w (c :: t)) (hc : isWord c = false) :
    IsWordOf w t := by
  obtain ⟨hw, a, b, split, before, after⟩ := h
  cases a with
  | nil =>
    obtain ⟨d, v, rfl⟩ := List.exists_cons_of_ne_nil hw.1
    obtain ⟨rfl, -⟩ := List.cons.inj split
    rw [hw.2 c List.mem_cons_self] at hc
    contradiction
  | cons d a =>
    obtain ⟨rfl, rfl⟩ := List.cons.inj split
    refine ⟨hw, a, b, rfl, ?_, after⟩
    cases a with
    | nil => simp
    | cons d a => rwa [List.getLast?_cons_cons] at before

/-- The words that are found are all that stand in the text, and no part of a longer one is among
them. -/
theorem mem_words_iff : w ∈ words t ↔ IsWordOf w t := by
  induction h : t.length using Nat.strong_induction_on generalizing t with
  | _ n ih =>
    cases t with
    | nil =>
      refine iff_of_false List.not_mem_nil ?_
      rintro ⟨hw, a, b, split, -⟩
      exact hw.1 (List.append_eq_nil_iff.mp (List.append_eq_nil_iff.mp split.symm).2).1
    | cons c t =>
      by_cases hc : isWord c
      · have hm : IsName ((c :: t).takeWhile isWord) :=
          ⟨by simp [hc], fun d hd => List.all_eq_true.mp List.all_takeWhile d hd⟩
        have stop := stop_dropWhile isWord (c :: t)
        have hshort : ((c :: t).dropWhile isWord).length < n := by
          have := List.length_dropWhile_le isWord t
          rw [List.dropWhile_cons_of_pos hc, ← h, List.length_cons]
          omega
        have hrest := ih _ hshort rfl
        rw [← List.takeWhile_append_dropWhile (p := isWord) (l := c :: t), words_append hm stop,
          List.mem_cons, hrest]
        refine ⟨?_, fun h => h.of_append hm stop⟩
        rintro (rfl | h)
        · exact ⟨hm, [], _, rfl, by simp, stop⟩
        · exact h.append stop _
      · rw [Bool.not_eq_true] at hc
        rw [words_cons hc, ih t.length (by simp [← h]) rfl]
        exact ⟨fun h => h.cons hc, fun h => h.of_cons hc⟩

end MarkedShader.Text
