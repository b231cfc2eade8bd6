import MarkedShader.Proofs.Text.Lines
import Mathlib.Data.List.Basic

/-! Dedented code: it is dedented to itself, under a margin too. -/
namespace MarkedShader.Text

/-- Lines that are empty or neither blank nor ended by a carriage return, one of them without
indentation. -/
structure Dedented (ls : List Text) : Prop where
  tight : ∀ l ∈ ls, l = [] ∨ allBlank l = false ∧ l.getLast? ≠ some '\r'
  flush : (∀ l ∈ ls, l = []) ∨ ∃ l ∈ ls, l ≠ [] ∧ indentWidth l = 0

/-- A margin is of spaces and tabs. -/
def IsMargin (margin : Text) : Prop := ∀ c ∈ margin, c = ' ' ∨ c = '\t'

lemma isMargin_nil : IsMargin [] := fun _ hc => absurd hc List.not_mem_nil

lemma isMargin_of_spaces {margin : Text} (h : ∀ c ∈ margin, c = ' ') : IsMargin margin :=
  fun c hc => .inl (h c hc)

namespace IsMargin

variable {margin : Text} {c : Char}

lemma isBlank (hm : IsMargin margin) : ∀ c ∈ margin, isBlank c := by
  intro c hc
  rcases hm c hc with rfl | rfl <;> rfl

lemma allBlank (hm : IsMargin margin) : allBlank margin := List.all_eq_true.mpr hm.isBlank

lemma not_mem (hm : IsMargin margin) (h : c ∉ [' ', '\t']) : c ∉ margin := by
  intro hc
  rcases hm c hc with rfl | rfl <;> exact h (by decide)

variable {t : Text}

lemma not_mem_append (hm : IsMargin margin) (h : c ∉ [' ', '\t']) (ht : c ∉ t) :
    c ∉ margin ++ t :=
  fun hc => (List.mem_append.mp hc).elim (hm.not_mem h) ht

lemma isLine_append (hm : IsMargin margin) (h : IsLine t) : IsLine (margin ++ t) := by
  refine ⟨hm.not_mem_append (by decide) h.1, ?_⟩
  rw [List.getLast?_append, ne_eq, Option.or_eq_some_iff, not_or]
  exact ⟨h.2, fun hlast => hm.not_mem (by decide) (List.mem_of_getLast? hlast.2)⟩

end IsMargin

/-- A line under a margin. Empty lines get none. -/
def addMargin (margin l : Text) : Text := if l.isEmpty then [] else margin ++ l

/-- Only a margin is dropped. -/
theorem dropIndent_suffix (n : Nat) (l : Text) :
    ∃ m : Text, IsMargin m ∧ l = m ++ dropIndent n l := by
  fun_induction dropIndent n l with
  | case1 l => exact ⟨[], isMargin_nil, rfl⟩
  | case2 n r ih =>
    obtain ⟨m, hm, hr⟩ := ih
    exact ⟨' ' :: m, List.forall_mem_cons.mpr ⟨.inl rfl, hm⟩, congrArg (List.cons ' ') hr⟩
  | case3 n r ih =>
    obtain ⟨m, hm, hr⟩ := ih
    exact ⟨'\t' :: m, List.forall_mem_cons.mpr ⟨.inr rfl, hm⟩, congrArg (List.cons '\t') hr⟩
  | case4 n l => exact ⟨[], isMargin_nil, rfl⟩

lemma indentWidth_dropIndent (l : Text) : indentWidth (dropIndent (indentWidth l) l) = 0 := by
  fun_induction indentWidth l with
  | case1 r ih => simpa [dropIndent] using ih
  | case2 r ih => simpa [dropIndent, tabWidth] using ih
  | case3 l h1 h2 =>
    rw [dropIndent, indentWidth]
    · exact h1
    · exact h2

/-- A margin adds its width. -/
theorem indentWidth_margin {margin : Text} (hm : IsMargin margin) (l : Text) :
    indentWidth (margin ++ l) = indentWidth margin + indentWidth l := by
  induction margin with
  | nil => exact (Nat.zero_add _).symm
  | cons c margin ih =>
    obtain ⟨hc, hrest⟩ := List.forall_mem_cons.mp hm
    rcases hc with rfl | rfl
    · rw [List.cons_append, indentWidth, ih hrest, indentWidth]
      omega
    · rw [List.cons_append, indentWidth, ih hrest, indentWidth]
      omega

/-- Behind a margin, what exceeds its width is dropped. -/
theorem dropIndent_add {margin : Text} (hm : IsMargin margin) (n : Nat) (l : Text) :
    dropIndent (indentWidth margin + n) (margin ++ l) = dropIndent n l := by
  induction margin with
  | nil => simp [indentWidth]
  | cons c margin ih =>
    obtain ⟨hc, hrest⟩ := List.forall_mem_cons.mp hm
    rcases hc with rfl | rfl
    · rw [indentWidth, Nat.add_right_comm, List.cons_append, dropIndent, ih hrest]
    · have htab : indentWidth margin + n + 3 + 1 - tabWidth = indentWidth margin + n :=
        Nat.add_sub_cancel _ tabWidth
      rw [indentWidth, Nat.add_right_comm, show indentWidth margin + n + tabWidth =
        indentWidth margin + n + 3 + 1 from rfl, List.cons_append, dropIndent, htab, ih hrest]

lemma dropIndent_margin {margin : Text} (hm : IsMargin margin) (l : Text) :
    dropIndent (indentWidth margin) (margin ++ l) = l :=
  (dropIndent_add hm 0 l).trans (dropIndent.eq_1 l)

lemma allBlank_append (a b : Text) :
    allBlank (a ++ b) = (allBlank a && allBlank b) := List.all_append

lemma dropIndent_tight {n : Nat} {l : Text} (hb : allBlank l = false)
    (hr : l.getLast? ≠ some '\r') :
    allBlank (dropIndent n l) = false ∧ (dropIndent n l).getLast? ≠ some '\r' := by
  obtain ⟨m, hm, hl⟩ := dropIndent_suffix n l
  have hd : allBlank (dropIndent n l) = false := by
    rw [hl, allBlank_append, hm.allBlank] at hb
    simpa using hb
  refine ⟨hd, ?_⟩
  have hne : dropIndent n l ≠ [] := by
    intro e
    simp [e, allBlank] at hd
  rw [hl, List.getLast?_append_of_ne_nil _ hne] at hr
  exact hr

/-- Dedented lines are dedented. -/
theorem dedented_dedentLines (ls : List Text) : Dedented (dedentLines ls) := by
  simp only [dedentLines]
  generalize hc : ls.map (trimEnd (· == '\r')) = cleaned
  have hlast : ∀ l ∈ cleaned, l.getLast? ≠ some '\r' := by
    rintro l hl e
    obtain ⟨k, -, rfl⟩ := List.mem_map.mp (hc ▸ hl)
    exact absurd (stop_trimEnd _ k '\r' e) (by decide)
  split
  · refine ⟨?_, .inl ?_⟩
    · exact fun l hl => .inl (List.mem_map.mp hl).choose_spec.2.symm
    · exact fun l hl => (List.mem_map.mp hl).choose_spec.2.symm
  · rename_i common hmin
    refine ⟨?_, .inr ?_⟩
    · intro l hl
      obtain ⟨k, hk, rfl⟩ := List.mem_map.mp hl
      split_ifs with hb
      · exact .inl rfl
      · exact .inr (dropIndent_tight (Bool.eq_false_iff.mpr hb) (hlast k hk))
    · obtain ⟨k, hk, hw⟩ := List.mem_map.mp (List.min?_mem hmin)
      obtain ⟨hk, hb⟩ := List.mem_filter.mp hk
      have hb : allBlank k = false := by simpa using hb
      refine ⟨dropIndent common k, List.mem_map.mpr ⟨k, hk, by simp [hb]⟩, ?_,
        hw ▸ indentWidth_dropIndent k⟩
      intro e
      have := (dropIndent_tight (n := common) hb (hlast k hk)).1
      simp [e, allBlank] at this

lemma mem_dropWhile {α : Type} {p : α → Bool} {as : List α} {a : α} (h : a ∈ as)
    (hp : p a = false) : a ∈ as.dropWhile p := by
  rw [← List.takeWhile_append_dropWhile (p := p) (l := as), List.mem_append] at h
  exact h.resolve_left fun ht => by simp [List.mem_takeWhile_imp ht] at hp

lemma mem_trimLines {ls : List Text} {l : Text} (h : l ∈ ls) (hne : l ≠ []) : l ∈ trimLines ls := by
  have hp : l.isEmpty = false := by simpa using hne
  rw [trimLines, List.rdropWhile, List.mem_reverse]
  exact mem_dropWhile (List.mem_reverse.mpr (mem_dropWhile h hp)) hp

namespace Dedented

variable {ls : List Text} {margin : Text}

lemma addMargin_tight (h : Dedented ls) (margin : Text) {l : Text} (hl : l ∈ ls) :
    trimEnd (· == '\r') (addMargin margin l) = addMargin margin l ∧
      allBlank (addMargin margin l) = l.isEmpty := by
  rcases h.tight l hl with rfl | ⟨hb, hr⟩
  · exact ⟨rfl, rfl⟩
  · have hne : l ≠ [] := by
      rintro rfl
      simp [allBlank] at hb
    simp only [addMargin, List.isEmpty_iff, hne, if_false]
    constructor
    · apply trimEnd_eq_self_iff.mpr
      intro c hc
      rw [List.getLast?_append_of_ne_nil _ hne] at hc
      exact beq_false_of_ne fun e => hr (e ▸ hc)
    · simp [allBlank_append, hb, hne]

lemma width_margin (hm : IsMargin margin) {l : Text} (hne : l ≠ []) :
    indentWidth (addMargin margin l) = indentWidth margin + indentWidth l := by
  rw [addMargin, if_neg (by simpa using hne), indentWidth_margin hm]

/-- The common indentation under a margin is the margin. -/
lemma min?_margin (h : Dedented ls) (hm : IsMargin margin) {common : Nat}
    (hmin : (((ls.map (addMargin margin)).filter fun l => !allBlank l).map indentWidth).min? =
      some common) : common = indentWidth margin := by
  obtain ⟨hmem, hle⟩ := List.min?_eq_some_iff.mp hmin
  have hwidths : ∀ w ∈ ((ls.map (addMargin margin)).filter fun l => !allBlank l).map indentWidth,
      indentWidth margin ≤ w := by
    intro w hw
    obtain ⟨k, hk, rfl⟩ := List.mem_map.mp hw
    obtain ⟨hk, hb⟩ := List.mem_filter.mp hk
    obtain ⟨l, hl, rfl⟩ := List.mem_map.mp hk
    rw [(h.addMargin_tight margin hl).2] at hb
    rw [width_margin hm (by simpa using hb)]
    omega
  have hge := hwidths common hmem
  rcases h.flush with hall | ⟨l, hl, hne, hzero⟩
  · obtain ⟨k, hk, -⟩ := List.mem_map.mp hmem
    obtain ⟨hk, hb⟩ := List.mem_filter.mp hk
    obtain ⟨l, hl, rfl⟩ := List.mem_map.mp hk
    rw [(h.addMargin_tight margin hl).2, hall l hl] at hb
    contradiction
  · have hin : indentWidth margin ∈
        ((ls.map (addMargin margin)).filter fun l => !allBlank l).map indentWidth := by
      refine List.mem_map.mpr ⟨_, List.mem_filter.mpr ⟨List.mem_map_of_mem hl, ?_⟩, ?_⟩
      · rw [(h.addMargin_tight margin hl).2]
        simpa using hne
      · rw [width_margin hm hne, hzero, Nat.add_zero]
    have := hle _ hin
    omega

/-- Dedented lines come back from under a margin. -/
theorem dedentLines_margin (h : Dedented ls) (hm : IsMargin margin) :
    dedentLines (ls.map (addMargin margin)) = ls := by
  have hclean :
      (ls.map (addMargin margin)).map (trimEnd (· == '\r')) = ls.map (addMargin margin) := by
    rw [List.map_map]
    exact List.map_congr_left fun l hl => (h.addMargin_tight margin hl).1
  simp only [dedentLines, hclean]
  split
  · rename_i hmin
    have hnone := List.filter_eq_nil_iff.mp (List.map_eq_nil_iff.mp (List.min?_eq_none_iff.mp hmin))
    rw [List.map_map]
    refine (List.map_congr_left fun l hl => ?_).trans (List.map_id' ls)
    have hb := hnone _ (List.mem_map_of_mem hl)
    rw [(h.addMargin_tight margin hl).2] at hb
    exact (List.isEmpty_iff.mp (by simpa using hb)).symm
  · rename_i common hmin
    obtain rfl := h.min?_margin hm hmin
    rw [List.map_map]
    refine (List.map_congr_left fun l hl => ?_).trans (List.map_id' ls)
    simp only [Function.comp_apply, (h.addMargin_tight margin hl).2]
    split_ifs with he
    · exact (List.isEmpty_iff.mp he).symm
    · rw [addMargin, if_neg he, dropIndent_margin hm]

lemma trimLines (h : Dedented ls) : Dedented (trimLines ls) := by
  have hsub : Text.trimLines ls ⊆ ls := fun l hl =>
    (List.dropWhile_sublist _).subset ((List.rdropWhile_prefix _ _).subset hl)
  refine ⟨fun l hl => h.tight l (hsub hl), ?_⟩
  rcases h.flush with hall | ⟨l, hl, hne, hzero⟩
  · exact .inl fun l hl => hall l (hsub hl)
  · exact .inr ⟨l, mem_trimLines hl hne, hne, hzero⟩

lemma isLine (h : Dedented ls) (hn : ∀ l ∈ ls, '\n' ∉ l) : ∀ l ∈ ls, IsLine l := by
  intro l hl
  refine ⟨hn l hl, ?_⟩
  rcases h.tight l hl with rfl | ⟨-, hr⟩
  · simp
  · exact hr

end Dedented

/-- The lines of dedented code. -/
def codeLines (code : Text) : List Text := (dedent code).splitOn '\n'

lemma not_mem_dedentLines {ls : List Text} (h : ∀ l ∈ ls, '\n' ∉ l) :
    ∀ l ∈ dedentLines ls, '\n' ∉ l := by
  have hclean : ∀ l ∈ ls.map (trimEnd (· == '\r')), '\n' ∉ l := by
    intro l hl hn
    obtain ⟨k, hk, rfl⟩ := List.mem_map.mp hl
    exact h k hk ((prefix_trimEnd _ k).subset hn)
  simp only [dedentLines]
  split
  · intro l hl
    obtain ⟨_, -, rfl⟩ := List.mem_map.mp hl
    exact List.not_mem_nil
  · intro l hl
    obtain ⟨k, hk, rfl⟩ := List.mem_map.mp hl
    split_ifs
    · exact List.not_mem_nil
    · obtain ⟨m, -, hm⟩ := dropIndent_suffix _ k
      exact fun hn => hclean k hk (hm ▸ List.mem_append_right m hn)

lemma dedent_eq (code : Text) :
    dedent code = joinLines (trimLines (dedentLines (code.splitOn '\n'))) :=
  trimBoth_joinLines (not_mem_dedentLines fun _ => not_mem_of_mem_splitOn)

/-- The lines of dedented code but for the empty ones at both ends. -/
theorem mem_codeLines_iff {code l : Text} (hne : l ≠ []) :
    l ∈ codeLines code ↔ l ∈ dedentLines (code.splitOn '\n') := by
  have hsub : trimLines (dedentLines (code.splitOn '\n')) ⊆ dedentLines (code.splitOn '\n') :=
    fun l hl => (List.dropWhile_sublist _).subset ((List.rdropWhile_prefix _ _).subset hl)
  rw [codeLines, dedent_eq]
  by_cases he : trimLines (dedentLines (code.splitOn '\n')) = []
  · rw [he]
    refine iff_of_false (fun h => hne (List.mem_singleton.mp h)) fun h => ?_
    exact List.not_mem_nil (he ▸ mem_trimLines h hne)
  · rw [splitOn_joinLines he fun l hl =>
      not_mem_dedentLines (fun _ => not_mem_of_mem_splitOn) l (hsub hl)]
    exact ⟨fun h => hsub h, fun h => mem_trimLines h hne⟩

lemma dedented_codeLines (code : Text) : Dedented (codeLines code) := by
  have htrim := (dedented_dedentLines (code.splitOn '\n')).trimLines
  rw [codeLines, dedent_eq]
  by_cases he : trimLines (dedentLines (code.splitOn '\n')) = []
  · rw [he]
    exact ⟨fun l hl => .inl (List.mem_singleton.mp hl), .inl fun l hl => List.mem_singleton.mp hl⟩
  · rwa [splitOn_joinLines he fun l hl => not_mem_dedentLines (fun _ => not_mem_of_mem_splitOn) l
      ((List.dropWhile_sublist _).subset ((List.rdropWhile_prefix _ _).subset hl))]

lemma isLine_codeLines (code : Text) : ∀ l ∈ codeLines code, IsLine l :=
  (dedented_codeLines code).isLine fun _ => not_mem_of_mem_splitOn

/-- Code that is read from under a margin is the dedented code. -/
theorem dedent_of_margin (code : Text) {margin : Text} (hm : IsMargin margin) :
    trimBoth (· == '\n') (joinLines (dedentLines ((codeLines code).map (addMargin margin)))) =
      dedent code := by
  rw [(dedented_codeLines code).dedentLines_margin hm, codeLines, joinLines_splitOn, dedent,
    trimBoth_trimBoth]

lemma map_addMargin_nil (ls : List Text) : ls.map (addMargin []) = ls := by
  refine (List.map_congr_left fun l _ => ?_).trans (List.map_id' _)
  cases l <;> rfl

/-- To dedent twice is to dedent once. -/
@[simp] theorem dedent_dedent (code : Text) : dedent (dedent code) = dedent code := by
  have := dedent_of_margin code isMargin_nil
  rwa [map_addMargin_nil] at this

/-- Dedented lines without the empty ones around them are dedented code. -/
theorem dedent_trimBoth {ls : List Text} (h : ∀ l ∈ ls, '\n' ∉ l) :
    dedent (trimBoth (· == '\n') (joinLines (dedentLines ls))) =
      trimBoth (· == '\n') (joinLines (dedentLines ls)) := by
  by_cases hls : ls = []
  · rw [hls]
    rfl
  · rw [← splitOn_joinLines hls h]
    exact dedent_dedent (joinLines ls)

/-- A single line that is dedented already is what dedenting it gives. -/
theorem dedent_line {l : Text} (h : Dedented [l]) (hn : '\n' ∉ l) : dedent l = l := by
  have hd := h.dedentLines_margin isMargin_nil
  rw [map_addMargin_nil] at hd
  have hfirst : ∀ c ∈ l, (c == '\n') = false := fun c hc => beq_false_of_ne fun e => hn (e ▸ hc)
  rw [dedent, List.splitOn_eq_singleton hn, hd, joinLines, List.intercalate_singleton]
  exact trimBoth_eq_self (fun c hc => hfirst c (List.mem_of_mem_head? hc))
    (fun c hc => hfirst c (List.mem_of_mem_getLast? hc))

end MarkedShader.Text
