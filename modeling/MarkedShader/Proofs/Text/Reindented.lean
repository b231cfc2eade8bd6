import MarkedShader.Proofs.Text.Dedent
import Mathlib.Data.List.Forall2

/-! What removing the common indentation does to every list of lines: line by line it cuts a margin,
and it depends on the lines only up to a margin before all of them.

Main statement: `dedentLines_laws`. -/
namespace MarkedShader.Text

/-- The spaces and tabs that a line starts with. -/
def indentation (l : Text) : Text := l.takeWhile fun c => c == ' ' || c == '\t'

lemma isMargin_indentation (l : Text) : IsMargin (indentation l) := by
  intro c hc
  simpa using List.mem_takeWhile_imp hc

lemma indentWidth_eq_zero_iff {l : Text} : indentWidth l = 0 ↔ ∀ c ∈ l.head?, c ∉ [' ', '\t'] := by
  fun_cases indentWidth l with
  | case1 => simp
  | case2 => simp [tabWidth]
  | case3 l hspace htab =>
    refine iff_of_true rfl fun c hc => ?_
    obtain ⟨r, rfl⟩ : ∃ r, l = c :: r := ⟨l.tail, (List.cons_head?_tail hc).symm⟩
    have hs : c ≠ ' ' := fun e => hspace r (e ▸ rfl)
    have ht : c ≠ '\t' := fun e => htab r (e ▸ rfl)
    simp [hs, ht]

/-- A line is its indentation and a rest that starts with neither a space nor a tab. -/
lemma indentation_append (l : Text) : ∃ rest, l = indentation l ++ rest ∧ indentWidth rest = 0 := by
  refine ⟨l.dropWhile fun c => c == ' ' || c == '\t', List.takeWhile_append_dropWhile.symm, ?_⟩
  refine indentWidth_eq_zero_iff.mpr fun c hc => ?_
  simpa using stop_dropWhile _ l c hc

lemma indentWidth_indentation (l : Text) : indentWidth (indentation l) = indentWidth l := by
  obtain ⟨rest, hl, hzero⟩ := indentation_append l
  conv_rhs => rw [hl, indentWidth_margin (isMargin_indentation l), hzero, Nat.add_zero]

lemma indentWidth_replicate (n : Nat) :
    indentWidth (List.replicate n ' ') = n ∧
      indentWidth (List.replicate n '\t') = n * tabWidth := by
  induction n with
  | zero => exact ⟨rfl, rfl⟩
  | succ n ih =>
    rw [List.replicate_succ, List.replicate_succ, indentWidth, indentWidth, ih.1,
      ih.2, Nat.succ_mul]
    exact ⟨rfl, rfl⟩

/-- Of two margins of the same character the narrower one starts the wider one. -/
lemma prefix_of_same {a b : Text} {c : Char} (hc : c = ' ' ∨ c = '\t') (ha : ∀ d ∈ a, d = c)
    (hb : ∀ d ∈ b, d = c) (hle : indentWidth a ≤ indentWidth b) : a <+: b := by
  obtain ⟨m, rfl⟩ : ∃ m, a = List.replicate m c := ⟨a.length, List.eq_replicate_of_mem ha⟩
  obtain ⟨n, rfl⟩ : ∃ n, b = List.replicate n c := ⟨b.length, List.eq_replicate_of_mem hb⟩
  suffices m ≤ n from List.prefix_replicate_iff.mpr ⟨by simpa using this, by simp⟩
  rcases hc with rfl | rfl
  · rwa [(indentWidth_replicate m).1, (indentWidth_replicate n).1] at hle
  · rw [(indentWidth_replicate m).2, (indentWidth_replicate n).2] at hle
    exact Nat.le_of_mul_le_mul_right hle (by decide)

lemma trimEnd_append_of_ne_nil {p : Char → Bool} {t : Text} (h : trimEnd p t ≠ []) (m : Text) :
    trimEnd p (m ++ t) = m ++ trimEnd p t := by
  have hne : (t.reverse.dropWhile p).isEmpty = false := by simpa [trimEnd] using h
  rw [trimEnd, List.reverse_append, List.dropWhile_append, hne, if_neg Bool.false_ne_true,
    List.reverse_append, List.reverse_reverse, trimEnd]

lemma allBlank_trimEnd_return (l : Text) : allBlank (trimEnd (· == '\r') l) = allBlank l := by
  obtain ⟨e, hl, he⟩ : ∃ e, l = trimEnd (· == '\r') l ++ e ∧ ∀ c ∈ e, c = '\r' := by
    refine ⟨l.rtakeWhile (· == '\r'), (List.rdropWhile_append_rtakeWhile).symm, fun c hc => ?_⟩
    simpa using List.mem_rtakeWhile_imp hc
  have hblank : allBlank e := List.all_eq_true.mpr fun c hc => he c hc ▸ rfl
  conv_rhs => rw [hl, allBlank_append, hblank, Bool.and_true]

lemma trimEnd_return_append {l : Text} (hb : allBlank l = false) (m : Text) :
    trimEnd (· == '\r') (m ++ l) = m ++ trimEnd (· == '\r') l := by
  refine trimEnd_append_of_ne_nil (fun e => ?_) m
  rw [← allBlank_trimEnd_return, e] at hb
  contradiction

lemma indentWidth_trimEnd_return {l : Text} (hb : allBlank l = false) :
    indentWidth (trimEnd (· == '\r') l) = indentWidth l := by
  obtain ⟨rest, hl, hzero⟩ := indentation_append l
  have hm := isMargin_indentation l
  have hrest : allBlank rest = false := by
    rw [hl, allBlank_append, hm.allBlank] at hb
    simpa using hb
  have hcut : indentWidth (trimEnd (· == '\r') rest) = 0 := by
    refine indentWidth_eq_zero_iff.mpr fun c hc => ?_
    exact indentWidth_eq_zero_iff.mp hzero c (head?_of_isPrefix (prefix_trimEnd _ rest) c hc)
  rw [hl, trimEnd_return_append hrest, indentWidth_margin hm, indentWidth_margin hm, hcut, hzero]

/-- The widths of the indentations that count for the minimum. -/
def widths (ls : List Text) : List Nat := (ls.filter fun l => !allBlank l).map indentWidth

/-- A line without its carriage returns at the end and without a common indentation. -/
def dedentLine (common : Nat) (l : Text) : Text :=
  if allBlank l then [] else dropIndent common (trimEnd (· == '\r') l)

lemma mem_widths {ls : List Text} {n : Nat} :
    n ∈ widths ls ↔ ∃ l ∈ ls, allBlank l = false ∧ indentWidth l = n := by
  simp [widths, and_assoc]

lemma widths_map_trimEnd (ls : List Text) : widths (ls.map (trimEnd (· == '\r'))) = widths ls := by
  rw [widths, widths, List.filter_map, List.map_map]
  have hfilter : ((fun l => !allBlank l) ∘ trimEnd (· == '\r')) = fun l : Text => !allBlank l :=
    funext fun l => congrArg not (allBlank_trimEnd_return l)
  rw [hfilter]
  refine List.map_congr_left fun l hl => indentWidth_trimEnd_return ?_
  simpa using (List.mem_filter.mp hl).2

lemma dedentLines_eq_map (ls : List Text) :
    dedentLines ls = ls.map (dedentLine ((widths ls).min?.getD 0)) := by
  rw [← widths_map_trimEnd]
  simp only [dedentLines, widths]
  split
  · rename_i hnone
    have hblank :=
      List.filter_eq_nil_iff.mp (List.map_eq_nil_iff.mp (List.min?_eq_none_iff.mp hnone))
    rw [List.map_map]
    refine List.map_congr_left fun l hl => ?_
    have hl := hblank _ (List.mem_map_of_mem hl)
    rw [allBlank_trimEnd_return] at hl
    simp only [Bool.not_eq_eq_eq_not, Bool.not_true, Bool.not_eq_false] at hl
    rw [dedentLine, if_pos hl, Function.comp_apply]
  · rename_i common hsome
    rw [hsome, List.map_map]
    exact List.map_congr_left fun l _ => by simp [dedentLine, allBlank_trimEnd_return]

lemma dedentLine_eq_nil_iff {common : Nat} {l : Text} : dedentLine common l = [] ↔ allBlank l := by
  rw [dedentLine]
  split_ifs with hb
  · exact iff_of_true rfl hb
  · refine iff_of_false (fun e => ?_) hb
    obtain ⟨m, hm, hcut⟩ := dropIndent_suffix common (trimEnd (· == '\r') l)
    rw [e, List.append_nil] at hcut
    rw [← allBlank_trimEnd_return, hcut] at hb
    exact hb hm.allBlank

lemma dedentLine_suffix (common : Nat) {l : Text} (hb : allBlank l = false) :
    ∃ m, IsMargin m ∧ trimEnd (· == '\r') l = m ++ dedentLine common l := by
  rw [dedentLine, if_neg (Bool.eq_false_iff.mp hb)]
  exact dropIndent_suffix common _

/-- A line under a margin. Blank lines stay as they are. -/
def indentLine (margin l : Text) : Text := if allBlank l then l else margin ++ l

/-- Code whose lines are all put under a margin. -/
def reindent (margin code : Text) : Text := joinLines ((code.splitOn '\n').map (indentLine margin))

section

variable {margin : Text}

lemma allBlank_indentLine (hm : IsMargin margin) (l : Text) :
    allBlank (indentLine margin l) = allBlank l := by
  rw [indentLine]
  split_ifs
  · rfl
  · rw [allBlank_append, hm.allBlank, Bool.true_and]

lemma dedentLine_indentLine (hm : IsMargin margin) (common : Nat) (l : Text) :
    dedentLine (indentWidth margin + common) (indentLine margin l) = dedentLine common l := by
  rw [dedentLine, allBlank_indentLine hm, dedentLine]
  split_ifs with hb
  · rfl
  · rw [indentLine, if_neg hb, trimEnd_return_append (Bool.eq_false_iff.mpr hb), dropIndent_add hm]

lemma widths_indentLine (hm : IsMargin margin) (ls : List Text) :
    widths (ls.map (indentLine margin)) = (widths ls).map (indentWidth margin + ·) := by
  rw [widths, widths, List.filter_map, List.map_map, List.map_map]
  have hfilter : ((fun l => !allBlank l) ∘ indentLine margin) = fun l : Text => !allBlank l :=
    funext fun l => congrArg not (allBlank_indentLine hm l)
  rw [hfilter]
  refine List.map_congr_left fun l hl => ?_
  have hb : ¬allBlank l := by simpa using (List.mem_filter.mp hl).2
  rw [Function.comp_apply, Function.comp_apply, indentLine, if_neg hb, indentWidth_margin hm]

lemma min?_map_add (n : Nat) (ws : List Nat) : (ws.map (n + ·)).min? = ws.min?.map (n + ·) := by
  cases hmin : ws.min? with
  | none => simpa using hmin
  | some common =>
    obtain ⟨hmem, hle⟩ := List.min?_eq_some_iff.mp hmin
    refine List.min?_eq_some_iff.mpr ⟨List.mem_map_of_mem hmem, ?_⟩
    exact List.forall_mem_map.mpr fun w hw => Nat.add_le_add_left (hle w hw) n

lemma dedentLines_indentLine (hm : IsMargin margin) (ls : List Text) :
    dedentLines (ls.map (indentLine margin)) = dedentLines ls := by
  rw [dedentLines_eq_map, dedentLines_eq_map, widths_indentLine hm, min?_map_add, List.map_map]
  refine List.map_congr_left fun l hl => ?_
  rw [Function.comp_apply]
  cases hmin : (widths ls).min? with
  | none =>
    -- without a width all lines are blank, and no width is cut
    have hb : allBlank l := by
      by_contra hb
      have := mem_widths.mpr ⟨l, hl, Bool.eq_false_iff.mpr hb, rfl⟩
      rw [List.min?_eq_none_iff.mp hmin] at this
      contradiction
    rw [dedentLine_eq_nil_iff.mpr hb, dedentLine_eq_nil_iff.mpr (allBlank_indentLine hm l ▸ hb)]
  | some common => exact dedentLine_indentLine hm common l

lemma not_mem_indentLine (hm : IsMargin margin) {l : Text} (h : '\n' ∉ l) :
    '\n' ∉ indentLine margin l := by
  rw [indentLine]
  split_ifs
  · exact h
  · exact hm.not_mem_append (by decide) h

lemma dedent_reindent (hm : IsMargin margin) (code : Text) :
    dedent (reindent margin code) = dedent code := by
  rw [dedent, reindent, splitOn_joinLines, dedentLines_indentLine hm, dedent]
  · simp
  · exact List.forall_mem_map.mpr fun l hl => not_mem_indentLine hm (not_mem_of_mem_splitOn hl)

end

/-- All lines that count are indented by spaces only, or all by tabs only. -/
def SameIndent (ls : List Text) : Prop :=
  ∃ c, (c = ' ' ∨ c = '\t') ∧ ∀ l ∈ ls, allBlank l = false → ∀ d ∈ indentation l, d = c

lemma SameIndent.indentWidth_dedentLine {ls : List Text} (h : SameIndent ls) {common : Nat}
    (hmin : (widths ls).min? = some common) {l : Text} (hl : l ∈ ls) (hb : allBlank l = false) :
    indentWidth (dedentLine common l) + common = indentWidth l := by
  obtain ⟨c, hc, hsame⟩ := h
  obtain ⟨hmem, hle⟩ := List.min?_eq_some_iff.mp hmin
  obtain ⟨least, hleast, hlb, rfl⟩ := mem_widths.mp hmem
  have hwidth := hle _ (mem_widths.mpr ⟨l, hl, hb, rfl⟩)
  rw [← indentWidth_indentation, ← indentWidth_indentation l] at hwidth
  obtain ⟨more, hmore⟩ := prefix_of_same hc (hsame least hleast hlb) (hsame l hl hb) hwidth
  obtain ⟨rest, hrest, -⟩ := indentation_append l
  have hm := isMargin_indentation least
  have hsplit : l = indentation least ++ (more ++ rest) := by
    rw [← List.append_assoc, hmore, ← hrest]
  have htail : allBlank (more ++ rest) = false := by
    rw [hsplit, allBlank_append, hm.allBlank] at hb
    simpa using hb
  rw [dedentLine, if_neg (Bool.eq_false_iff.mp hb), ← indentWidth_trimEnd_return hb,
    hsplit, trimEnd_return_append htail, ← indentWidth_indentation least, dropIndent_margin hm,
    indentWidth_margin hm, Nat.add_comm]

/-- The common indentation is removed: the number of lines stays, exactly the blank lines become
empty, every other line loses its carriage returns at the end and a margin, and one of them starts
flush. A second time nothing changes, and a margin before all lines that are not blank is removed
too. Indentation by one character is lowered by the common width. -/
theorem dedentLines_laws : (∀ ls : List Text,
      (dedentLines ls).length = ls.length ∧ List.Forall₂ (fun l k => (k = [] ↔ allBlank l) ∧
        (allBlank l = false → ∃ m, IsMargin m ∧ trimEnd (· == '\r') l = m ++ k)) ls
      (dedentLines ls) ∧
      ((∃ l ∈ ls, allBlank l = false) → ∃ c rest, c :: rest ∈ dedentLines ls ∧ c ∉ [' ', '\t']) ∧
      dedentLines (dedentLines ls) = dedentLines ls ∧
      (∀ margin, IsMargin margin → dedentLines (ls.map (indentLine margin)) = dedentLines ls) ∧
      (SameIndent ls → ∀ common, (widths ls).min? = some common →
        List.Forall₂ (fun l k => allBlank l = false → indentWidth k + common = indentWidth l) ls
        (dedentLines ls))) ∧ ∀ code : Text, dedent (dedent code) = dedent code ∧
      ∀ margin, IsMargin margin → dedent (reindent margin code) = dedent code := by
  refine ⟨fun ls =>
    ⟨length_dedentLines ls, ?_, ?_, ?_, fun margin hm => dedentLines_indentLine hm ls, ?_⟩,
    fun code => ⟨dedent_dedent code, fun margin hm => dedent_reindent hm code⟩⟩
  · rw [dedentLines_eq_map, List.forall₂_map_right_iff, List.forall₂_same]
    exact fun l _ => ⟨dedentLine_eq_nil_iff, dedentLine_suffix _⟩
  · rintro ⟨l, hl, hb⟩
    have hne : dedentLine ((widths ls).min?.getD 0) l ≠ [] :=
      mt dedentLine_eq_nil_iff.mp (Bool.eq_false_iff.mp hb)
    rcases (dedented_dedentLines ls).flush with hall | ⟨k, hk, hkne, hzero⟩
    · exact absurd (hall _ (dedentLines_eq_map ls ▸ List.mem_map_of_mem hl)) hne
    · obtain ⟨c, rest, rfl⟩ := List.exists_cons_of_ne_nil hkne
      exact ⟨c, rest, hk, indentWidth_eq_zero_iff.mp hzero c rfl⟩
  · have := (dedented_dedentLines ls).dedentLines_margin isMargin_nil
    rwa [map_addMargin_nil] at this
  · intro hsame common hmin
    rw [dedentLines_eq_map, hmin, List.forall₂_map_right_iff, List.forall₂_same]
    exact fun l hl => hsame.indentWidth_dedentLine hmin hl

theorem dedentLines_laws_spaces :
    let ls := ["  x".toList, "\t".toList, "    y\r".toList]
    IsMargin "\t ".toList ∧ dedentLines (ls.map (indentLine "\t ".toList)) = dedentLines ls ∧
      SameIndent ls ∧ (widths ls).min? = some 2 ∧
      List.Forall₂ (fun l k => allBlank l = false → indentWidth k + 2 = indentWidth l) ls
        (dedentLines ls) := by
  intro ls
  have hm : IsMargin "\t ".toList := by
    unfold IsMargin
    decide
  have hsame : SameIndent ls := ⟨' ', .inl rfl, by decide⟩
  have hmin : (widths ls).min? = some 2 := by decide
  obtain ⟨-, -, -, -, hmargin, hlower⟩ := dedentLines_laws.1 ls
  exact ⟨hm, hmargin _ hm, hsame, hmin, hlower hsame 2 hmin⟩

-- a tab is wider than the common indentation of two, and is cut whole
example : dedentLines ["\tx".toList, "  y".toList] = ["x".toList, "y".toList] := by decide

end MarkedShader.Text
