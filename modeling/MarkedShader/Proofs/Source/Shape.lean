import MarkedShader.Proofs.Plain
import MarkedShader.Proofs.Text.Lines
import MarkedShader.Settings
import MarkedShader.Source.Shape

/-! What the shape of a line keeps the readers of unmarked lines from finding in it. -/
namespace MarkedShader.Source
open Text

variable {margin t l : Text} {c : Char}

lemma after?_of_head_ne {k : Char} (h : k ≠ c) (ks : Text) : after? (k :: ks) (c :: t) = none :=
  after?_eq_none_iff.mpr fun hp => h (List.cons_prefix_cons.mp hp).1

/-- A margin is skipped up to the first character that is no blank. -/
theorem skipBlanks_margin (hm : ∀ c ∈ margin, isBlank c) (hc : isBlank c = false) :
    skipBlanks (margin ++ c :: t) = c :: t := by
  rw [skipBlanks_append hm]
  exact skipBlanks_of_stop (by simpa using hc)

section
variable (hm : ∀ c ∈ margin, isBlank c) (hc : isBlank c = false)
include hm hc

lemma keywordName?_of_head {keyword : String} {k : Char} {ks : Text} (hk : keyword.toList = k :: ks)
    (h : k ≠ c) : keywordName? keyword (margin ++ c :: t) = none := by
  simp [keywordName?, skipBlanks_margin hm hc, hk, after?_of_head_ne h]

lemma hasKeyword_of_head {keyword : String} {k : Char} {ks : Text} (hk : keyword.toList = k :: ks)
    (h : k ≠ c) : hasKeyword keyword (margin ++ c :: t) = false := by
  simp [hasKeyword, skipBlanks_margin hm hc, hk, after?_of_head_ne h]

lemma stateValue?_of_head {key : StateKey} {k : Char} {ks : Text} (hk : key.keyword = k :: ks)
    (h : k ≠ c) : stateValue? key (margin ++ c :: t) = none := by
  simp [stateValue?, skipBlanks_margin hm hc, hk, after?_of_head_ne h]

lemma include?_of_head (h : c ≠ '#') : include? (margin ++ c :: t) = none :=
  keywordName?_of_head hm hc String.toList_ofList h.symm

lemma usePass?_of_head (h : c ≠ 'U') : usePass? (margin ++ c :: t) = none :=
  keywordName?_of_head hm hc String.toList_ofList h.symm

lemma opensPass_of_head (h : c ≠ 'P') : opensPass (margin ++ c :: t) = false := by
  delta opensPass
  rw [skipBlanks_margin hm hc, String.toList_ofList, after?_of_head_ne h.symm]

lemma pragma?_of_head (h : c ≠ '#') : pragma? (margin ++ c :: t) = none := by
  delta pragma?
  rw [skipBlanks_margin hm hc, String.toList_ofList, after?_of_head_ne h.symm]
  rfl

lemma passName?_of_head (h : c ≠ 'N') : passName? (margin ++ c :: t) = none := by
  delta passName?
  rw [skipBlanks_margin hm hc, String.toList_ofList, after?_of_head_ne h.symm]
  rfl

lemma startsProgram_of_head (h : c ≠ 'H' ∧ c ≠ 'C') : startsProgram (margin ++ c :: t) = false := by
  rw [startsProgram, hasKeyword_of_head hm hc String.toList_ofList h.1.symm,
    hasKeyword_of_head hm hc String.toList_ofList h.2.symm]
  rfl

lemma endsProgram_of_head (h : c ≠ 'E') : endsProgram (margin ++ c :: t) = false := by
  rw [endsProgram, hasKeyword_of_head hm hc String.toList_ofList h.symm,
    hasKeyword_of_head hm hc String.toList_ofList h.symm]
  rfl

lemma opensStencil_of_head (h : c ≠ 'S') : opensStencil (margin ++ c :: t) = false :=
  hasKeyword_of_head hm hc String.toList_ofList h.symm

lemma renderState?_of_head (h : c ≠ 'C' ∧ c ≠ 'B' ∧ c ≠ 'Z') :
    renderState? (margin ++ c :: t) = none := by
  rw [renderState?, List.findSome?_eq_none_iff]
  intro key _
  rw [Option.map_eq_none_iff]
  cases key with
  | cull => exact stateValue?_of_head hm hc String.toList_ofList h.1.symm
  | blend => exact stateValue?_of_head hm hc String.toList_ofList h.2.1.symm
  | zwrite => exact stateValue?_of_head hm hc String.toList_ofList h.2.2.symm
  | ztest => exact stateValue?_of_head hm hc String.toList_ofList h.2.2.symm
  | colorMask => exact stateValue?_of_head hm hc String.toList_ofList h.1.symm

end

lemma lightMode?_of_not_mem (h : '"' ∉ l) : lightMode? l = none := by
  delta lightMode?
  rw [search_eq_none_iff, String.toList_ofList]
  intro s hs
  have hnone : after? ['"', 'L', 'i', 'g', 'h', 't', 'M', 'o', 'd', 'e', '"'] s = none :=
    after?_eq_none_iff.mpr fun hp => h (hs.subset (hp.subset List.mem_cons_self))
  rw [hnone]
  rfl

/-- What a line that opens a struct consists of. -/
lemma exists_of_struct? {inputs outputs : Text} {b : Bool} (h : struct? inputs outputs l = some b) :
    ∃ before name blanks rest, l = before ++ name ++ blanks ++ '\x7b' :: rest ∧
      "struct".toList <:+: before ∧
      (name = inputs ∨ name = outputs) ∧ ∀ c ∈ blanks, isBlank c := by
  obtain ⟨s, ⟨a, rfl⟩, hs⟩ := exists_of_search h
  simp only [Option.bind_eq_bind, Option.bind_eq_some_iff] at hs
  obtain ⟨r, hr, hs⟩ := hs
  obtain ⟨u, hu, hb⟩ := List.exists_of_findSome?_eq_some hs
  obtain ⟨n, -, rfl⟩ := List.mem_map.mp hu
  have hopens : ∃ name, (name = inputs ∨ name = outputs) ∧ opensStruct name (r.drop (n+1)) := by
    split_ifs at hb with hi ho
    · exact ⟨inputs, .inl rfl, hi⟩
    · exact ⟨outputs, .inr rfl, ho⟩
  obtain ⟨name, hname, hopens⟩ := hopens
  simp only [opensStruct, Option.any_map, Option.any_eq_true, beq_iff_eq] at hopens
  obtain ⟨v, hv, hhead⟩ := hopens
  obtain ⟨rest, hrest⟩ := List.head?_eq_some_iff.mp hhead
  refine ⟨a ++ "struct".toList ++ r.take (n+1), name, v.takeWhile isBlank, rest, ?_, ?_, hname, ?_⟩
  · have hv' : v = v.takeWhile isBlank ++ '\x7b' :: rest := by
      rw [← hrest]
      exact List.takeWhile_append_dropWhile.symm
    have hr' : r = r.take (n+1) ++ (name ++ (v.takeWhile isBlank ++ '\x7b' :: rest)) := by
      rw [← hv', ← after?_eq_some_iff.mp hv, List.take_append_drop]
    conv_lhs => rw [after?_eq_some_iff.mp hr, hr']
    simp only [List.append_assoc]
  · exact List.infix_append a _ _
  · exact fun c hc => List.mem_takeWhile_imp hc

/-- Without a brace no struct opens. -/
theorem struct?_of_not_mem {inputs outputs : Text} (h : '\x7b' ∉ l) :
    struct? inputs outputs l = none := by
  by_contra hs
  obtain ⟨b, hb⟩ := Option.ne_none_iff_exists'.mp hs
  obtain ⟨before, name, blanks, rest, rfl, -⟩ := exists_of_struct? hb
  exact h (by simp)

/-- A line with a single opening brace opens no struct if the keyword is not before it. -/
theorem struct?_of_not_infix {inputs outputs u v : Text} (hu : '\x7b' ∉ u) (hv : '\x7b' ∉ v)
    (h : ¬ "struct".toList <:+: u) : struct? inputs outputs (u ++ '\x7b' :: v) = none := by
  by_contra hs
  obtain ⟨b, hs⟩ := Option.ne_none_iff_exists'.mp hs
  obtain ⟨before, name, blanks, rest, heq, hkeyword, -⟩ := exists_of_struct? hs
  have hcut := (List.append_cons_inj_of_notMem hu hv).mp heq
  rw [hcut.1, List.append_assoc] at h
  exact h (hkeyword.trans (List.prefix_append _ _).isInfix)

/-- A line with a single opening brace opens no struct if a character that ends no name stands
before the brace. -/
theorem struct?_of_stop {inputs outputs : Text} (hi : inputs ≠ [] ∧ ∀ c ∈ inputs, isWord c)
    (ho : outputs ≠ [] ∧ ∀ c ∈ outputs, isWord c) {u v blanks : Text}
    (hu : '\x7b' ∉ u ++ c :: blanks) (hv : '\x7b' ∉ v) (hb : ∀ c ∈ blanks, isBlank c)
    (hc : isBlank c = false ∧ isWord c = false) :
    struct? inputs outputs (u ++ c :: blanks ++ '\x7b' :: v) = none := by
  by_contra hs
  obtain ⟨b, hs⟩ := Option.ne_none_iff_exists'.mp hs
  obtain ⟨before, name, blanks', rest, heq, -, hname, hb'⟩ := exists_of_struct? hs
  have hcut : u ++ c :: blanks = before ++ name ++ blanks' ∧ _ :=
    (List.append_cons_inj_of_notMem hu hv).mp heq
  have htrim := congrArg (trimEnd isBlank) hcut.1
  rw [trimEnd_append_cons hc.1 hb, trimEnd_append hb'] at htrim
  have hword : name ≠ [] ∧ ∀ c ∈ name, isWord c := by
    rcases hname with rfl | rfl
    · exact hi
    · exact ho
  -- the last character that is not blank is one of the name
  obtain ⟨init, d, rfl⟩ := (List.eq_nil_or_concat name).resolve_left hword.1
  have hd : isWord d := hword.2 d (by simp)
  rw [show before ++ init.concat d = (before ++ init) ++ d :: [] by simp,
    trimEnd_append_cons (isBlank_of_isWord hd) (by simp)] at htrim
  have hlast := congrArg List.getLast? htrim
  rw [List.getLast?_concat, List.getLast?_concat, Option.some.injEq] at hlast
  rw [← hlast, hc.2] at hd
  contradiction

lemma beforeComment_sublist (l : Text) : (beforeComment l).Sublist l := by
  fun_induction beforeComment l with
  | case1 => exact List.Sublist.refl _
  | case2 => exact List.nil_sublist _
  | case3 c r h ih => exact ih.cons_cons c

lemma beforeComment_eq_self (h : ¬ ['/', '/'] <:+: l) : beforeComment l = l := by
  fun_induction beforeComment l with
  | case1 => rfl
  | case2 r => exact absurd ⟨[], r, rfl⟩ h
  | case3 c r hne ih => rw [ih fun hi => h (hi.trans (List.suffix_cons c r).isInfix)]

/-- A line without braces leaves the depth as it is. -/
theorem braceDelta_of_not_mem (ho : '\x7b' ∉ l) (hc : '\x7d' ∉ l) : braceDelta l = 0 := by
  have hsub := beforeComment_sublist l
  rw [braceDelta, List.count_eq_zero_of_not_mem fun h => ho (hsub.subset h),
    List.count_eq_zero_of_not_mem fun h => hc (hsub.subset h)]
  rfl

/-- A line in which the readers of a pass find nothing. It may still be one of those that begin or
end the program. -/
def Idle (settings : Settings) (l : Text) : Prop :=
  Marker.isMarker settings.tagPrefix l = false ∧
    struct? settings.inputStruct settings.outputStruct l = none ∧
    include? l = none ∧ pragma? l = none ∧ passName? l = none ∧ lightMode? l = none ∧
      renderState? l = none ∧ IsLine l

instance (settings : Settings) (l : Text) : Decidable (Idle settings l) :=
  inferInstanceAs (Decidable (_ ∧ _))

/-- What the first character of a line, and the braces and quotes that it does not have, say of
it. -/
theorem idle_of_head {settings : Settings} (hm : ∀ c ∈ margin, isBlank c) (hc : isBlank c = false)
    (hhead : c ∉ ['#', 'N', 'C', 'B', 'Z'])
    (hmarker : ¬ Marker.opening settings.tagPrefix <:+: margin ++ c :: t)
    (hfree : ∀ d ∈ ['"', '\x7b', '\n'], d ∉ margin ++ c :: t)
    (hlast : (margin ++ c :: t).getLast? ≠ some '\r') : Idle settings (margin ++ c :: t) := by
  simp only [List.mem_cons, List.not_mem_nil, or_false, not_or] at hhead
  simp only [List.forall_mem_cons] at hfree
  exact ⟨Marker.isMarker_eq_false_iff.mpr hmarker, struct?_of_not_mem hfree.2.1,
    include?_of_head hm hc hhead.1,
    pragma?_of_head hm hc hhead.1, passName?_of_head hm hc hhead.2.1, lightMode?_of_not_mem hfree.1,
    renderState?_of_head hm hc hhead.2.2, hfree.2.2.1, hlast⟩

end MarkedShader.Source
