import MarkedShader.Proofs.Source.Program
import MarkedShader.Proofs.Writing.VertexEntry

/-! The entry functions are passed over. The calls in them are the only lines that can be taken for
something else: a function may have the name of a keyword. -/
namespace MarkedShader.Source
open Text

variable {settings : Settings} {margin : Text} {s : Progress} {l : Text}

/-- Behind a keyword there is no blank if the whole text has none. -/
theorem blanks?_of_after? {keyword t r : Text} (h : ∀ c ∈ t, isBlank c = false)
    (hr : after? keyword t = some r) : blanks? r = none := by
  rw [after?_eq_some_iff] at hr
  cases r with
  | nil => rfl
  | cons c r =>
    have hc : isBlank c = false := h c (hr ▸ List.mem_append_right keyword List.mem_cons_self)
    simp [blanks?, hc]

/-- A text without blanks and without a telling character is idle under any margin. -/
theorem idle_of_no_blank (hm : ∀ c ∈ margin, c = ' ') {t : Text}
    (hblank : ∀ c ∈ t, isBlank c = false) (hfree : ∀ d ∈ telling, d ∉ t) :
    Idle settings (margin ++ t) := by
  have hmem : ∀ d ∈ telling, d ∉ margin ++ t := by
    intro d hd
    rw [List.mem_append, not_or]
    refine ⟨not_mem_of_spaces hm ?_, hfree d hd⟩
    rintro rfl
    revert hd
    decide
  have hskip : skipBlanks (margin ++ t) = t := by
    rw [skipBlanks_append (isBlank_of_spaces hm)]
    exact skipBlanks_of_stop fun c hc => hblank c (List.mem_of_head? hc)
  have hnone : ∀ {α : Type} (keyword : Text) (next : Text → Text → Option α),
      ((after? keyword t).bind fun r => (blanks? r).bind (next r)) = none := by
    intro α keyword next
    cases hr : after? keyword t with
    | none => rfl
    | some r => simp [blanks?_of_after? hblank hr]
  refine ⟨Marker.isMarker_eq_false_iff.mpr (not_infix_of_not_mem (hmem _ (by decide))),
    struct?_of_not_mem (hmem _ (by decide)), ?_, ?_, ?_,
    lightMode?_of_not_mem (hmem _ (by decide)), ?_,
    isLine_of_not_mem (hmem _ (by decide)) (hmem _ (by decide))⟩
  · simp only [include?, keywordName?, hskip, Option.bind_eq_bind, hnone]
  · simp only [pragma?, hskip, Option.bind_eq_bind, hnone]
  · simp only [passName?, hskip, Option.bind_eq_bind, hnone]
  · rw [renderState?, List.findSome?_eq_none_iff]
    intro key _
    simp only [stateValue?, hskip, Option.bind_eq_bind, hnone, Option.map_none]

/-- Whether the program is open behind a line. -/
def programAfter (inProgram : Bool) (l : Text) : Bool :=
  if startsProgram l then true else if endsProgram l then false else inProgram

/-- Lines none of which is taken for a stencil group: the program is open at all that could be. -/
def Harmless : Bool → List Text → Prop
  | _, [] => True
  | inProgram, l :: ls => (opensStencil l → inProgram) ∧ Harmless (programAfter inProgram l) ls

instance decidableHarmless :
    (inProgram : Bool) → (ls : List Text) → Decidable (Harmless inProgram ls)
  | _, [] => .isTrue trivial
  | inProgram, l :: ls =>
    haveI := decidableHarmless (programAfter inProgram l) ls
    inferInstanceAs (Decidable (_ ∧ _))

/-- Two stretches of lines are harmless together if the second is where the first leaves off. -/
theorem harmless_append {b : Bool} {ls ks : List Text} :
    Harmless b (ls ++ ks) ↔ Harmless b ls ∧ Harmless (ls.foldl programAfter b) ks := by
  induction ls generalizing b with
  | nil => simp [Harmless]
  | cons l ls ih => simp only [List.cons_append, Harmless, ih, List.foldl_cons, and_assoc]

lemma hasKeyword_margin (hm : ∀ c ∈ margin, c = ' ') (keyword : String) (t : Text) :
    hasKeyword keyword (margin ++ t) = hasKeyword keyword t := by
  simp only [hasKeyword, skipBlanks_append (isBlank_of_spaces hm)]

lemma programAfter_margin (hm : ∀ c ∈ margin, c = ' ') (b : Bool) (t : Text) :
    programAfter b (margin ++ t) = programAfter b t := by
  have hstart : startsProgram (margin ++ t) = startsProgram t := by
    simp only [startsProgram, hasKeyword_margin hm]
  have hend : endsProgram (margin ++ t) = endsProgram t := by
    simp only [endsProgram, hasKeyword_margin hm]
  rw [programAfter, hstart, hend, programAfter]

/-- A place at which it is known whether the program is open. -/
def Progress.within (s : Progress) (inProgram : Bool) : Progress :=
  { s with program := (· = inProgram) }

/-- A line in which nothing is found but, at most, that the program begins or ends. -/
def Passed (level : Nat) (l : Text) : Prop :=
  l ≠ [] ∧ Idle {} (marginAt level ++ l) ∧ braceDelta (marginAt level ++ l) = 0

/-- A passed line changes at most whether the program is open. -/
theorem Passed.reads {level : Nat} (h : Passed level l) {b : Bool} (hstencil : opensStencil l → b) :
    Reads {} (s.within b) [marginAt level ++ l] (s.within (programAfter b l)) := by
  obtain ⟨-, hidle, hflat⟩ := h
  have hm := spaces_marginAt level
  rw [← programAfter_margin hm, programAfter]
  split_ifs with hstart hend
  · exact .starts hidle.unmarked hstart hflat
  · exact .ends hidle.unmarked (by simpa using hstart) hend hflat
  · refine .idle hidle hflat (fun h => absurd h hstart) (fun h => absurd h hend) ?_
    rintro h _ rfl
    rw [opensStencil, hasKeyword_margin hm] at h
    exact hstencil h

/-- Harmless lines are passed over: behind them it is known whether the program is open. -/
theorem readsAt_passed {level : Nat} {ls : List Text} (h : ∀ l ∈ ls, Passed level l)
    {b : Bool} (hb : Harmless b ls) :
    ReadsAt level (.ofLines ls) (s.within b) (s.within (ls.foldl programAfter b)) := by
  induction ls generalizing b with
  | nil => exact .empty (Reads.along {})
  | cons l ls ih =>
    have hl := h l List.mem_cons_self
    exact (Layout.Leads.line hl.1 (hl.reads hb.1)).append (Reads.along {})
      (ih (fun l hl => h l (List.mem_cons_of_mem _ hl)) hb.2)

/-- A word and what follows it without a blank. -/
lemma passed_word_call {level : Nat} {w after : Text} (hne : after ≠ []) (hw : ∀ c ∈ w, isWord c)
    (hafter : ∀ c ∈ after, isBlank c = false ∧ c ∉ telling) : Passed level (w ++ after) := by
  have hm := spaces_marginAt level
  have hfree : ∀ d ∈ telling, d ∉ w ++ after := by
    intro d hd hmem
    rcases List.mem_append.mp hmem with h | h
    · exact Marker.not_mem_of_isWord hw (isWord_of_mem_telling d hd) h
    · exact (hafter d h).2 hd
  refine ⟨fun hnil => hne (List.append_eq_nil_iff.mp hnil).2, idle_of_no_blank hm ?_ hfree, ?_⟩
  · intro c hc
    rcases List.mem_append.mp hc with h | h
    · exact isBlank_of_isWord (hw c h)
    · exact (hafter c h).1
  · rw [braceDelta_margin (isMargin_of_spaces hm)]
    exact braceDelta_of_not_mem (hfree _ (by decide)) (hfree _ (by decide))

/-- The call of a vertex block is passed over. -/
theorem passed_vertexCall {b : Block} {t : Text}
    (h : Writing.vertexCall? b = some t) : Passed 4 t := by
  obtain ⟨w, hw, rfl⟩ := Writing.vertexCall?_eq_some h
  rw [String.toList_ofList]
  exact passed_word_call (by decide) hw (by decide)

/-- What the call of a fragment block can be. -/
theorem fragmentCall?_eq_some {b : Block} {t : Text}
    (h : Writing.fragmentCall? settings b = some t) :
    ∃ w, IsName w ∧ (t = "finalColor = ".toList ++ w ++ "(input);".toList ∨
      t = "finalColor = half4(".toList ++ w ++ "(input), 1.0);".toList ∨
      t = w ++ "(input);".toList) := by
  unfold Writing.fragmentCall? at h
  split at h
  · contradiction
  · split at h
    · contradiction
    · rename_i s hs
      have hname := Signature.name_of_find? hs
      split at h
      · split_ifs at h
        · exact ⟨s.name, hname, .inl (Option.some.inj h).symm⟩
        · exact ⟨s.name, hname, .inr (.inl (Option.some.inj h).symm)⟩
        · exact ⟨s.name, hname, .inr (.inr (Option.some.inj h).symm)⟩
      · contradiction

/-- The call of a fragment block is passed over, whatever its result is assigned to. -/
theorem passed_fragmentCall {b : Block} {t : Text}
    (h : Writing.fragmentCall? {} b = some t) : Passed 4 t := by
  have haround : ∀ {c : Char} {before w after : Text}, IsName w → BeginsQuietly c →
      (∀ d ∈ telling, d ∉ c :: (before ++ after)) →
      Passed 4 (c :: (before ++ w ++ after)) := by
    intro c before w after hw hc hfree
    have hquiet : Quiet {} (fun _ => True) (marginAt 4 ++ c :: (before ++ w ++ after)) :=
      quiet_around (spaces_marginAt 4) hw hc hfree
    exact ⟨List.cons_ne_nil _ _, hquiet.idle, hquiet.flat⟩
  obtain ⟨w, hw, rfl | rfl | rfl⟩ := fragmentCall?_eq_some h
  · rw [String.toList_ofList, String.toList_ofList]
    exact haround hw (by decide) (by decide)
  · rw [String.toList_ofList, String.toList_ofList]
    exact haround hw (by decide) (by decide)
  · rw [String.toList_ofList]
    exact passed_word_call (by decide) hw.2 (by decide)

/-- What is decided of a line of the program that is known. -/
def IsStill (level : Nat) (l : Text) : Prop :=
  l ≠ [] ∧ Idle {} (marginAt level ++ l) ∧ braceDelta (marginAt level ++ l) = 0 ∧
    startsProgram (marginAt level ++ l) = false ∧
    endsProgram (marginAt level ++ l) = false ∧ opensStencil (marginAt level ++ l) = false

instance (level : Nat) (l : Text) : Decidable (IsStill level l) :=
  inferInstanceAs (Decidable (_ ∧ _))

lemma IsStill.passed {level : Nat} (h : IsStill level l) : Passed level l := ⟨h.1, h.2.1, h.2.2.1⟩

/-- Still lines are harmless, and the program is open behind them if it is before. -/
theorem harmless_still {level : Nat} {ls : List Text} (h : ∀ l ∈ ls, IsStill level l) (b : Bool) :
    ls.foldl programAfter b = b ∧ Harmless b ls := by
  induction ls with
  | nil => exact ⟨rfl, trivial⟩
  | cons l ls ih =>
    obtain ⟨-, -, -, hstart, hend, hstencil⟩ := h l List.mem_cons_self
    have hsame : programAfter b l = b := by
      rw [← programAfter_margin (spaces_marginAt level), programAfter, hstart, hend]
      rfl
    rw [opensStencil, hasKeyword_margin (spaces_marginAt level), ← opensStencil] at hstencil
    rw [List.foldl_cons, Harmless, hsame, hstencil]
    exact (ih fun l hl => h l (List.mem_cons_of_mem _ hl)).imp id fun hrest =>
      ⟨fun h => absurd h Bool.false_ne_true, hrest⟩

/-- Calls among lines that are known. -/
lemma readsAt_calls {level : Nat} {before calls after : List Text}
    (hbefore : ∀ l ∈ before, IsStill level l) (hcalls : ∀ l ∈ calls, Passed level l)
    (hafter : ∀ l ∈ after, IsStill level l) {b : Bool} (h : Harmless b calls) :
    ReadsAt level (.ofLines (before ++ calls ++ after)) (s.within b)
      (s.within (calls.foldl programAfter b)) := by
  obtain ⟨hfirst, hbefore'⟩ := harmless_still hbefore b
  obtain ⟨hlast, hafter'⟩ := harmless_still hafter (calls.foldl programAfter b)
  have hall : (before ++ calls ++ after).foldl programAfter b = calls.foldl programAfter b := by
    rw [List.foldl_append, List.foldl_append, hfirst, hlast]
  have hharmless : Harmless b (before ++ calls ++ after) := by
    rw [harmless_append, harmless_append, List.foldl_append, hfirst]
    exact ⟨⟨hbefore', h⟩, hafter'⟩
  have hpassed : ∀ l ∈ before ++ calls ++ after, Passed level l := by
    simp only [List.forall_mem_append]
    exact ⟨⟨fun l hl => (hbefore l hl).passed, hcalls⟩, fun l hl => (hafter l hl).passed⟩
  rw [← hall]
  exact readsAt_passed hpassed hharmless

/-- Every line that a standard dependency writes is still. -/
theorem isStill_transformLines :
    ∀ e ∈ Registry.standardDependencies, ∀ d ∈ e.2, ∀ l ∈ Writing.transformLines d.transformCode,
    IsStill 4 l := by
  unfold Registry.standardDependencies Registry.computed Writing.transformLines
  simp only [List.map]
  repeat rw [String.toList_ofList]
  decide

/-- The declarations of the position and of the helpers are still. -/
theorem isStill_vertexLines : IsStill 4 "float3 posOS = input.positionOS.xyz;".toList ∧
    IsStill 4 ("VertexPositionInputs vpi = ".toList ++
      Writing.positionHelper ++ "(posOS);".toList) ∧
    IsStill 4 ("VertexNormalInputs vni = ".toList ++ Writing.normalHelper ++
      "(input.normalOS, input.tangentOS);".toList) ∧
    IsStill 4 ("VertexNormalInputs vni = ".toList ++ Writing.normalHelper ++
      "(input.normalOS);".toList) := by
  decide

/-- The body of the vertex entry function, around the calls in it. -/
lemma vertexBody_eq (g : Graph) (blocks : List Block) :
    ∃ before after, (∀ l ∈ before ++ after, IsStill 4 l) ∧
      Writing.vertexBody .standard g blocks =
        before ++ blocks.filterMap Writing.vertexCall? ++ after := by
  obtain ⟨hposition, hvpi, hvni, hvni'⟩ := isStill_vertexLines
  refine ⟨_, _, ?_,
    (Writing.vertexLines_eq ..).trans ((List.append_assoc ..).trans (List.append_assoc ..))⟩
  intro l hl
  simp only [List.mem_append, List.mem_ite_nil_right, List.mem_singleton] at hl
  rcases hl with ⟨-, rfl⟩ | ⟨-, rfl⟩ | ⟨-, rfl⟩ | hl
  · exact hposition
  · exact hvpi
  · split
    · exact hvni
    · exact hvni'
  · obtain ⟨d, hd, hl⟩ := List.mem_flatMap.mp hl
    obtain ⟨out, -, -, hdependency, -⟩ := Graph.mem_edges.mp (Writing.mem_firstOfEachKey hd)
    obtain ⟨ds, he, hd⟩ := Registry.mem_dependenciesOf hdependency
    exact isStill_transformLines _ he d hd l hl

/-- The vertex entry is passed over if its calls are harmless. -/
theorem readsAt_vertexEntry {g : Graph} {blocks : List Block} {b : Bool}
    (h : Harmless b (blocks.filterMap Writing.vertexCall?)) :
    ReadsAt 3 (Writing.vertexEntry {} .standard g blocks) (s.within b)
      (s.within ((blocks.filterMap Writing.vertexCall?).foldl programAfter b)) := by
  have hheader :
      IsHeader 3 (({} : Settings).outputStruct ++ " vert(".toList ++ ({} : Settings).inputStruct ++
        " input)".toList) := by
    decide
  have hfirst : IsStill 4 (({} : Settings).outputStruct ++ " output = (".toList ++
      ({} : Settings).outputStruct ++ ")0;".toList) := by
    decide
  have hlast : IsStill 4 "return output;".toList := by decide
  obtain ⟨before, after, hstill, hbody⟩ := vertexBody_eq g blocks
  refine Layout.Leads.append (Reads.along {}) (readsAt_scope hheader ?_) readsAt_blank
  rw [hbody, ← List.append_assoc, ← List.append_assoc, List.append_assoc _ after]
  refine readsAt_calls (s := { s with depth := s.depth+1 }) ?_ (fun l hl => ?_) ?_ h
  · simp only [List.forall_mem_append, List.forall_mem_singleton]
    exact ⟨hfirst, (List.forall_mem_append.mp hstill).1⟩
  · obtain ⟨b, -, hcall⟩ := List.mem_filterMap.mp hl
    exact passed_vertexCall hcall
  · simp only [List.forall_mem_append, List.forall_mem_singleton]
    exact ⟨(List.forall_mem_append.mp hstill).2, hlast⟩

/-- The fragment entry is passed over if its calls are harmless. -/
theorem readsAt_fragmentEntry {blocks : List Block} {b : Bool}
    (h : Harmless b (blocks.filterMap (Writing.fragmentCall? {}))) :
    ReadsAt 3 (Writing.fragmentEntry {} blocks) (s.within b)
      (s.within ((blocks.filterMap (Writing.fragmentCall? {})).foldl programAfter b)) := by
  have hheader : IsHeader 3
      ("half4 frag(".toList ++ ({} : Settings).outputStruct ++ " input) : SV_Target".toList) := by
    decide
  have hfirst : IsStill 4 "half4 finalColor = half4(1,1,1,1);".toList := by decide
  have hlast : IsStill 4 "return finalColor;".toList := by decide
  refine Layout.Leads.append (Reads.along {}) (readsAt_scope hheader ?_) readsAt_blank
  refine readsAt_calls (s := { s with depth := s.depth+1 }) ?_ (fun l hl => ?_) ?_ h
  · simpa using hfirst
  · obtain ⟨b, -, hcall⟩ := List.mem_filterMap.mp hl
    exact passed_fragmentCall hcall
  · simpa using hlast

end MarkedShader.Source
