import MarkedShader.Proofs.Source.Stencil
import MarkedShader.Proofs.Writing.Drafts

/-! A render state is read back from the lines that are written for it, under any indentation,
unless an integer of its stencil has too many digits to be written.

Main statement: `written_readBack`. -/
namespace MarkedShader

/-- A stencil whose integers are not negative and whose tests and operations are words, be they
keywords or not. -/
structure Stencil.IsPlain (st : Stencil) : Prop where
  numbers : ∀ i ∈ [st.ref, st.readMask, st.writeMask], 0 ≤ i
  words : ∀ t ∈ [st.comp, st.passOp, st.failOp, st.zfailOp], Text.IsName t

instance (st : Stencil) : Decidable st.IsPlain :=
  decidable_of_iff ((∀ i ∈ [st.ref, st.readMask, st.writeMask], 0 ≤ i) ∧
    ∀ t ∈ [st.comp, st.passOp, st.failOp, st.zfailOp], Text.IsName t)
    ⟨fun ⟨numbers, words⟩ => ⟨numbers, words⟩, fun h => ⟨h.numbers, h.words⟩⟩

/-- A render state whose values are not empty, begin and end with no blank, and hold neither line
breaks nor quotes nor braces. -/
structure RenderState.IsPlain (x : RenderState) : Prop where
  values : ∀ key, ∀ v ∈ x.get key, v ≠ [] ∧ Text.strip v = v ∧
    ∀ c ∈ ['\n', '"', '\x7b', '\x7d'], c ∉ v
  stencil : ∀ st ∈ x.stencil, st.IsPlain

namespace Marker
open Text

lemma mem_of_namedAt? {pre t name : Text} {kind : MarkerKind}
    (h : namedAt? pre kind t = some name) : '"' ∈ t := by
  simp only [namedAt?, Option.filter_eq_some_iff, quotedAt?, body?, afterTag?, Option.bind_eq_bind,
    Option.bind_eq_some_iff, Option.map_eq_some_iff] at h
  obtain ⟨⟨u, ⟨v, ⟨w, hw, hv⟩, x, hx, rfl⟩, p, hp, -⟩, -⟩ := h
  have hquote : '"' ∈ skipBlanks x := by
    cases hs : skipBlanks x with
    | nil => simp [hs, quoted?] at hp
    | cons c r =>
      by_cases hc : c = '"'
      · exact hc ▸ List.mem_cons_self
      · simp [hs, quoted?, hc] at hp
  have hskip : ∀ t : Text, skipBlanks t ⊆ t := fun t => (List.dropWhile_suffix _).subset
  rw [after?_eq_some_iff.mp hw]
  refine List.mem_append_right _ (hskip w ?_)
  rw [after?_eq_some_iff.mp hv]
  refine List.mem_append_right _ ?_
  rw [after?_eq_some_iff.mp hx]
  exact List.mem_append_right _ (hskip x hquote)

/-- A line without a quote starts no block and names no section. -/
lemma search_namedAt?_of_not_mem {pre line : Text} (kind : MarkerKind) (h : '"' ∉ line) :
    line.search (namedAt? pre kind) = none := by
  refine search_eq_none_iff.mpr fun s hs =>
    Option.eq_none_iff_forall_ne_some.mpr fun name hname => ?_
  exact h (hs.subset (mem_of_namedAt? hname))

end Marker

namespace Source
open Text

variable {settings : Settings} {margin : Text}

lemma take?_of_not_mem {line : Text} (hq : '"' ∉ line) (ho : '\x7b' ∉ line) (i : Nat) (p : Parts)
    (rest : List Text) : p.take? settings i line rest = none := by
  have hlabel : Marker.sectionLabel? settings.tagPrefix line = none :=
    Marker.search_namedAt?_of_not_mem _ hq
  have hstart : Marker.blockStart? settings.tagPrefix line = none :=
    Marker.search_namedAt?_of_not_mem _ hq
  simp [Parts.take?, hlabel, hstart, struct?_of_not_mem ho]

lemma isValue_of_strip {v : Text} (hne : v ≠ []) (h : strip v = v) : IsValue v := by
  refine ⟨hne, .inl ⟨fun c hc => ?_, fun c hc => ?_⟩⟩
  · rw [← h] at hc
    exact stop_dropWhile isBlank v c (head?_of_isPrefix (prefix_trimEnd _ _) c hc)
  · rw [← h] at hc
    exact stop_trimEnd isBlank _ c hc

/-- Outside the program a walk takes the line of a value in. -/
lemma step_valueLine (hm : IsMargin margin) {key : StateKey} {v : Text} (hv : IsValue v)
    (hq : '"' ∉ v) (ho : '\x7b' ∉ v) {c : Content} (outside : c.inProgram = false) (i : Nat)
    (rest : List Text) : Content.step settings i c (margin ++ valueLine key v) rest =
      ({ c with renderState := c.renderState.set v key }, 0) := by
  have htake : c.toParts.take? settings i (margin ++ valueLine key v) rest = none :=
    take?_of_not_mem (not_mem_valueLine hm (by decide) (by decide) hq)
      (not_mem_valueLine hm (by decide) (by decide) ho) i _ rest
  obtain ⟨hstart, hend⟩ := keepsProgram_valueLine hm key v
  simp only [Content.step, htake, hstart, hend, outside, Bool.false_eq_true, if_false,
    takeStateLine_valueLine hm hv hq]

lemma walk_valueLines (hm : IsMargin margin) {ps : List (StateKey × Text)}
    (h : ∀ p ∈ ps, IsValue p.2 ∧ '"' ∉ p.2 ∧ '\x7b' ∉ p.2) {c : Content}
    (outside : c.inProgram = false) (i : Nat) (rest : List Text) :
    walk (Content.step settings) i c (ps.map (fun p => margin ++ valueLine p.1 p.2) ++ rest) =
      walk (Content.step settings) (i + ps.length)
        { c with renderState := ps.foldl (fun x p => x.set p.2 p.1) c.renderState } rest := by
  induction ps generalizing c i with
  | nil => rfl
  | cons p ps ih =>
    obtain ⟨⟨hv, hq, ho⟩, hrest⟩ := List.forall_mem_cons.mp h
    rw [List.map_cons, List.cons_append, walk, step_valueLine hm hv hq ho outside]
    have hwalk := ih hrest (c := { c with renderState := c.renderState.set p.2 p.1 }) outside (i+1)
    rw [Nat.add_right_comm] at hwalk
    exact hwalk

end Source

lemma Numeral.length_natural_le_iff {n : Nat} :
    (Decimal.natural n).length ≤ Numeral.digitLimit ↔ Numeral.isTooLong n = false := by
  rw [Decimal.natural, Nat.length_toDigits_le_iff (by decide) (by decide), Numeral.isTooLong,
    decide_eq_false_iff_not, Int.natAbs_natCast, Nat.not_le]
  generalize Numeral.digitLimit = k
  rfl

namespace Stencil

variable {st : Stencil}

lemma IsPlain.legible (h : st.IsPlain) (hs : st.IsSpellable) : st.Legible := by
  have hshort : ∀ i ∈ [st.ref, st.readMask, st.writeMask], Source.IsShort i := by
    intro i hi
    obtain ⟨n, rfl⟩ := Int.eq_ofNat_of_zero_le (h.numbers i hi)
    exact ⟨n, rfl, Numeral.length_natural_le_iff.mpr (hs _ hi)⟩
  have hwords := h.words
  simp only [List.forall_mem_cons, List.not_mem_nil, false_implies, implies_true,
    and_true] at hshort hwords
  exact ⟨hshort.1, hwords.1, hwords.2.1, hwords.2.2.1, hwords.2.2.2, hshort.2.1, hshort.2.2⟩

end Stencil

namespace RenderState
open Text Source

variable {x : RenderState}

lemma IsPlain.value?_eq (h : x.IsPlain) (key : StateKey) : x.value? key = x.get key := by
  rw [value?]
  cases hget : x.get key with
  | none => rfl
  | some v =>
    have hne : v ≠ [] := (h.values key v hget).1
    exact Option.filter_some_pos (by simpa using hne)

lemma IsPlain.rewritten_eq (h : x.IsPlain) : x.rewritten = x := by
  simp only [rewritten, h.value?_eq]
  rfl

lemma IsPlain.of_mem_values (h : x.IsPlain) :
    ∀ p ∈ x.values, IsValue p.2 ∧ '"' ∉ p.2 ∧ '\x7b' ∉ p.2 := by
  intro p hp
  obtain ⟨key, -, hkey⟩ := List.mem_filterMap.mp hp
  obtain ⟨v, hv, rfl⟩ := Option.map_eq_some_iff.mp hkey
  rw [h.value?_eq] at hv
  obtain ⟨hne, htrim, hfree⟩ := h.values key v hv
  exact ⟨isValue_of_strip hne htrim, hfree '"' (by decide), hfree '\x7b' (by decide)⟩

/-- The lines of a state under any indentation. -/
lemma lines_renderState (indent : Text) (level : Nat) (filled : Bool) (x : RenderState) :
    (Writing.renderState x).lines indent level filled =
      x.values.map (fun p => Layout.margin indent level ++ valueLine p.1 p.2) ++
        (x.stencil.map fun st => stencilLines (Layout.margin indent level)
          (Layout.margin indent (level+1)) st).getD [] := by
  have hvalues : ∀ filled,
      (Layout.ofLines (x.values.map fun p => valueLine p.1 p.2)).lines indent level filled =
      x.values.map fun p => Layout.margin indent level ++ valueLine p.1 p.2 := by
    intro filled
    rw [Layout.lines_ofLines, List.map_map]
    · rfl
    · exact List.forall_mem_map.mpr fun p _ => by simp [valueLine]
  cases hst : x.stencil with
  | none =>
    rw [Writing.renderState, hst]
    exact congrArg₂ (· ++ ·) (hvalues filled) rfl
  | some st =>
    rw [Writing.renderState, hst]
    exact congrArg₂ (· ++ ·) (hvalues filled) (lines_stencil indent level _ st)

/-- A state that is plain is read back from the lines that are written for it under any indentation,
and the walk goes on behind them; it is not written if an integer of its stencil has too many
digits. -/
theorem written_readBack (settings : Settings) (store : Store) {indent : Text}
    (hindent : IsMargin indent) (h : x.IsPlain) :
    ((∀ st ∈ x.stencil, st.IsSpellable) →
      ∃ layout, Draft.renderState store (.ofRenderState x) = .ok layout ∧
      ∀ (level : Nat) (filled : Bool) (i : Nat) (c : Content) (rest : List Text),
      c.inProgram = false → c.renderState = {} →
        walk (Content.step settings) i c (layout.lines indent level filled ++ rest) =
          walk (Content.step settings) (i + (layout.lines indent level filled).length)
      { c with renderState := x } rest) ∧
    ((∃ st ∈ x.stencil, ¬ st.IsSpellable) →
      Draft.renderState store (.ofRenderState x) = .error (.value .integerTooLong)) := by
  have hm : ∀ level, IsMargin (Layout.margin indent level) := Layout.isMargin_margin hindent
  rw [Draft.renderState_ofRenderState]
  refine ⟨fun spellable => ⟨_, if_pos spellable, fun level filled i c rest outside fresh => ?_⟩,
    fun long => if_neg ?_⟩
  · have hstate := x.foldl_values
    rw [h.rewritten_eq,
      show (⟨none, none, none, none, none, none⟩ : RenderState) = c.renderState from
        fresh.symm] at hstate
    rw [lines_renderState, List.append_assoc, walk_valueLines (hm level) h.of_mem_values outside,
      hstate, List.length_append, List.length_map, ← Nat.add_assoc]
    cases hst : x.stencil with
    | none =>
      rw [show { x with stencil := none } = x by rw [← hst]]
      rfl
    | some st =>
      have hlegible := (h.stencil st hst).legible (spellable st hst)
      have hread : ({ x with stencil := some st } : RenderState) = x := by rw [← hst]
      refine Eq.trans (walk_stencilLines (hm level) (hm (level+1)) hlegible ?_ _ rest) ?_
      · exact outside
      · rw [hread]
        rfl
  · obtain ⟨st, hst, hlong⟩ := long
    exact fun spellable => hlong (spellable st hst)

/-- A state whose stencil has keywords for values. -/
def keyworded : RenderState :=
  { cull := some "Off".toList, blend := some "SrcAlpha // over".toList
    stencil := some { ref := 7, comp := "Ref".toList, passOp := "Fail".toList
                      failOp := "Pass".toList, zfailOp := "ZFail".toList } }

theorem written_readBack_keyworded :
    keyworded.IsPlain ∧ ∃ layout, Draft.renderState {} (.ofRenderState keyworded) = .ok layout ∧
      ∀ rest, walk (Content.step {}) 5 {} (layout.lines ['\t'] 2 true ++ rest) =
        walk (Content.step {}) (5 + (layout.lines ['\t'] 2 true).length)
          { ({} : Content) with renderState := keyworded } rest := by
  have hplain : keyworded.IsPlain := by
    refine ⟨fun key => ?_, by decide⟩
    cases key <;> decide
  have htab : IsMargin ['\t'] := by simp [IsMargin]
  have hspellable : ∀ st ∈ keyworded.stencil, st.IsSpellable := by decide +kernel
  obtain ⟨layout, hwritten, hread⟩ := (written_readBack {} {} htab hplain).1 hspellable
  exact ⟨hplain, layout, hwritten, fun rest => hread 2 true 5 {} rest rfl rfl⟩

/-- A state whose stencil has the smallest reference of too many digits. -/
def longReference : RenderState := { stencil := some { ref := Nat.pow 10 Numeral.digitLimit } }

theorem longReference_unwritten :
    longReference.IsPlain ∧ longReference.hasOverrides ∧
      ∀ store layout, Draft.renderState store (.ofRenderState longReference) ≠ .ok layout := by
  have hlong : ¬ ∀ st ∈ longReference.stencil, st.IsSpellable := by
    intro h
    have href := h _ rfl _ List.mem_cons_self
    rw [Numeral.isTooLong, decide_eq_false_iff_not, Int.natAbs_natCast] at href
    refine href ?_
    generalize Numeral.digitLimit = k
    exact Nat.le_refl _
  have hvalues : ∀ key, ∀ v, v ∉ longReference.get key := by
    intro key v
    cases key <;> exact Option.not_mem_none v
  refine ⟨⟨fun key v hv => absurd hv (hvalues key v), ?_⟩, rfl, fun store layout => ?_⟩
  · rintro _ ⟨⟩
    refine ⟨?_, by decide⟩
    simp only [List.forall_mem_cons, List.not_mem_nil, false_implies, implies_true, and_true]
    exact ⟨Int.natCast_nonneg _, by decide, by decide⟩
  · rw [Draft.renderState_ofRenderState, if_neg hlong]
    rintro ⟨⟩

end RenderState
end MarkedShader
