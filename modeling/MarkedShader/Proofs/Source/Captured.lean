import MarkedShader.Proofs.Source.Located
import MarkedShader.Proofs.Source.Properties

/-! Which line is taken for the declaration of a property: the next one that says something,
whatever name it declares. -/
namespace MarkedShader.Source
open Text

variable {pre : Text} {ls : List Text}

/-- The name before the first parenthesis, after any attributes in brackets. -/
def declaredName? (line : Text) : Option Text :=
  (word? (afterBrackets false line)).bind fun (name, r) =>
    if (skipBlanks r).head? == some '(' then some name else none

lemma isPropertyDeclaration_eq (line : Text) :
    isPropertyDeclaration line = (declaredName? line).isSome := by
  rw [isPropertyDeclaration, declaredName?]
  cases word? (afterBrackets false line) with
  | none => rfl
  | some found =>
    simp only [Option.bind_some]
    split_ifs with h
    · exact h
    · exact Bool.eq_false_iff.mpr h

lemma isName_of_declaredName? {line w : Text} (h : declaredName? line = some w) : IsName w := by
  obtain ⟨⟨name, r⟩, hword, hname⟩ := Option.bind_eq_some_iff.mp h
  simp only [Option.ite_none_right_eq_some, Option.some.injEq] at hname
  obtain ⟨-, hne, hall, -⟩ := run?_eq_some_iff.mp hword
  exact hname.2 ▸ ⟨hne, hall⟩

lemma declaredName?_labelled {p : Property} (h : IsName p.name) (rest : Text) :
    declaredName? (labelled p rest) = some p.name := by
  have hparen : isWord '(' = false ∧ isBlank '(' = false := by decide
  have hword :
      word? (labelled p rest) = some (p.name, '(' :: '"' :: (p.displayName ++ '"' :: rest)) :=
    word?_append h.1 h.2 (by simp [hparen.1])
  have hskip : afterBrackets false (labelled p rest) = labelled p rest := by
    obtain ⟨c, w, hw⟩ := List.exists_cons_of_ne_nil h.1
    rw [labelled, hw, List.cons_append]
    exact afterBrackets_of_isWord (h.2 c (hw ▸ List.mem_cons_self))
  rw [declaredName?, hskip, hword, Option.bind_some]
  simp only
  rw [skipBlanks_of_stop (by simp [hparen.2])]
  rfl

/-- A synthesized declaration declares the property if that has a name. -/
lemma declaredName?_synthesize_iff (p : Property) :
    declaredName? p.synthesize = some p.name ↔ IsName p.name := by
  refine ⟨isName_of_declaredName?, fun h => ?_⟩
  rcases synthesize_eq p with ⟨piece, -, heq⟩ | ⟨kind, texture, -, -, heq⟩
  · rw [heq, declaredName?_labelled h]
  · rw [heq, declaredName?_labelled h]

/-- A line that is blank or a comment. -/
def isRemark (l : Text) : Bool := (strip l).isEmpty || (strip l).startsWith "//".toList

/-- A line at most three below another one, with only blank lines and comments between, and no
marker of a property up to it. -/
structure NextTo (pre : Text) (ls : List Text) (i j : Nat) : Prop where
  near : i < j ∧ j ≤ i+3
  unmarked : ∀ k, i < k → k ≤ j → ∀ l ∈ ls[k]?, Marker.property? pre l = none
  remarks : ∀ k, i < k → k < j → ∀ l ∈ ls[k]?, isRemark l

/-- The text is the line next to a marker, and declares something. -/
def Captured (pre : Text) (ls : List Text) (i : Nat) (t : Text) : Prop :=
  ∃ j, NextTo pre ls i j ∧ ls[j]?.map strip = some t ∧ (declaredName? t).isSome

lemma not_isRemark_of_declares {l : Text} (h : (declaredName? (strip l)).isSome) :
    isRemark l = false := by
  rw [isRemark, Bool.or_eq_false_iff]
  constructor
  · rw [List.isEmpty_eq_false_iff]
    intro he
    rw [he] at h
    exact absurd h (by decide)
  · by_contra hc
    rw [Bool.not_eq_false, startsWith, List.isPrefixOf_iff_prefix, String.toList_ofList] at hc
    obtain ⟨r, hr⟩ := hc
    rw [← hr] at h
    exact absurd h Bool.false_ne_true

lemma find?_takeWhile_eq_some_iff {α : Type} {q p : α → Bool} {ks : List α} {x : α} :
    (ks.takeWhile q).find? p = some x ↔
    ∃ n : Nat, ks[n]? = some x ∧ p x ∧ (∀ m ≤ n, ∀ y ∈ ks[m]?, q y) ∧
      ∀ m < n, ∀ y ∈ ks[m]?, p y = false := by
  induction ks with
  | nil => simp
  | cons k ks ih =>
    by_cases hq : q k = true
    · rw [List.takeWhile_cons_of_pos hq]
      by_cases hp : p k = true
      · rw [List.find?_cons_of_pos hp]
        constructor
        · rintro ⟨⟩
          refine ⟨0, rfl, hp, fun m hm y hy => ?_, fun m hm => absurd hm (Nat.not_lt_zero m)⟩
          obtain rfl := Nat.le_zero.mp hm
          exact Option.some.inj hy ▸ hq
        · rintro ⟨n, hn, -, -, hfirst⟩
          cases n with
          | zero => exact hn
          | succ n => exact absurd hp (Bool.eq_false_iff.mp (hfirst 0 (Nat.succ_pos n) k rfl))
      · rw [List.find?_cons_of_neg hp, ih]
        constructor
        · rintro ⟨n, hn, hx, hall, hfirst⟩
          refine ⟨n+1, hn, hx, fun m hm y hy => ?_, fun m hm y hy => ?_⟩
          · cases m with
            | zero => exact Option.some.inj hy ▸ hq
            | succ m => exact hall m (by omega) y hy
          · cases m with
            | zero => exact Option.some.inj hy ▸ Bool.eq_false_iff.mpr hp
            | succ m => exact hfirst m (by omega) y hy
        · rintro ⟨n, hn, hx, hall, hfirst⟩
          cases n with
          | zero => exact absurd (Option.some.inj hn ▸ hx) hp
          | succ n =>
            exact ⟨n, hn, hx, fun m hm => hall (m+1) (by omega),
              fun m hm => hfirst (m+1) (by omega)⟩
    · rw [List.takeWhile_cons_of_neg hq]
      constructor
      · exact fun h => absurd h (Option.some_ne_none x).symm
      · rintro ⟨n, -, -, hall, -⟩
        exact absurd (hall 0 (Nat.zero_le n) k rfl) hq

/-- A declaration is looked for in the first of three lines that says something, up to the next
marker. -/
lemma declarationAfter_eq_iff_find? {rest : List Text} {t : Text} (ht : t ≠ []) :
    declarationAfter pre rest = t ↔
    ∃ x, ((rest.take 3).takeWhile fun l => (Marker.property? pre l).isNone).find?
      (fun l => !isRemark l) = some x ∧
      strip x = t ∧ isPropertyDeclaration t := by
  have hremark :
      (fun l => !l.isEmpty && !l.startsWith "//".toList) ∘ strip = fun l => !isRemark l := by
    funext l
    rw [isRemark, Bool.not_or, Function.comp_apply]
  have hsome : ∀ o : Option Text, o.getD [] = t ↔ o = some t := fun o => by
    cases o with
    | none => exact ⟨fun h => absurd h.symm ht, fun h => absurd h (Option.some_ne_none t).symm⟩
    | some u => rw [Option.getD_some, Option.some.injEq]
  rw [declarationAfter, hsome, Option.filter_eq_some_iff, List.find?_map, hremark,
    Option.map_eq_some_iff]
  simp only [exists_and_right, ← and_assoc]

/-- What is taken for the declaration is the line next to the marker, if it declares something. -/
lemma declarationAfter_eq_iff {i : Nat} {t : Text} (ht : t ≠ []) :
    declarationAfter pre (ls.drop (i+1)) = t ↔ Captured pre ls i t := by
  have hnear : ∀ m, m < 3 → ((ls.drop (i+1)).take 3)[m]? = ls[i+1+m]? := fun m hm => by
    rw [List.getElem?_take_of_lt hm, List.getElem?_drop]
  rw [declarationAfter_eq_iff_find? ht]
  simp only [find?_takeWhile_eq_some_iff, isPropertyDeclaration_eq]
  constructor
  · rintro ⟨x, ⟨n, hn, -, hunmarked, hremarks⟩, rfl, hdeclares⟩
    have hlt : n < 3 := by
      have := (List.getElem?_eq_some_iff.mp hn).1
      rw [List.length_take] at this
      omega
    rw [hnear n hlt] at hn
    refine ⟨i+1+n, ⟨by omega, fun k hk hkn l hl => ?_, fun k hk hkn l hl => ?_⟩, ?_, hdeclares⟩
    · have hat := hnear (k-(i+1)) (by omega)
      rw [show i+1+(k-(i+1)) = k by omega] at hat
      exact Option.isNone_iff_eq_none.mp (hunmarked (k-(i+1)) (by omega) l (hat.trans hl))
    · have hat := hnear (k-(i+1)) (by omega)
      rw [show i+1+(k-(i+1)) = k by omega] at hat
      simpa using hremarks (k-(i+1)) (by omega) l (hat.trans hl)
    · rw [hn, Option.map_some]
  · rintro ⟨j, hnext, hj, hdeclares⟩
    obtain ⟨x, hx, rfl⟩ := Option.map_eq_some_iff.mp hj
    obtain ⟨hij, hji⟩ := hnext.near
    refine ⟨x, ⟨j-(i+1), ?_, ?_, fun m hm l hl => ?_, fun m hm l hl => ?_⟩, rfl, hdeclares⟩
    · rw [hnear _ (by omega), show i+1+(j-(i+1)) = j by omega, hx]
    · rw [not_isRemark_of_declares hdeclares]
      rfl
    · rw [hnear m (by omega)] at hl
      exact Option.isNone_iff_eq_none.mpr (hnext.unmarked (i+1+m) (by omega) (by omega) l hl)
    · rw [hnear m (by omega)] at hl
      rw [hnext.remarks (i+1+m) (by omega) (by omega) l hl]
      rfl

/-- Each property comes from a marker and the lines below it. -/
lemma exists_marker {all : List Text} {i : Nat} {known : List Text}
    {ks : List Text} (h : ks = all.drop i) :
    ∀ p ∈ (propertiesFrom pre i known ks).1, ∃ j text,
      all[j]?.bind (Marker.property? pre) = some text ∧
      p = propertyOf pre (Attributes.read text) (all.drop (j+1)) := by
  induction ks generalizing i known with
  | nil => exact fun p hp => absurd hp List.not_mem_nil
  | cons l ks ih =>
    have hhere : all[i]? = some l := by
      rw [← Nat.add_zero i, ← List.getElem?_drop, ← h]
      rfl
    have hnext : ks = all.drop (i+1) := by
      rw [← List.drop_drop, ← h]
      rfl
    rw [propertiesFrom]
    split
    · exact ih hnext
    · rename_i text htext
      simp only
      split_ifs
      · exact ih hnext
      · exact ih hnext
      · intro p hp
        rcases List.mem_cons.mp hp with rfl | hp
        · exact ⟨i, text, by rw [hhere, Option.bind_some, htext], by rw [hnext]⟩
        · exact ih hnext p hp

/-- The declaration of a property that is read: the line next to its marker, if that declares
something. -/
lemma declaration_propertyOf {attributes : Attributes} {i : Nat} :
    let p := propertyOf pre attributes (ls.drop (i+1))
    (p.rawDeclaration ≠ [] → Captured pre ls i p.rawDeclaration) ∧
      (∀ t, Captured pre ls i t → p.declaration = t) ∧
      ((∀ t, ¬ Captured pre ls i t) → p.declaration = p.synthesize) := by
  intro p
  obtain ⟨raw, hraw⟩ : ∃ raw, declarationAfter pre (ls.drop (i+1)) = raw := ⟨_, rfl⟩
  have hkept : p.rawDeclaration = if raw = p.synthesize then [] else raw := by
    rw [← hraw]
    rfl
  have hdeclaration : p.declaration = if raw = [] then p.synthesize else raw := by
    rw [Property.declaration, hkept]
    by_cases hs : raw = p.synthesize
    · rw [if_pos hs, hs, ite_self]
      rfl
    · rw [if_neg hs]
      exact if_congr List.isEmpty_iff rfl rfl
  have hcaptured : ∀ t, t ≠ [] → (raw = t ↔ Captured pre ls i t) :=
    fun t ht => hraw ▸ declarationAfter_eq_iff ht
  refine ⟨fun hne => ?_, fun t ht => ?_, fun hnone => ?_⟩
  · rw [hkept] at hne ⊢
    split_ifs at hne ⊢ with hs
    · exact absurd rfl hne
    · exact (hcaptured raw hne).mp rfl
  · have hne : t ≠ [] := by
      rintro rfl
      obtain ⟨j, -, -, hdeclares⟩ := ht
      exact absurd hdeclares (by decide)
    rw [hdeclaration, (hcaptured t hne).mpr ht, if_neg hne]
  · rw [hdeclaration, if_pos]
    by_contra hne
    exact hnone raw ((hcaptured raw hne).mp rfl)

/-- A source that is not blank is read, and then each property comes from a marker with its name.
The declaration line that it keeps is the one next to the marker, and what declares it, then or when
it is written, declares it under its name exactly if the name is one and no line next to the marker
declares another. -/
theorem parse_declares (settings : Settings) (r : Registry) (content : Text)
    (h : allBlank content = false) :
    ∃ d ws, parse settings r content = .ok (d, ws) ∧ ∀ p ∈ d.properties, ∃ i text,
      (lines content)[i]?.bind (Marker.property? settings.tagPrefix) = some text ∧
      p.name = (Attributes.read text).getD "name" [] ∧
      (p.rawDeclaration ≠ [] → Captured settings.tagPrefix (lines content) i p.rawDeclaration) ∧
      (∀ t, Captured settings.tagPrefix (lines content) i t → p.declaration = t) ∧
      (declaredName? p.declaration = some p.name ↔
        IsName p.name ∧ ∀ t, Captured settings.tagPrefix (lines content) i t →
        declaredName? t = some p.name) := by
  refine ⟨_, _, by rw [parse, h]; rfl, fun p hp => ?_⟩
  obtain ⟨i, text, hmarker, rfl⟩ :=
    @exists_marker settings.tagPrefix (lines content) 0 [] (lines content) rfl p hp
  obtain ⟨hraw, hcaptured, hnone⟩ :=
    @declaration_propertyOf settings.tagPrefix (lines content) (Attributes.read text) i
  refine ⟨i, text, hmarker, rfl, hraw, hcaptured,
    fun hname => ⟨isName_of_declaredName? hname, fun t ht => ?_⟩, ?_⟩
  · rw [← hcaptured t ht, hname]
  · rintro ⟨hname, hall⟩
    by_cases hsome : ∃ t, Captured settings.tagPrefix (lines content) i t
    · obtain ⟨t, ht⟩ := hsome
      rw [hcaptured t ht, hall t ht]
    · rw [hnone (not_exists.mp hsome), declaredName?_synthesize_iff]
      exact hname

/-- A marker above the declaration of another property. -/
def foreignDeclaration : Text :=
  joinLines ["Shader \"A/B\" \x7b".toList, "    Properties \x7b".toList,
  "        // [AILab_Property: name=\"_A\" type=\"Float\" default=\"1\"]".toList,
  "        _B(\"B\", Float) = 2".toList,
  "    \x7d".toList, ['\x7d'], []]

/-- The property takes the declaration, and is declared under the other name from then on. -/
theorem foreignDeclaration_taken : ∃ d ws, parse {} .standard foreignDeclaration = .ok (d, ws) ∧
    ∃ p ∈ d.properties, p.name = "_A".toList ∧ p.rawDeclaration = "_B(\"B\", Float) = 2".toList ∧
      declaredName? p.rawDeclaration = some "_B".toList ∧
        declaredName? p.declaration ≠ some p.name := by
  obtain ⟨d, ws, hparse, hdeclares⟩ := parse_declares {} .standard foreignDeclaration (by decide)
  have hd : d = (documentOf {} .standard foreignDeclaration).1 := by rw [documentOf_of_parse hparse]
  obtain ⟨p, hp, hname, hraw⟩ : ∃ p ∈ d.properties, p.name = "_A".toList ∧
      p.rawDeclaration = "_B(\"B\", Float) = 2".toList := by
    rw [hd]
    decide +kernel
  obtain ⟨i, text, -, -, hcaptured, -, hown⟩ := hdeclares p hp
  have hother : declaredName? p.rawDeclaration = some "_B".toList := by
    rw [hraw]
    decide +kernel
  refine ⟨d, ws, hparse, p, hp, hname, hraw, hother, fun h => ?_⟩
  have := (hown.mp h).2 _ (hcaptured (by rw [hraw]; decide))
  rw [hother, hname] at this
  exact absurd this (by decide)

end MarkedShader.Source
