import MarkedShader.Proofs.Number.Plain
import MarkedShader.Proofs.Source.Pass
import MarkedShader.Source.Properties

/-! The declaration lines of properties are taken for nothing else, and found below the markers of
the properties. -/
namespace MarkedShader
namespace Source
open Text

variable {t : Text}

lemma afterBrackets_of_isWord {c : Char} (hc : isWord c) :
    afterBrackets false (c :: t) = c :: t := by
  have hne : c ≠ '[' := by
    rintro rfl
    exact absurd hc (by decide)
  simp [afterBrackets, hne, isBlank_of_isWord hc]

lemma isPropertyDeclaration_append {w r : Text} (hw : IsName w)
    (hr : ∀ c ∈ r.head?, isWord c = false) :
    isPropertyDeclaration (w ++ r) = ((skipBlanks r).head? == some '(') := by
  have hword : word? (w ++ r) = some (w, r) := word?_append hw.1 hw.2 hr
  cases w with
  | nil => exact absurd rfl hw.1
  | cons c w =>
    rw [isPropertyDeclaration, List.cons_append,
      afterBrackets_of_isWord (hw.2 c List.mem_cons_self), ← List.cons_append, hword]

lemma isName_keyword :
    IsName ['U', 's', 'e', 'P', 'a', 's', 's'] ∧ IsName ['P', 'a', 's', 's'] := by
  decide

variable {margin : Text} (hm : ∀ c ∈ margin, isBlank c) (hhead : ∀ c ∈ t.head?, isBlank c = false)
include hm hhead

lemma usePass?_of_isPropertyDeclaration (h : isPropertyDeclaration t = true) :
    usePass? (margin ++ t) = none := by
  by_contra hne
  obtain ⟨path, hpath⟩ := Option.ne_none_iff_exists'.mp hne
  delta usePass? keywordName? at hpath
  rw [skipBlanks_append hm, skipBlanks_of_stop hhead, String.toList_ofList] at hpath
  simp only [Option.bind_eq_bind, Option.bind_eq_some_iff] at hpath
  obtain ⟨r, hr, u, hu, ⟨name, v⟩, hv, -⟩ := hpath
  rw [after?_eq_some_iff] at hr
  obtain ⟨c, s, rfl, hc, rfl⟩ := blanks?_eq_some_iff.mp hu
  rw [hr, isPropertyDeclaration_append isName_keyword.1 (by simpa using isWord_of_isBlank hc)] at h
  rw [quotedName?, Option.filter_eq_some_iff] at hv
  have hskip : skipBlanks (c :: s) = skipBlanks s :=
    skipBlanks_append (m := [c]) (by simpa using hc) s
  rw [hskip] at h
  obtain ⟨x, hx⟩ := List.head?_eq_some_iff.mp (beq_iff_eq.mp h)
  have hopens : quoted? ('(' :: x) = none := rfl
  rw [hx, hopens] at hv
  exact absurd hv.1 (Option.some_ne_none _).symm

lemma opensPass_of_isPropertyDeclaration (h : isPropertyDeclaration t = true) :
    opensPass (margin ++ t) = false := by
  delta opensPass
  rw [skipBlanks_append hm, skipBlanks_of_stop hhead, String.toList_ofList]
  cases hr : after? ['P', 'a', 's', 's'] t with
  | none => rfl
  | some r =>
    rw [after?_eq_some_iff] at hr
    by_cases hword : ∀ c ∈ r.head?, isWord c = false
    · rw [hr, isPropertyDeclaration_append isName_keyword.2 hword] at h
      obtain ⟨x, hx⟩ := List.head?_eq_some_iff.mp (beq_iff_eq.mp h)
      simp only [hx]
      rfl
    · cases r with
      | nil => exact absurd (by simp) hword
      | cons c r =>
        have hc : isWord c := by simpa using hword
        have hskip : skipBlanks (c :: r) = c :: r :=
          skipBlanks_of_stop (by simpa using isBlank_of_isWord hc)
        have hne : c ≠ '\x7b' := by
          rintro rfl
          exact absurd hc (by decide)
        simp only [hskip]
        simpa using hne

omit hm hhead

/-- A text that declares a property and holds no marker. -/
structure DeclaresUnmarked (pre t : Text) : Prop where
  head : ∀ c ∈ t.head?, isBlank c = false
  declaration : isPropertyDeclaration t = true
  stripped : isPropertyDeclaration (strip t) = true
  noMarker : ¬ Marker.opening pre <:+: t

namespace DeclaresUnmarked

variable {pre : Text} (h : DeclaresUnmarked pre t) (hmargin : IsMargin margin)
include h

lemma ne_nil : t ≠ [] := by
  rintro rfl
  exact absurd h.declaration (by decide)

include hmargin

lemma noMarker_margin : ¬ Marker.opening pre <:+: margin ++ t :=
  not_infix_append (hmargin.not_mem (by decide)) h.noMarker

lemma property?_margin : Marker.property? pre (margin ++ t) = none :=
  (Marker.lacks_of_not_infix (h.noMarker_margin hmargin)).property?

lemma declarationAfter (rest : List Text) :
    declarationAfter pre ((margin ++ t) :: rest) = strip t := by
  have hstrip : strip (margin ++ t) = strip t := by
    rw [strip, strip, trimBoth, trimBoth, List.dropWhile_append_of_pos hmargin.isBlank]
  have hne : (strip t).isEmpty = false := by
    rw [List.isEmpty_eq_false_iff]
    intro he
    exact absurd (he ▸ h.stripped) (by decide)
  have hcomment : startsWith (strip t) "//".toList = false := by
    by_contra hc
    rw [Bool.not_eq_false, startsWith, List.isPrefixOf_iff_prefix, String.toList_ofList] at hc
    obtain ⟨r, hr⟩ := hc
    have hstripped := h.stripped
    rw [← hr] at hstripped
    exact Bool.false_ne_true hstripped
  have hnone : (Marker.property? pre (margin ++ t)).isNone = true := by
    rw [h.property?_margin hmargin]
    rfl
  have hpasses : (!(strip t).isEmpty && !startsWith (strip t) "//".toList) = true := by
    rw [hne, hcomment]
    rfl
  rw [Source.declarationAfter, List.take_succ_cons, List.takeWhile_cons, if_pos hnone,
    List.map_cons, hstrip, List.find?_cons]
  simp only [hpasses]
  rw [Option.filter_some, if_pos h.stripped, Option.getD_some]

end DeclaresUnmarked

/-- A text that only declares a property. -/
structure Declares (t : Text) : Prop where
  head : ∀ c ∈ t.head?, isBlank c = false
  declaration : isPropertyDeclaration t = true
  stripped : isPropertyDeclaration (strip t) = true
  isLine : IsLine t
  noMarker : ¬ Marker.opening ({} : Settings).tagPrefix <:+: t
  noStruct : struct? ({} : Settings).inputStruct ({} : Settings).outputStruct t = none

namespace Declares

variable (h : Declares t) (hs : ∀ c ∈ margin, c = ' ')
include h

lemma unmarked : DeclaresUnmarked ({} : Settings).tagPrefix t :=
  ⟨h.head, h.declaration, h.stripped, h.noMarker⟩

lemma ne_nil : t ≠ [] := h.unmarked.ne_nil

include hs

lemma noMarker_margin : ¬ Marker.opening ({} : Settings).tagPrefix <:+: margin ++ t :=
  h.unmarked.noMarker_margin (isMargin_of_spaces hs)

lemma outside : Outside (margin ++ t) where
  noLabel := (Marker.lacks_of_not_infix (h.noMarker_margin hs)).sectionLabel?
  noStart := (Marker.lacks_of_not_infix (h.noMarker_margin hs)).blockStart?
  noStruct := (struct?_margin (isMargin_of_spaces hs)).trans h.noStruct
  noUsePass := usePass?_of_isPropertyDeclaration (isBlank_of_spaces hs) h.head h.declaration
  noPass := opensPass_of_isPropertyDeclaration (isBlank_of_spaces hs) h.head h.declaration

lemma silent : Silent ({} : Settings).tagPrefix (margin ++ t) where
  isLine := (isMargin_of_spaces hs).isLine_append h.isLine
  noProperty := (Marker.lacks_of_not_infix (h.noMarker_margin hs)).property?
  noGlobal := (Marker.lacks_of_not_infix (h.noMarker_margin hs)).global?

end Declares

/-- A text that none of the characters in question is in. -/
def IsPiece (t : Text) : Prop := ∀ c ∈ ['"', '\x7b', '\n', '\r', '['], c ∉ t

instance (t : Text) : Decidable (IsPiece t) := inferInstanceAs (Decidable (∀ _ ∈ _, _))

lemma isPiece_of_plain_number (n : Number) : IsPiece n.plain := by
  have hfree : ∀ c ∈ ['"', '\x7b', '\n', '\r', '['], isWord c = false ∧ c ∉ ['-', '.'] := by decide
  exact fun c hc => n.not_mem_plain (hfree c hc).1 (hfree c hc).2

lemma IsPiece.append {a b : Text} (ha : IsPiece a) (hb : IsPiece b) :
    IsPiece (a ++ b) :=
  fun c hc h => (List.mem_append.mp h).elim (ha c hc) (hb c hc)

/-- The beginning of a declaration and what follows the label. -/
def labelled (p : Property) (rest : Text) : Text :=
  p.name ++ '(' :: '"' :: (p.displayName ++ '"' :: rest)

/-- The end of a declaration with a texture. -/
def textured (kind texture : Text) : Text :=
  [',', ' '] ++ kind ++ [')', ' ', '=', ' '] ++ '"' :: (texture ++ ['"', ' ', '\x7b', '\x7d'])

/-- A declaration ends with a value, or with the name of a texture. -/
theorem synthesize_eq (p : Property) :
    (∃ piece, IsPiece piece ∧ p.synthesize = labelled p (piece ++ p.defaultValue)) ∨
    ∃ kind texture, IsPiece kind ∧ (texture = p.defaultTexture ∨ texture = "white".toList) ∧
      p.synthesize = labelled p (textured kind texture) := by
  have hname : ∀ k : PropertyKind, IsPiece (", ".toList ++ k.name ++ ") = ".toList) := by
    intro k
    cases k <;> decide
  have hvalue : ∀ k : PropertyKind, p.name ++ "(\"".toList ++ p.displayName ++
      "\", ".toList ++ k.name ++ ") = ".toList ++
      p.defaultValue = labelled p (", ".toList ++ k.name ++ ") = ".toList ++ p.defaultValue) := by
    intro k
    simp [labelled]
  have htextured :
      ∀ kind texture : Text, p.name ++ "(\"".toList ++ p.displayName ++ "\", ".toList ++ kind ++
      ") = \"".toList ++ texture ++ "\" \x7b\x7d".toList = labelled p (textured kind texture) := by
    intro kind texture
    simp [labelled, textured]
  delta Property.synthesize
  cases p.kind with
  | range =>
    refine .inl ⟨", Range(".toList ++ p.minValue.plain ++ ',' :: p.maxValue.plain ++
      ")) = ".toList, ?_, ?_⟩
    · have hcomma : IsPiece (',' :: p.maxValue.plain) :=
        IsPiece.append (a := [',']) (by decide) (isPiece_of_plain_number _)
      exact (((show IsPiece ", Range(".toList by decide).append (isPiece_of_plain_number _)).append
        hcomma).append (by decide)
    · simp [labelled]
  | texture2D =>
    refine .inr ⟨"2D".toList, _, by decide, ?_, htextured _ _⟩
    split_ifs
    · exact .inr rfl
    · exact .inl rfl
  | texture3D => exact .inr ⟨"3D".toList, _, by decide, .inl rfl, htextured _ _⟩
  | cubemap => exact .inr ⟨"Cube".toList, _, by decide, .inl rfl, htextured _ _⟩
  | _ => exact .inl ⟨_, hname _, hvalue _⟩

end Source

/-- A property whose texts can stand in its marker. -/
structure Property.Markable (pre : Text) (p : Property) : Prop where
  name : Text.IsName p.name
  displayName : Quotable pre p.displayName
  defaultValue : Quotable pre p.defaultValue
  role : Quotable pre p.role
  defaultTexture : Quotable pre p.defaultTexture

/-- A property that is read back. -/
structure Property.Legible (p : Property) : Prop where
  name : Text.IsName p.name
  displayName : Plain ({} : Settings).tagPrefix p.displayName
  defaultValue : Plain ({} : Settings).tagPrefix p.defaultValue
  role : Plain ({} : Settings).tagPrefix p.role
  defaultTexture : Plain ({} : Settings).tagPrefix p.defaultTexture
  rawDeclaration : p.rawDeclaration ≠ [] → Source.Declares p.rawDeclaration

lemma Property.Legible.markable {p : Property} (h : p.Legible) :
    p.Markable ({} : Settings).tagPrefix where
  name := h.name
  displayName := h.displayName.quotable
  defaultValue := h.defaultValue.quotable
  role := h.role.quotable
  defaultTexture := h.defaultTexture.quotable

namespace Source
open Text

variable {p : Property}

lemma isPropertyDeclaration_labelled (h : IsName p.name) (rest : Text) :
    isPropertyDeclaration (labelled p rest) = true := by
  have hparen : isWord '(' = false ∧ isBlank '(' = false := by decide
  rw [labelled, isPropertyDeclaration_append h (by simp [hparen.1]),
    skipBlanks_of_stop (by simp [hparen.2])]
  rfl

lemma strip_labelled (h : IsName p.name) (rest : Text) :
    ∃ rest', strip (labelled p rest) = p.name ++ '(' :: rest' := by
  have hdrop : (labelled p rest).dropWhile isBlank = labelled p rest :=
    dropWhile_of_stop (h.head_not_blank _)
  obtain ⟨rest', hrest⟩ := trimEnd_keeps (show isBlank '(' = false by decide) p.name
    ('"' :: (p.displayName ++ '"' :: rest))
  exact ⟨rest', by rw [strip, trimBoth, hdrop, labelled, hrest]⟩

lemma declaresUnmarked_labelled {pre : Text} (hpre : ∀ c ∈ pre, isWord c) (hname : IsName p.name)
    (hdisplay : Quotable pre p.displayName) {rest : Text} (hrest : ¬ Marker.opening pre <:+: rest) :
    DeclaresUnmarked pre (labelled p rest) := by
  refine ⟨hname.head_not_blank _, isPropertyDeclaration_labelled hname rest, ?_, ?_⟩
  · obtain ⟨rest', hstrip⟩ := strip_labelled hname rest
    have hparen : isWord '(' = false ∧ isBlank '(' = false := by decide
    rw [hstrip, isPropertyDeclaration_append hname (by simp [hparen.1]),
      skipBlanks_of_stop (by simp [hparen.2])]
    rfl
  · have hfirst : '[' ∉ p.name ++ ['(', '"'] := by
      simp [hname.not_mem (show isWord '[' = false by decide)]
    rw [labelled, show p.name ++ '(' :: '"' :: (p.displayName ++ '"' :: rest) =
      (p.name ++ ['(', '"']) ++ (p.displayName ++ '"' :: rest) by simp]
    exact not_infix_append hfirst
      (not_infix_between hpre hdisplay.marker hrest isWord_quote (by decide))

/-- What is synthesized for a property declares it and holds no marker. -/
theorem declaresUnmarked_synthesize {pre : Text} (hpre : ∀ c ∈ pre, isWord c) (h : p.Markable pre) :
    DeclaresUnmarked pre p.synthesize := by
  rcases synthesize_eq p with ⟨piece, hpiece, heq⟩ | ⟨kind, texture, hkind, htexture, heq⟩
  · rw [heq]
    exact declaresUnmarked_labelled hpre h.name h.displayName
      (not_infix_append (hpiece '[' (by decide)) h.defaultValue.marker)
  · have hmarker : ¬ Marker.opening pre <:+: texture := by
      rcases htexture with rfl | rfl
      · exact h.defaultTexture.marker
      · exact not_infix_of_not_mem (by decide)
    have hk : '[' ∉ [',', ' '] ++ kind ++ [')', ' ', '=', ' ', '"'] := by
      simp [hkind '[' (by decide)]
    rw [heq]
    refine declaresUnmarked_labelled hpre h.name h.displayName ?_
    rw [textured, show [',', ' '] ++ kind ++ [')', ' ', '=', ' '] ++ '"' ::
      (texture ++ ['"', ' ', '\x7b', '\x7d']) = ([',', ' '] ++ kind ++ [')', ' ', '=', ' ', '"']) ++
      (texture ++ '"' :: [' ', '\x7b', '\x7d']) by simp]
    exact not_infix_append hk
      (not_infix_between hpre hmarker (not_infix_of_not_mem (by decide)) isWord_quote (by decide))

lemma isLine_labelled (h : p.Legible) {rest : Text} (hn : '\n' ∉ rest) (hr : '\r' ∉ rest) :
    IsLine (labelled p rest) := by
  have hfree : ∀ c ∈ ['\n', '\r'], c ∉ rest → c ∉ p.displayName → c ∉ labelled p rest := by
    intro c hc hrest hdisplay
    have hword : isWord c = false ∧ c ∉ ['(', '"'] := by
      have : ∀ c ∈ ['\n', '\r'], isWord c = false ∧ c ∉ ['(', '"'] := by decide
      exact this c hc
    simp only [List.mem_cons, List.not_mem_nil, or_false, not_or] at hword
    simp [labelled, h.name.not_mem hword.1, hword.2, hrest, hdisplay]
  refine isLine_of_not_mem ?_ ?_
  · exact hfree _ (by decide) hn h.displayName.newline
  · exact hfree _ (by decide) hr h.displayName.carriage

/-- A declaration with a value opens no struct: no brace stands in it. -/
lemma line_labelled_value (h : p.Legible) {piece : Text} (hpiece : IsPiece piece) :
    IsLine (labelled p (piece ++ p.defaultValue)) ∧
      struct? ({} : Settings).inputStruct ({} : Settings).outputStruct
        (labelled p (piece ++ p.defaultValue)) = none := by
  have hfree : ∀ c ∈ ['\x7b', '\n', '\r'], c ∉ p.defaultValue → c ∉ piece ++ p.defaultValue := by
    intro c hc hvalue
    have hpieces : ∀ c ∈ ['\x7b', '\n', '\r'], c ∈ ['"', '\x7b', '\n', '\r', '['] := by decide
    rw [List.mem_append, not_or]
    exact ⟨hpiece c (hpieces c hc), hvalue⟩
  have hopens : '\x7b' ∉ labelled p (piece ++ p.defaultValue) := by
    have := hfree '\x7b' (by decide) h.defaultValue.opens
    simp only [labelled, List.mem_append, List.mem_cons,
      h.name.not_mem (show isWord '\x7b' = false by decide), h.displayName.opens, Char.reduceEq,
      false_or]
    simpa using this
  have hline := isLine_labelled h (hfree _ (by decide) h.defaultValue.newline)
    (hfree _ (by decide) h.defaultValue.carriage)
  exact ⟨hline, struct?_of_not_mem hopens⟩

/-- A declaration with a texture opens no struct: a quote stands before its only brace. -/
lemma line_labelled_textured (h : p.Legible) {kind texture : Text} (hkind : IsPiece kind)
    (htexture : Plain ({} : Settings).tagPrefix texture) :
    IsLine (labelled p (textured kind texture)) ∧
      struct? ({} : Settings).inputStruct ({} : Settings).outputStruct
        (labelled p (textured kind texture)) = none := by
  have hfree : ∀ c ∈ ['\n', '\r'], c ∉ texture → c ∉ textured kind texture := by
    intro c hc ht
    have hbreaks : ∀ c ∈ ['\n', '\r'], c ∉ [',', ' ', ')', '=', '"', '\x7b', '\x7d'] ∧
        c ∈ ['"', '\x7b', '\n', '\r', '['] := by decide
    obtain ⟨hother, hpieces⟩ := hbreaks c hc
    have hk : c ∉ kind := hkind c hpieces
    simp only [List.mem_cons, List.not_mem_nil, or_false, not_or] at hother
    simp [textured, hother, hk, ht]
  have hline :=
    isLine_labelled h (hfree _ (by decide) htexture.newline) (hfree _ (by decide) htexture.carriage)
  refine ⟨hline, ?_⟩
  have hshape : labelled p (textured kind texture) =
      (p.name ++ '(' :: '"' ::
        (p.displayName ++ '"' :: ([',', ' '] ++ kind ++ [')', ' ', '=', ' '] ++ '"' :: texture))) ++
        '"' :: [' '] ++ '\x7b' :: ['\x7d'] := by
    simp [labelled, textured]
  have hstructs : (({} : Settings).inputStruct ≠ [] ∧ ∀ c ∈ ({} : Settings).inputStruct, isWord c) ∧
      ({} : Settings).outputStruct ≠ [] ∧ ∀ c ∈ ({} : Settings).outputStruct, isWord c := by decide
  rw [hshape]
  refine struct?_of_stop hstructs.1 hstructs.2 ?_ (by decide) (by decide) (by decide)
  simp [h.name.not_mem (show isWord '\x7b' = false by decide), h.displayName.opens,
    hkind '\x7b' (by decide), htexture.opens]

lemma declares_synthesize (h : p.Legible) : Declares p.synthesize := by
  have hdeclares := declaresUnmarked_synthesize isWord_tagPrefix h.markable
  suffices IsLine p.synthesize ∧
      struct? ({} : Settings).inputStruct ({} : Settings).outputStruct p.synthesize = none from
    ⟨hdeclares.head, hdeclares.declaration, hdeclares.stripped, this.1, hdeclares.noMarker, this.2⟩
  rcases synthesize_eq p with ⟨piece, hpiece, heq⟩ | ⟨kind, texture, hkind, htexture, heq⟩
  · rw [heq]
    exact line_labelled_value h hpiece
  · rw [heq]
    refine line_labelled_textured h hkind ?_
    rcases htexture with rfl | rfl
    · exact h.defaultTexture
    · exact plain_of_free (by decide)

/-- The declaration of a legible property declares it. -/
theorem declares_declaration (h : p.Legible) : Declares p.declaration := by
  rw [Property.declaration]
  split_ifs with he
  · exact declares_synthesize h
  · exact h.rawDeclaration (by simpa using he)

end Source
end MarkedShader
