import MarkedShader.Proofs.Source.Stable

/-! Which properties come back unchanged from the lines they are written in, when they have no
declaration of their own. -/
namespace MarkedShader
open Text

/-- A property whose declaration is made from the rest of it, and whose bounds are told by what is
written of it. -/
structure Property.Derived (pre : Text) (p : Property) : Prop extends p.Markable pre where
  derived : p.rawDeclaration = []
  trimmed : ∀ c ∈ p.defaultValue.getLast?, isBlank c = false
  fixed : p.kind ≠ .range → p.minValue = .ofNat 0 ∧ p.maxValue = .ofNat 1
  bounds : p.kind = .range → Source.numberOr (.ofNat 0) p.minValue.plain = p.minValue ∧
    Source.numberOr (.ofNat 1) p.maxValue.plain = p.maxValue

/-- A property after it has been written and read. A flat texture without a name is read as the
white one that its declaration names, and the declaration of an empty value, which has lost the
blank at its end, is taken for one of its own. -/
def Property.reread (p : Property) : Property :=
  if p.kind = .texture2D ∧ p.defaultTexture = [] then { p with defaultTexture := "white".toList }
  else if p.kind.isTexture = false ∧ p.defaultValue = [] then
    { p with rawDeclaration := strip p.synthesize }
  else p

/-- A flat texture is named, and what is no texture has a value. -/
def Property.NamesDefault (p : Property) : Prop :=
  (p.kind = .texture2D → p.defaultTexture ≠ []) ∧ (p.kind.isTexture = false → p.defaultValue ≠ [])

instance (p : Property) : Decidable p.NamesDefault := inferInstanceAs (Decidable (_ ∧ _))

namespace Source

variable {pre : Text} {p : Property}

lemma reread_eq_self_iff (h : p.Derived pre) : p.reread = p ↔ p.NamesDefault := by
  unfold Property.reread Property.NamesDefault
  split_ifs with hflat hvalue
  · refine iff_of_false (fun he => ?_) fun hnames => hnames.1 hflat.1 hflat.2
    have hwhite : "white".toList = p.defaultTexture := congrArg Property.defaultTexture he
    rw [hflat.2] at hwhite
    exact absurd hwhite (by decide)
  · refine iff_of_false (fun he => ?_) fun hnames => hnames.2 hvalue.1 hvalue.2
    have hraw : strip p.synthesize = p.rawDeclaration := congrArg Property.rawDeclaration he
    obtain ⟨front, hfront⟩ := synthesize_of_value hvalue.1
    obtain ⟨rest, hrest⟩ := strip_labelled h.name (front ++ ' ' :: p.defaultValue)
    rw [hfront, hrest, h.derived] at hraw
    simp at hraw
  · refine iff_of_true rfl
      ⟨fun hkind hnone => hflat ⟨hkind, hnone⟩, fun hkind hnone => hvalue ⟨hkind, hnone⟩⟩

lemma declaration_of_derived (h : p.Derived pre) : p.declaration = p.synthesize := by
  rw [Property.declaration, h.derived]
  rfl

/-- Only the texture and the declaration of a derived property can change. -/
lemma rewritten_of_derived (h : p.Derived pre) (texture : Text)
    (htexture : (if p.kind.isTexture && p.defaultTexture.isEmpty then
      (defaultTexture? (strip p.synthesize)).getD []
      else p.defaultTexture) = texture) :
    p.rewritten = { p with
      defaultTexture := texture
      rawDeclaration :=
        if strip p.synthesize = ({ p with defaultTexture := texture } : Property).synthesize then []
        else strip p.synthesize } := by
  have hmin : (if p.kind = .range then numberOr (.ofNat 0) p.minValue.plain else .ofNat 0) =
      p.minValue := by
    split_ifs with hr
    · exact (h.bounds hr).1
    · exact (h.fixed hr).1.symm
  have hmax : (if p.kind = .range then numberOr (.ofNat 1) p.maxValue.plain else .ofNat 1) =
      p.maxValue := by
    split_ifs with hr
    · exact (h.bounds hr).2
    · exact (h.fixed hr).2.symm
  subst htexture
  simp only [Property.rewritten, declaration_of_derived h, hmin, hmax]

/-- A texture is read as it is, but a flat one always has a name afterwards. -/
lemma rewritten_of_texture (h : p.Derived pre) (hkind : p.kind.isTexture = true) :
    p.rewritten = p.reread := by
  have hsame : ({ p with rawDeclaration := [] } : Property) = p := by rw [← h.derived]
  have hstrip := strip_synthesize_of_texture h.name hkind
  have hnot : ¬ (p.kind.isTexture = false ∧ p.defaultValue = []) :=
    fun hvalue => absurd (hkind.symm.trans hvalue.1) (by decide)
  by_cases hnone : p.defaultTexture = []
  · have hfound := defaultTexture?_synthesize h.name h.displayName.quote hkind hnone
    by_cases hflat : p.kind = .texture2D
    · have hsynthesize :
          ({ p with defaultTexture := "white".toList } : Property).synthesize = p.synthesize := by
        simp [Property.synthesize, hflat, hnone]
      have hwhite := rewritten_of_derived h "white".toList
        (by rw [hstrip, hfound, hkind, hnone, if_pos hflat]; rfl)
      rw [hwhite, hstrip, hsynthesize, if_pos rfl, Property.reread,
        if_pos ⟨hflat, hnone⟩, ← h.derived]
    · rw [rewritten_of_derived h p.defaultTexture
        (by rw [hstrip, hfound, hkind, hnone, if_neg hflat]; rfl), hstrip, if_pos rfl,
        Property.reread, if_neg fun hand => hflat hand.1, if_neg hnot, hsame]
  · rw [rewritten_of_derived h p.defaultTexture (by simp [hnone]), hstrip, if_pos rfl,
      Property.reread, if_neg fun hand => hnone hand.2, if_neg hnot, hsame]

/-- What is no texture is read as it is, if it has a value. -/
lemma rewritten_of_value (h : p.Derived pre) (hkind : p.kind.isTexture = false) :
    p.rewritten = p.reread := by
  have hsame : ({ p with rawDeclaration := [] } : Property) = p := by rw [← h.derived]
  have hflat : ¬ (p.kind = .texture2D ∧ p.defaultTexture = []) := by
    rintro ⟨hflat, -⟩
    rw [hflat] at hkind
    exact absurd hkind (by decide)
  have hstrip := strip_synthesize_of_value h.name hkind
  rw [rewritten_of_derived h p.defaultTexture (by simp [hkind]), Property.reread, if_neg hflat]
  by_cases hvalue : p.defaultValue = []
  · rw [if_neg fun he => (hstrip.mp he).1 hvalue, if_pos ⟨hkind, hvalue⟩]
  · rw [if_pos (hstrip.mpr ⟨hvalue, h.trimmed⟩), if_neg fun hand => hvalue hand.2, hsame]

/-- A derived property is read as it is, or as the one that its declaration describes. -/
lemma rewritten_eq_reread (h : p.Derived pre) : p.rewritten = p.reread := by
  cases hkind : p.kind.isTexture with
  | true => exact rewritten_of_texture h hkind
  | false => exact rewritten_of_value h hkind

section
variable {settings : Settings} {ps : List Property}

/-- Derived properties are read where they are written, under any indentation. -/
lemma properties_written (words : ∀ c ∈ settings.tagPrefix, isWord c)
    {indent : Text} (hindent : IsMargin indent) (derived : ∀ p ∈ ps, p.Derived settings.tagPrefix)
    (distinct : (ps.map (·.name)).Nodup) (level : Nat) (filled : Bool) :
    properties settings.tagPrefix ((Writing.properties settings ps).lines indent level filled) =
      (ps.map Property.reread, []) := by
  have hm : ∀ level, IsMargin (Layout.margin indent level) := Layout.isMargin_margin hindent
  have hfixed : ∀ t : Text, '[' ∉ t →
      Marker.property? settings.tagPrefix (Layout.margin indent level ++ t) = none :=
    fun t ht => (Marker.lacks_of_not_infix
      (not_infix_of_not_mem ((hm level).not_mem_append (by decide) ht))).property?
  have hdeclares : ∀ p ∈ ps, p.Markable settings.tagPrefix ∧
      DeclaresUnmarked settings.tagPrefix p.declaration := by
    intro p hp
    rw [declaration_of_derived (derived p hp)]
    exact ⟨(derived p hp).toMarkable, declaresUnmarked_synthesize words (derived p hp).toMarkable⟩
  rw [lines_properties fun p hp => (hdeclares p hp).2.ne_nil, properties, List.cons_append,
    propertiesFrom, hfixed _ (by decide)]
  simp only
  rw [propertiesFrom_propertyLinesUnder words (hm (level+1)) hdeclares distinct
    (fun _ _ => List.not_mem_nil) (fun l hl => List.mem_singleton.mp hl ▸ hfixed _ (by decide))]
  exact congrArg (·, []) (List.map_congr_left fun p hp => rewritten_eq_reread (derived p hp))

lemma map_reread_eq_self_iff (derived : ∀ p ∈ ps, p.Derived pre) :
    ps.map Property.reread = ps ↔ ∀ p ∈ ps, p.NamesDefault := by
  have hself : ps.map Property.reread = ps ↔ ∀ p ∈ ps, p.reread = id p := by
    rw [← List.map_inj_left, List.map_id]
  rw [hself]
  exact forall₂_congr fun p hp => reread_eq_self_iff (derived p hp)

end

/-- The properties that are read where derived properties are written, and when these are the
same. -/
theorem properties_reread {settings : Settings} (words : ∀ c ∈ settings.tagPrefix, isWord c)
    {indent : Text} (hindent : IsMargin indent) {ps : List Property}
    (derived : ∀ p ∈ ps, p.Derived settings.tagPrefix) (distinct : (ps.map (·.name)).Nodup)
    (level : Nat) (filled : Bool) :
    properties settings.tagPrefix ((Writing.properties settings ps).lines indent level filled) =
        (ps.map Property.reread, []) ∧
      (properties settings.tagPrefix ((Writing.properties settings ps).lines indent level filled) =
        (ps, []) ↔
        ∀ p ∈ ps, p.NamesDefault) := by
  have hread := properties_written words hindent derived distinct level filled
  refine ⟨hread, ?_⟩
  rw [hread, Prod.mk.injEq, and_iff_left rfl]
  exact map_reread_eq_self_iff derived

/-- A number without a value, a flat texture without a name, and a range. -/
def bareProperties : List Property :=
  [{ name := "_Glow".toList, displayName := "Glow".toList },
   { name := "_Albedo".toList, displayName := "Base map".toList
     kind := .texture2D, role := "albedo".toList },
   { name := "_Softness".toList, displayName := "Soft, or not".toList, kind := .range
     defaultValue := "0.5".toList
     minValue := .real (.ofDecimal true ⟨1234567, -7⟩)
     maxValue := .real (.ofDecimal false ⟨1, -5⟩) }]

/-- The range comes back with every digit of its bounds, but the number has a declaration and the
texture a name. -/
theorem properties_reread_bare : (∀ c ∈ ({} : Settings).tagPrefix, isWord c) ∧ IsMargin ['\t'] ∧
    (∀ p ∈ bareProperties, p.Derived ({} : Settings).tagPrefix) ∧
      (bareProperties.map (·.name)).Nodup ∧
    properties ({} : Settings).tagPrefix
      ((Writing.properties {} bareProperties).lines ['\t'] 1 false) =
      (bareProperties.map Property.reread, []) ∧
    bareProperties.map (fun p => (p.reread.rawDeclaration, p.reread.defaultTexture)) =
      [("_Glow(\"Glow\", Float) =".toList, []), ([], "white".toList), ([], [])] ∧ properties
        ({} : Settings).tagPrefix ((Writing.properties {} bareProperties).lines ['\t'] 1 false) ≠
      (bareProperties, []) := by
  have words : ∀ c ∈ ({} : Settings).tagPrefix, isWord c := by decide
  have hindent : IsMargin ['\t'] := fun c hc => .inr (List.mem_singleton.mp hc)
  have derived : ∀ p ∈ bareProperties, p.Derived ({} : Settings).tagPrefix := by
    intro p hp
    simp only [bareProperties, List.mem_cons, List.not_mem_nil, or_false] at hp
    obtain rfl | rfl | rfl := hp
    all_goals exact
      { name := by decide, displayName := by decide, defaultValue := by decide, role := by decide
        defaultTexture := by decide, derived := by decide, trimmed := by decide, fixed := by decide
        bounds := by decide +kernel }
  have distinct : (bareProperties.map (·.name)).Nodup := by decide
  have hread := properties_reread words hindent derived distinct 1 false
  refine ⟨words, hindent, derived, distinct, hread.1, by decide +kernel, fun hsame => ?_⟩
  have hnames := hread.2.mp hsame _ (List.mem_cons_of_mem _ List.mem_cons_self)
  exact hnames.1 rfl rfl

end Source
end MarkedShader
