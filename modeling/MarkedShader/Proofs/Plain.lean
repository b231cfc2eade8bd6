import MarkedShader.Proofs.Marker

/-! Plain texts, which can stand in quotes, in markers and between braces without being taken for
any of these; those that can stand in the quotes of a marker; and the markers that are written of
them. -/
namespace MarkedShader
open Text Marker

/-- A text that can stand in the quotes of a marker: without quotes, line breaks and openings of
markers. -/
structure Quotable (pre t : Text) : Prop where
  quote : '"' ∉ t
  newline : '\n' ∉ t
  marker : ¬ opening pre <:+: t

/-- A text without quotes, line breaks, braces, comment marks and openings of markers. -/
structure Plain (pre t : Text) : Prop where
  quote : '"' ∉ t
  newline : '\n' ∉ t
  carriage : '\r' ∉ t
  opens : '\x7b' ∉ t
  closes : '\x7d' ∉ t
  slashes : ¬ "//".toList <:+: t
  marker : ¬ opening pre <:+: t

variable {pre : Text}

/-- Plain text can stand in quotes. -/
theorem Plain.quotable {t : Text} (h : Plain pre t) : Quotable pre t :=
  ⟨h.quote, h.newline, h.marker⟩

instance (pre t : Text) : Decidable (Quotable pre t) :=
  decidable_of_iff ('"' ∉ t ∧ '\n' ∉ t ∧ ¬ opening pre <:+: t)
    ⟨fun ⟨h₁, h₂, h₃⟩ => ⟨h₁, h₂, h₃⟩, fun h => ⟨h.quote, h.newline, h.marker⟩⟩

instance (pre t : Text) : Decidable (Plain pre t) :=
  decidable_of_iff ('"' ∉ t ∧ '\n' ∉ t ∧ '\r' ∉ t ∧ '\x7b' ∉ t ∧
    '\x7d' ∉ t ∧ ¬ "//".toList <:+: t ∧ ¬ opening pre <:+: t)
    ⟨fun ⟨h₁, h₂, h₃, h₄, h₅, h₆, h₇⟩ => ⟨h₁, h₂, h₃, h₄, h₅, h₆, h₇⟩,
      fun h => ⟨h.quote, h.newline, h.carriage, h.opens, h.closes, h.slashes, h.marker⟩⟩

lemma opening_eq (pre : Text) : opening pre = '[' :: (pre ++ ['_']) := rfl

lemma not_mem_opening (hpre : ∀ c ∈ pre, isWord c) {c : Char} (hc : isWord c = false)
    (hne : c ≠ '[') : c ∉ opening pre := by
  rw [opening_eq, List.mem_cons, not_or]
  refine ⟨hne, fun h => ?_⟩
  rcases List.mem_append.mp h with h | h
  · exact not_mem_of_isWord hpre hc h
  · rw [List.mem_singleton.mp h] at hc
    exact absurd hc (by decide)

/-- No marker opens without a bracket. -/
theorem not_infix_of_not_mem {t : Text} (h : '[' ∉ t) : ¬ opening pre <:+: t :=
  fun hi => h (hi.subset List.mem_cons_self)

/-- A marker that opens in the second of two texts does so within it, if the first has no
bracket. -/
theorem not_infix_append {a t : Text} (ha : '[' ∉ a)
    (ht : ¬ opening pre <:+: t) : ¬ opening pre <:+: a ++ t :=
  fun h => ht (infix_of_head_not_mem ha h)

/-- No marker opens across a character that belongs to no word. -/
theorem not_infix_between (hpre : ∀ c ∈ pre, isWord c) {a b : Text}
    {c : Char} (ha : ¬ opening pre <:+: a) (hb : ¬ opening pre <:+: b) (hc : isWord c = false)
    (hne : c ≠ '[') : ¬ opening pre <:+: a ++ c :: b :=
  fun h => (infix_append_cons (not_mem_opening hpre hc hne) h).elim ha hb

lemma not_infix_nil : ¬ opening pre <:+: [] :=
  fun h => absurd (List.infix_nil.mp h) (List.cons_ne_nil _ _)

lemma isWord_quote : isWord '"' = false := by decide

/-- A text without any of the characters in question is plain. -/
theorem plain_of_free {t : Text}
    (h : ∀ c ∈ ['"', '\n', '\r', '\x7b', '\x7d', '/', '['], c ∉ t) : Plain pre t where
  quote := h _ (by decide)
  newline := h _ (by decide)
  carriage := h _ (by decide)
  opens := h _ (by decide)
  closes := h _ (by decide)
  slashes := fun hi => h '/' (by decide) (hi.subset (by decide))
  marker := not_infix_of_not_mem (h _ (by decide))

variable (hpre : ∀ c ∈ pre, isWord c)
include hpre

/-- No marker opens in a text because it is fitted between quotes. -/
theorem not_infix_quote {v : Text}
    (h : ¬ opening pre <:+: v) : ¬ opening pre <:+: Attributes.quote v := by
  rintro ⟨a, b, hab⟩
  obtain ⟨left, b', rfl, hleft, -⟩ := List.map_eq_append_iff.mp hab.symm
  obtain ⟨a', u, rfl, -, hu⟩ := List.map_eq_append_iff.mp hleft
  -- the characters that take the place of others are none of an opening
  have hsame : ∀ c ∈ u, (if c = '"' then '\'' else if c = '\n' then ' ' else c) = c := by
    intro c hc
    have hmem : (if c = '"' then '\'' else if c = '\n' then ' ' else c) ∈ opening pre :=
      hu ▸ List.mem_map_of_mem hc
    split_ifs at hmem ⊢
    · exact absurd hmem (not_mem_opening hpre (by decide) (by decide))
    · exact absurd hmem (not_mem_opening hpre (by decide) (by decide))
    · rfl
  rw [List.map_congr_left hsame, List.map_id'] at hu
  exact h (hu ▸ List.infix_append a' u b')

lemma quotable_quote {v : Text} (h : ¬ opening pre <:+: v) : Quotable pre (Attributes.quote v) :=
  ⟨(Attributes.quote_free v).1, (Attributes.quote_free v).2, not_infix_quote hpre h⟩

/-- No marker opens in a quotable text, nor where its quotes are. -/
theorem not_infix_inQuotes {t : Text} (h : Quotable pre t) : ¬ opening pre <:+: inQuotes t := by
  rw [inQuotes_eq h.quote h.newline]
  exact not_infix_append (a := ['"']) (by decide)
    (not_infix_between hpre h.marker not_infix_nil isWord_quote (by decide))

/-- No marker opens in attributes with quotable values. -/
theorem not_infix_write {as : Attributes} (hkeys : ∀ p ∈ as, IsName p.1)
    (h : ∀ p ∈ as, Quotable pre p.2) : ¬ opening pre <:+: as.write := by
  induction as with
  | nil => exact not_infix_nil
  | cons p ps ih =>
    have hp := h p List.mem_cons_self
    have hps := ih (fun p hp => hkeys p (List.mem_cons_of_mem _ hp)) fun p hp =>
      h p (List.mem_cons_of_mem _ hp)
    have hkey : '[' ∉ p.1 := not_mem_of_isWord (hkeys p List.mem_cons_self).2 (by decide)
    have hrest : ¬ opening pre <:+: if ps.isEmpty then [] else ' ' :: Attributes.write ps := by
      split_ifs
      · exact not_infix_nil
      · exact not_infix_append (a := [' ']) (by decide) hps
    rw [Attributes.write_cons, Attributes.writePair_eq hp.quote hp.newline]
    generalize (if ps.isEmpty then [] else ' ' :: Attributes.write ps) = rest at hrest ⊢
    rw [show p.1 ++ '=' :: '"' :: (p.2 ++ ['"']) ++ rest =
      (p.1 ++ ['=', '"']) ++ (p.2 ++ '"' :: rest) by simp]
    refine not_infix_append ?_ (not_infix_between hpre hp.marker hrest isWord_quote (by decide))
    simp [hkey]

omit hpre in
/-- What is in none of the keys and values, and in no punctuation, is not in the attributes. -/
theorem not_mem_write {as : Attributes} (hkeys : ∀ p ∈ as, IsName p.1)
    (h : ∀ p ∈ as, Quotable pre p.2) {c : Char} (hc : isWord c = false) (hne : c ∉ ['=', '"', ' '])
    (hv : ∀ p ∈ as, c ∉ p.2) : c ∉ as.write := by
  simp only [List.mem_cons, List.not_mem_nil, or_false, not_or] at hne
  induction as with
  | nil => exact List.not_mem_nil
  | cons p ps ih =>
    have hp := h p List.mem_cons_self
    have hps := ih (fun p hp => hkeys p (List.mem_cons_of_mem _ hp))
      (fun p hp => h p (List.mem_cons_of_mem _ hp)) fun p hp => hv p (List.mem_cons_of_mem _ hp)
    have hkey : c ∉ p.1 := not_mem_of_isWord (hkeys p List.mem_cons_self).2 hc
    rw [Attributes.write_cons, Attributes.writePair_eq hp.quote hp.newline]
    split_ifs <;> simp [hkey, hne, hv p List.mem_cons_self, hps]

variable {margin : Text} (hm : ∀ c ∈ margin, isBlank c)
include hm

/-- The label of a section is read back. -/
theorem sectionLabel?_sectionLabel {label : Text} (h : Quotable pre label) (hne : label ≠ []) :
    sectionLabel? pre (margin ++ sectionLabel pre label) = some label :=
  (search_format hpre hm (not_infix_inQuotes hpre h) needsTag_namedAt?).trans
    (namedAt?_format h.quote h.newline hne)

/-- The title of a block is read back. -/
theorem blockStart?_blockStart {title : Text} (h : Quotable pre title) (hne : title ≠ []) :
    blockStart? pre (margin ++ blockStart pre title) = some title := by
  rw [blockStart, if_neg (by simpa using hne)]
  exact (search_format hpre hm (not_infix_inQuotes hpre h) needsTag_namedAt?).trans
    (namedAt?_format h.quote h.newline hne)

/-- The intent of a block is read back. -/
theorem intent?_intent {t : Text} (h : Quotable pre t) :
    intent? pre (margin ++ intent pre t) = some t :=
  (search_format hpre hm (not_infix_inQuotes hpre h) needsTag_quotedAt?).trans
    (quotedAt?_format h.quote h.newline)

/-- The end of a block is read back. -/
theorem isBlockEnd_blockEnd : isBlockEnd pre (margin ++ blockEnd pre) = true := by
  rw [isBlockEnd, blockEnd, search_format hpre hm not_infix_nil needsTag_plainAt?, plainAt?_format]
  rfl

/-- The mark of a disabled block is read back. -/
theorem isDisabled_disabled : isDisabled pre (margin ++ disabled pre) = true := by
  rw [isDisabled, disabled, search_format hpre hm not_infix_nil needsTag_plainAt?, plainAt?_format]
  rfl

omit hm in
lemma not_infix_param {name role : Text} (h : Quotable pre name) (hr : Quotable pre role) :
    ¬ opening pre <:+: inQuotes name ++ " role=".toList ++ inQuotes role := by
  have hrole := not_infix_inQuotes hpre hr
  rw [inQuotes_eq h.quote h.newline, String.toList_ofList,
    show '"' :: (name ++ ['"']) ++ [' ', 'r', 'o', 'l', 'e', '='] ++ inQuotes role =
      ['"'] ++ (name ++ '"' :: ([' ', 'r', 'o', 'l', 'e', '='] ++ inQuotes role)) by simp]
  exact not_infix_append (by decide)
    (not_infix_between hpre h.marker (not_infix_append (by decide) hrole) isWord_quote (by decide))

/-- A parameter and its role are read back. -/
theorem param?_param {name role : Text} (h : Quotable pre name)
    (hne : name ≠ []) (hr : Quotable pre role) :
    param? pre (margin ++ param pre name role) = some (name, some role) :=
  (search_format hpre hm (not_infix_param hpre h hr) needsTag_paramAt?).trans
    (paramAt?_format h.quote h.newline hne hr.quote hr.newline)

/-- A marker with attributes holds them as they are written. -/
theorem search_attributes {kind : MarkerKind} {as : Attributes} (hne : as ≠ [])
    (hkeys : ∀ p ∈ as, IsName p.1) (h : ∀ p ∈ as, Quotable pre p.2) :
    search (attributesAt? pre kind) (margin ++ format pre kind as.write) = some as.write := by
  rw [search_format hpre hm (not_infix_write hpre hkeys h) needsTag_attributesAt?]
  cases as with
  | nil => contradiction
  | cons p ps =>
    obtain ⟨hword, hw⟩ := hkeys p List.mem_cons_self
    refine attributesAt?_format ?_ ?_
      (not_mem_write hkeys h (by decide) (by decide) fun p hp => (h p hp).newline)
    · rw [Attributes.write_cons]
      simp [Attributes.writePair]
    · rw [Attributes.write_cons]
      cases hp : p.1 with
      | nil => exact absurd hp hword
      | cons c k =>
        simp only [Attributes.writePair, hp, List.cons_append, List.head?_cons, Option.mem_some_iff]
        rintro _ rfl
        exact isBlank_of_isWord (hw c (hp ▸ List.mem_cons_self))

end MarkedShader
