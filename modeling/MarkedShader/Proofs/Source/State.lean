import MarkedShader.Proofs.Number.Numeral
import MarkedShader.Proofs.Source.Block
import MarkedShader.Source.Walk
import MarkedShader.Writing.Document

/-! The lines of a pass before its program are read back: its name, its light mode and its render
state. -/
namespace MarkedShader.Source
open Text

variable {settings : Settings} {margin : Text} {s : Progress}

lemma lightMode?_of_tag {before mode : Text} (after : Text) (hb : '"' ∉ before) (h : '"' ∉ mode) :
    lightMode? (before ++ "\"LightMode\"=\"".toList ++ (mode ++ '"' :: after)) = some mode := by
  rw [String.toList_ofList, List.append_assoc]
  delta lightMode?
  rw [search_append, String.toList_ofList]
  · refine search_of_reads ?_
    have hafter : ∀ t, after? ['"', 'L', 'i', 'g', 'h', 't', 'M', 'o', 'd', 'e', '"']
      (['"', 'L', 'i', 'g', 'h', 't', 'M', 'o', 'd', 'e', '"', '=', '"'] ++ t) =
        some ('=' :: '"' :: t) := fun _ => rfl
    have hskip : ∀ t, skipBlanks ('=' :: t) = '=' :: t := fun _ => rfl
    have hequals : ∀ t : Text, after? ['='] ('=' :: t) = some t := fun _ => rfl
    have hskip' : ∀ t, skipBlanks ('"' :: t) = '"' :: t := fun _ => rfl
    simp only [hafter, Option.bind_eq_bind, Option.bind_some, hskip, hequals,
      hskip', quoted?_append h]
  · intro a b hab hne
    obtain ⟨c, b, rfl⟩ := List.exists_cons_of_ne_nil hne
    have hc : '"' ≠ c := by
      rintro rfl
      exact hb (hab ▸ List.mem_append_right a List.mem_cons_self)
    rw [String.toList_ofList, List.cons_append, after?_of_head_ne hc]
    rfl

/-- What a light mode is written between. -/
def modeOpening : Text := "Tags \x7b \"LightMode\"=\"".toList

lemma tags_lightMode (mode : Text) :
    Writing.tags [("LightMode", mode)] = modeOpening ++ (mode ++ '"' :: [' ', '\x7d']) := by
  delta Writing.tags modeOpening
  simp only [List.map_cons, List.map_nil, List.intercalate_singleton, Writing.inDoubleQuotes]
  rw [String.toList_ofList, String.toList_ofList, String.toList_ofList, String.toList_ofList]
  simp

section
variable (hpre : ∀ c ∈ settings.tagPrefix, isWord c) (hm : ∀ c ∈ margin, c = ' ')
include hpre hm

/-- A plain text in quotes after a keyword. -/
theorem unmarked_quoted {before t : Text} (h : Plain settings.tagPrefix t)
    (hbefore : '[' ∉ before ∧ '\x7b' ∉ before ∧ '\n' ∉ before) :
    Unmarked settings (margin ++ (before ++ '"' :: (t ++ ['"']))) := by
  obtain ⟨ho, hb, hn⟩ := hbefore
  refine ⟨⟨?_, ?_⟩, ?_, struct?_of_not_mem ?_⟩
  · simp [not_mem_of_spaces hm, hn, h.newline]
  · rw [show margin ++ (before ++ '"' :: (t ++ ['"'])) =
      (margin ++ before ++ '"' :: t) ++ ['"'] by simp, List.getLast?_concat]
    decide
  · rw [show margin ++ (before ++ '"' :: (t ++ ['"'])) =
      (margin ++ before ++ ['"']) ++ (t ++ '"' :: []) by simp]
    refine not_infix_append ?_
      (not_infix_between hpre h.marker not_infix_nil isWord_quote (by decide))
    simp [not_mem_of_spaces hm, ho]
  · simp [not_mem_of_spaces hm, hb, h.opens]

lemma Reads.name {name : Text} (h : Plain settings.tagPrefix name)
    (hs : ∀ b, s.program b → b = false) (hnone : s.found.name = none) :
    Reads settings s [margin ++ ("Name ".toList ++ Writing.inDoubleQuotes name)]
      (s.update fun c => { c with name := some name }) := by
  have hline : "Name ".toList ++ Writing.inDoubleQuotes name =
      ['N', 'a', 'm', 'e', ' '] ++ '"' :: (name ++ ['"']) := by
    rw [String.toList_ofList]
    rfl
  have hskip : ∀ t, skipBlanks (margin ++ 'N' :: t) = 'N' :: t := fun t =>
    skipBlanks_margin (isBlank_of_spaces hm) rfl
  have hread :
      passName? (margin ++ (['N', 'a', 'm', 'e', ' '] ++ '"' :: (name ++ ['"']))) = some name := by
    have hafter :
        after? ['N', 'a', 'm', 'e'] ('N' :: 'a' :: 'm' :: 'e' :: ' ' :: '"' :: (name ++ ['"'])) =
      some (' ' :: '"' :: (name ++ ['"'])) := rfl
    have hblanks : blanks? (' ' :: '"' :: (name ++ ['"'])) = some ('"' :: (name ++ ['"'])) := rfl
    delta passName?
    simp only [List.cons_append, List.nil_append, hskip]
    rw [String.toList_ofList, hafter]
    simp only [Option.bind_eq_bind, Option.bind_some, hblanks, quoted?_append h.quote]
  rw [hline]
  refine .stateLine (unmarked_quoted hpre hm h (by decide)) ?_ ?_ hs (fun i c rest hc => ?_)
    fun c => ⟨rfl, rfl⟩
  · exact ⟨startsProgram_of_head (isBlank_of_spaces hm) rfl (by decide),
      endsProgram_of_head (isBlank_of_spaces hm) rfl (by decide)⟩
  · refine braceDelta_of_not_mem ?_ ?_
    · simp [not_mem_of_spaces hm, h.opens]
    · simp [not_mem_of_spaces hm, h.closes]
  · have hname : c.name = none := (congrArg (·.name) hc).trans hnone
    simp only [Content.takeStateLine, hread, hname]

/-- One pair of a tag list. -/
def tagPair (p : String × Text) : Text := '"' :: (p.1.toList ++ '"' :: '=' :: '"' :: (p.2 ++ ['"']))

omit hpre hm in
lemma tags_eq (pairs : List (String × Text)) : Writing.tags pairs = ['T', 'a', 'g', 's', ' '] ++
    '\x7b' :: (' ' :: List.intercalate [' '] (pairs.map tagPair) ++ [' ', '\x7d']) := by
  have hpair : (fun p : String × Text => Writing.inDoubleQuotes p.1.toList ++ '=' ::
      Writing.inDoubleQuotes p.2) = tagPair := by
    funext p
    simp [tagPair, Writing.inDoubleQuotes]
  change "Tags \x7b ".toList ++ List.intercalate [' '] (pairs.map fun p =>
    Writing.inDoubleQuotes p.1.toList ++ '=' :: Writing.inDoubleQuotes p.2) ++ " \x7d".toList = _
  rw [hpair, String.toList_ofList, String.toList_ofList]
  simp

omit hpre hm in
lemma not_mem_tagPairs {pairs : List (String × Text)} {c : Char} (hc : c ∉ ['"', '=', ' '])
    (hkeys : ∀ p ∈ pairs, c ∉ p.1.toList) (h : ∀ p ∈ pairs, c ∉ p.2) :
    c ∉ List.intercalate [' '] (pairs.map tagPair) := by
  simp only [List.mem_cons, List.not_mem_nil, or_false, not_or] at hc
  induction pairs with
  | nil => exact List.not_mem_nil
  | cons p pairs ih =>
    have hpair : c ∉ tagPair p := by
      simp [tagPair, hc, hkeys p List.mem_cons_self, h p List.mem_cons_self]
    have hrest := ih (fun p hp => hkeys p (List.mem_cons_of_mem _ hp)) fun p hp =>
      h p (List.mem_cons_of_mem _ hp)
    cases pairs with
    | nil => simpa using hpair
    | cons q pairs =>
      rw [List.map_cons, List.map_cons, List.intercalate_cons_cons, ← List.map_cons,
        List.mem_append, List.mem_append, not_or, not_or, List.mem_singleton]
      exact ⟨⟨hpair, hc.2.2⟩, hrest⟩

omit hm in
lemma not_infix_tagPairs {pairs : List (String × Text)} (hkeys : ∀ p ∈ pairs, '[' ∉ p.1.toList)
    (h : ∀ p ∈ pairs, Plain settings.tagPrefix p.2) {after : Text}
    (ha : ¬ Marker.opening settings.tagPrefix <:+: after) :
    ¬ Marker.opening settings.tagPrefix <:+:
      List.intercalate [' '] (pairs.map tagPair) ++ after := by
  induction pairs with
  | nil => exact ha
  | cons p pairs ih =>
    have hpair : ∀ rest, ¬ Marker.opening settings.tagPrefix <:+: rest →
        ¬ Marker.opening settings.tagPrefix <:+: tagPair p ++ rest := by
      intro rest hrest
      rw [tagPair, show '"' :: (p.1.toList ++ '"' :: '=' :: '"' :: (p.2 ++ ['"'])) ++ rest =
        ('"' :: (p.1.toList ++ ['"', '=', '"'])) ++ (p.2 ++ '"' :: rest) by simp]
      refine not_infix_append ?_
        (not_infix_between hpre (h p List.mem_cons_self).marker hrest isWord_quote (by decide))
      simp [hkeys p List.mem_cons_self]
    have hrest := ih (fun p hp => hkeys p (List.mem_cons_of_mem _ hp)) fun p hp =>
      h p (List.mem_cons_of_mem _ hp)
    cases pairs with
    | nil => simpa using hpair after ha
    | cons q pairs =>
      rw [List.map_cons, List.map_cons, List.intercalate_cons_cons, ← List.map_cons,
        List.append_assoc, List.append_assoc]
      exact hpair _ (not_infix_append (by decide) hrest)

lemma unmarked_tags {pairs : List (String × Text)}
    (hkeys : ∀ p ∈ pairs, ∀ c ∈ ['[', '\x7b', '\n'], c ∉ p.1.toList)
    (h : ∀ p ∈ pairs, Plain settings.tagPrefix p.2) :
    Unmarked settings (margin ++ Writing.tags pairs) := by
  have hspace : ∀ {c}, c ≠ ' ' → c ∉ margin := not_mem_of_spaces hm
  have hnewline := not_mem_tagPairs (by decide) (fun p hp => hkeys p hp '\n' (by decide))
    fun p hp => (h p hp).newline
  have hopens := not_mem_tagPairs (by decide) (fun p hp => hkeys p hp '\x7b' (by decide))
    fun p hp => (h p hp).opens
  have hmarker := not_infix_tagPairs hpre (fun p hp => hkeys p hp '[' (by decide)) h
    (not_infix_of_not_mem (show '[' ∉ [' ', '\x7d'] by decide))
  rw [tags_eq]
  generalize List.intercalate [' '] (pairs.map tagPair) = inner at *
  refine ⟨⟨?_, ?_⟩, ?_, ?_⟩
  · simp [hspace, hnewline]
  · rw [show margin ++ (['T', 'a', 'g', 's', ' '] ++ '\x7b' :: (' ' :: inner ++ [' ', '\x7d'])) =
      (margin ++ ['T', 'a', 'g', 's', ' '] ++ '\x7b' :: (' ' :: inner ++ [' '])) ++
      ['\x7d'] by simp, List.getLast?_concat]
    decide
  · rw [show margin ++ (['T', 'a', 'g', 's', ' '] ++ '\x7b' :: (' ' :: inner ++ [' ', '\x7d'])) =
      (margin ++ ['T', 'a', 'g', 's', ' ', '\x7b', ' ']) ++ (inner ++ [' ', '\x7d']) by simp]
    exact not_infix_append (by simp [hspace]) hmarker
  · rw [show margin ++ (['T', 'a', 'g', 's', ' '] ++ '\x7b' :: (' ' :: inner ++ [' ', '\x7d'])) =
      (margin ++ ['T', 'a', 'g', 's', ' ']) ++ '\x7b' :: (' ' :: inner ++ [' ', '\x7d']) by simp]
    refine struct?_of_not_infix (by simp [hspace]) (by simp [hopens]) fun hi => ?_
    have hr : 'r' ∈ margin ++ ['T', 'a', 'g', 's', ' '] := hi.subset (by decide)
    simp [hspace] at hr

lemma unmarked_lightMode {mode : Text} (h : Plain settings.tagPrefix mode) :
    Unmarked settings (margin ++ Writing.tags [("LightMode", mode)]) := by
  refine unmarked_tags hpre hm ?_ (by simpa using h)
  have : ∀ c ∈ ['[', '\x7b', '\n'], c ∉ "LightMode".toList := by decide
  exact fun p hp => (List.mem_singleton.mp hp) ▸ this

omit hpre in
lemma braceDelta_lightMode {mode : Text} (h : Plain settings.tagPrefix mode) :
    braceDelta (margin ++ Writing.tags [("LightMode", mode)]) = 0 := by
  have hspace : ∀ {c}, c ≠ ' ' → c ∉ margin := not_mem_of_spaces hm
  rw [tags_lightMode, ← List.append_assoc]
  have hcomment : ¬ ['/', '/'] <:+: margin ++ modeOpening ++ (mode ++ '"' :: [' ', '\x7d']) := by
    intro hi
    have hslash : '/' ∉ margin ++ modeOpening := by
      have : '/' ∉ modeOpening := by decide
      simp [hspace, this]
    rcases infix_append_cons (by decide) (infix_of_head_not_mem hslash hi) with hi | hi
    · exact h.slashes (by rwa [String.toList_ofList])
    · exact absurd (hi.subset List.mem_cons_self) (by decide)
  rw [braceDelta, beforeComment_eq_self hcomment]
  have ho : modeOpening.count '\x7b' = 1 := by decide
  have hc : modeOpening.count '\x7d' = 0 := by decide
  simp only [List.count_append, List.count_cons, ho, hc, List.count_eq_zero_of_not_mem h.opens,
    List.count_eq_zero_of_not_mem h.closes, List.count_eq_zero_of_not_mem (hspace
    (by decide : '\x7b' ≠ ' ')), List.count_eq_zero_of_not_mem (hspace (by decide : '\x7d' ≠ ' '))]
  decide

lemma Reads.lightMode {mode : Text} (h : Plain settings.tagPrefix mode)
    (hs : ∀ b, s.program b → b = false) (hnone : s.found.lightMode = none) :
    Reads settings s [margin ++ Writing.tags [("LightMode", mode)]]
      (s.update fun c => { c with lightMode := some mode }) := by
  obtain ⟨t, ht⟩ : ∃ t, Writing.tags [("LightMode", mode)] = 'T' :: t := by
    rw [tags_lightMode]
    delta modeOpening
    rw [String.toList_ofList]
    exact ⟨_, rfl⟩
  have hread : lightMode? (margin ++ Writing.tags [("LightMode", mode)]) = some mode := by
    have hbefore : '"' ∉ margin ++ ['T', 'a', 'g', 's', ' ', '\x7b', ' '] := by
      simp [not_mem_of_spaces hm]
    have := lightMode?_of_tag [' ', '\x7d'] hbefore h.quote
    rw [tags_lightMode]
    delta modeOpening
    rw [String.toList_ofList] at this ⊢
    simpa using this
  refine .stateLine (unmarked_lightMode hpre hm h) ⟨?_, ?_⟩ (braceDelta_lightMode hm h) hs
    (fun i c rest hc => ?_) fun c => ⟨rfl, rfl⟩
  · rw [ht]
    exact startsProgram_of_head (isBlank_of_spaces hm) rfl (by decide)
  · rw [ht]
    exact endsProgram_of_head (isBlank_of_spaces hm) rfl (by decide)
  · have hname : passName? (margin ++ Writing.tags [("LightMode", mode)]) = none := by
      rw [ht]
      exact passName?_of_head (isBlank_of_spaces hm) rfl (by decide)
    have hmode : c.lightMode = none := (congrArg (·.lightMode) hc).trans hnone
    simp only [Content.takeStateLine, hname, hread, hmode]

end

/-- A value that is read back: it neither begins nor ends with a blank, or it is a single one. -/
def IsValue (v : Text) : Prop :=
  v ≠ [] ∧ ((∀ c ∈ v.head?, isBlank c = false) ∧ (∀ c ∈ v.getLast?, isBlank c = false) ∨
    ∃ c, isBlank c ∧ v = [c])

lemma keyword_eq (key : StateKey) : key.keyword = match key with
    | .cull => ['C', 'u', 'l', 'l']
    | .blend => ['B', 'l', 'e', 'n', 'd']
    | .zwrite => ['Z', 'W', 'r', 'i', 't', 'e']
    | .ztest => ['Z', 'T', 'e', 's', 't']
    | .colorMask => ['C', 'o', 'l', 'o', 'r', 'M', 'a', 's', 'k'] := by
  cases key <;> exact String.toList_ofList

/-- The line of a single value. -/
def valueLine (key : StateKey) (v : Text) : Text := key.keyword ++ ' ' :: v

lemma valueLine_head (key : StateKey) (v : Text) :
    ∃ c t, valueLine key v = c :: t ∧ c ∈ ['C', 'B', 'Z'] ∧ t.head? ≠ some 'G' := by
  rw [valueLine, keyword_eq]
  cases key <;> exact ⟨_, _, rfl, by decide, by simp⟩

lemma after?_valueLine {key other : StateKey} (h : key ≠ other) (v : Text) :
    after? other.keyword (valueLine key v) = none := by
  rw [valueLine, keyword_eq, keyword_eq]
  cases key <;> cases other <;> first | contradiction | rfl

lemma not_mem_keyword {key : StateKey} {c : Char} (h : isWord c = false) : c ∉ key.keyword := by
  have hall : ∀ d ∈ key.keyword, isWord d := by
    rw [keyword_eq]
    cases key <;> decide
  intro hc
  rw [hall c hc] at h
  contradiction

section
variable (hm : IsMargin margin)
include hm

lemma skipBlanks_valueLine (key : StateKey) (v : Text) :
    skipBlanks (margin ++ valueLine key v) = valueLine key v := by
  obtain ⟨c, t, ht, hc, -⟩ := valueLine_head key v
  rw [ht]
  refine skipBlanks_margin hm.isBlank ?_
  clear ht
  revert c
  decide

lemma keepsProgram_valueLine (key : StateKey) (v : Text) :
    KeepsProgram (margin ++ valueLine key v) := by
  obtain ⟨c, t, ht, hc, hg⟩ := valueLine_head key v
  have hblank : isBlank c = false := by
    clear ht hg
    revert c
    decide
  simp only [List.mem_cons, List.not_mem_nil, or_false] at hc
  rw [ht]
  refine ⟨?_, endsProgram_of_head hm.isBlank hblank (by rintro rfl; simp at hc)⟩
  have hcg : hasKeyword "CGPROGRAM" (margin ++ c :: t) = false := by
    delta hasKeyword
    rw [skipBlanks_margin hm.isBlank hblank, String.toList_ofList]
    have : after? ['C', 'G', 'P', 'R', 'O', 'G', 'R', 'A', 'M'] (c :: t) = none := by
      rw [after?_eq_none_iff, List.cons_prefix_cons]
      rintro ⟨-, hp⟩
      obtain ⟨u, rfl⟩ := hp
      exact hg rfl
    rw [this]
    rfl
  rw [startsProgram, hcg,
    hasKeyword_of_head hm.isBlank hblank String.toList_ofList (by rintro rfl; simp at hc)]
  rfl

lemma stateValue?_valueLine {key : StateKey} {v : Text} (h : IsValue v) :
    stateValue? key (margin ++ valueLine key v) = some v := by
  have hafter : after? key.keyword (valueLine key v) = some (' ' :: v) := after?_append _ _
  have hblanks : blanks? (' ' :: v) = some (skipBlanks v) := rfl
  simp only [stateValue?, skipBlanks_valueLine hm, hafter, Option.bind_eq_bind,
    Option.bind_some, hblanks]
  obtain ⟨hne, ⟨hfirst, hlast⟩ | ⟨c, hc, rfl⟩⟩ := h
  · rw [skipBlanks_of_stop hfirst, if_neg (by simpa using hne), stripEnd,
      trimEnd_eq_self_iff.mpr hlast]
  · simp [skipBlanks, hc]

lemma renderState?_valueLine {key : StateKey} {v : Text} (h : IsValue v) :
    renderState? (margin ++ valueLine key v) = some (key, v) := by
  have hother : ∀ other, key ≠ other → stateValue? other (margin ++ valueLine key v) = none := by
    intro other hne
    simp [stateValue?, skipBlanks_valueLine hm, after?_valueLine hne]
  have hkey : stateValue? key (margin ++ valueLine key v) = some v := stateValue?_valueLine hm h
  cases key <;> simp [renderState?, StateKey.all, hkey, hother]

lemma not_mem_valueLine {key : StateKey} {v : Text} {c : Char} (hw : isWord c = false)
    (hne : c ∉ [' ', '\t']) (hc : c ∉ v) : c ∉ margin ++ valueLine key v := by
  have hspace : c ≠ ' ' := fun e => hne (e ▸ List.mem_cons_self)
  simp [valueLine, hm.not_mem hne, not_mem_keyword hw, hspace, hc]

/-- The line of a plain value is no marker and opens no struct. -/
theorem unmarked_valueLine (key : StateKey) {v : Text} (h : Plain settings.tagPrefix v) :
    Unmarked settings (margin ++ valueLine key v) := by
  have hfree : ∀ {c}, isWord c = false → c ∉ [' ', '\t'] → c ∉ v → c ∉ margin ++ valueLine key v :=
    not_mem_valueLine hm
  refine ⟨isLine_of_not_mem (hfree (by decide) (by decide) h.newline)
    (hfree (by decide) (by decide) h.carriage), ?_,
    struct?_of_not_mem (hfree (by decide) (by decide) h.opens)⟩
  rw [valueLine,
    show margin ++ (key.keyword ++ ' ' :: v) = (margin ++ key.keyword ++ [' ']) ++ v by simp]
  have : '[' ∉ key.keyword := not_mem_keyword (by decide)
  exact not_infix_append (by simp [hm.not_mem, this]) h.marker

/-- A value is taken back from its line. -/
theorem takeStateLine_valueLine {key : StateKey} {v : Text} (hv : IsValue v) (hq : '"' ∉ v)
    (c : Content) (i : Nat) (rest : List Text) :
    c.takeStateLine i (margin ++ valueLine key v) rest =
      ({ c with renderState := c.renderState.set v key }, 0) := by
  have hname : passName? (margin ++ valueLine key v) = none := by
    obtain ⟨c, t, ht, hc, -⟩ := valueLine_head key v
    rw [ht]
    refine passName?_of_head hm.isBlank ?_ ?_
    · clear ht
      revert c
      decide
    · rintro rfl
      simp at hc
  have hmode : lightMode? (margin ++ valueLine key v) = none :=
    lightMode?_of_not_mem (not_mem_valueLine hm (by decide) (by decide) hq)
  simp only [Content.takeStateLine, hname, hmode, renderState?_valueLine hm hv]

lemma Reads.value {key : StateKey} {v : Text} (hv : IsValue v) (h : Plain settings.tagPrefix v)
    (hs : ∀ b, s.program b → b = false) :
    Reads settings s [margin ++ valueLine key v]
      (s.update fun c => { c with renderState := c.renderState.set v key }) := by
  have hd : braceDelta (margin ++ valueLine key v) = 0 :=
    braceDelta_of_not_mem (not_mem_valueLine hm (by decide) (by decide) h.opens)
      (not_mem_valueLine hm (by decide) (by decide) h.closes)
  exact .stateLine (unmarked_valueLine hm key h) (keepsProgram_valueLine hm key v) hd hs
    (fun i c rest _ => takeStateLine_valueLine hm hv h.quote c i rest) fun c => ⟨rfl, rfl⟩

end

end MarkedShader.Source
