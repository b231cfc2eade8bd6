import MarkedShader.Marker
import MarkedShader.Proofs.Attributes
import MarkedShader.Proofs.Text.Search
import Mathlib.Data.List.Basic
import Mathlib.Tactic.SplitIfs

/-! Markers are read back from the lines they are written in, under any margin, and by the reader of
their own kind only. -/
namespace MarkedShader.Marker
open Text

variable {pre : Text} {kind other : MarkerKind} {α : Type} {reader : Text → Option α}

/-- The beginning of every marker after its comment mark. -/
def opening (pre : Text) : Text := '[' :: pre ++ ['_']

/-- A line is not a marker exactly if no marker opens in it. -/
theorem isMarker_eq_false_iff {line : Text} : isMarker pre line = false ↔ ¬ opening pre <:+: line :=
  holds_eq_false_iff

/-- A reader that needs the tag of its kind at the place it is tried at. -/
def NeedsTag (pre : Text) (kind : MarkerKind) (reader : Text → Option α) : Prop :=
  ∀ s, afterTag? pre kind s = none → reader s = none

lemma body?_eq_none {s : Text} (h : afterTag? pre kind s = none) : body? pre kind s = none := by
  simp [body?, h]

lemma needsTag_attributesAt? : NeedsTag pre kind (attributesAt? pre kind) :=
  fun s h => by simp [attributesAt?, body?_eq_none h]

lemma needsTag_plainAt? : NeedsTag pre kind (plainAt? pre kind) :=
  fun s h => by simp [plainAt?, h]

lemma needsTag_quotedAt? : NeedsTag pre kind (quotedAt? pre kind) :=
  fun s h => by simp [quotedAt?, body?_eq_none h]

lemma needsTag_namedAt? : NeedsTag pre kind (namedAt? pre kind) :=
  fun s h => by simp [namedAt?, needsTag_quotedAt? s h]

lemma needsTag_paramAt? : NeedsTag pre .param (paramAt? pre) :=
  fun s h => by simp [paramAt?, body?_eq_none h]

lemma opening_infix_of_afterTag? {s r : Text} (h : afterTag? pre kind s = some r) :
    opening pre <:+: s := by
  simp only [afterTag?, Option.bind_eq_bind, Option.bind_eq_some_iff] at h
  obtain ⟨t, ht, hr⟩ := h
  have hs : skipBlanks t <:+ s := by
    rw [after?_eq_some_iff.mp ht]
    exact (List.dropWhile_suffix _).trans (List.suffix_append _ t)
  refine List.IsInfix.trans ?_ hs.isInfix
  rw [after?_eq_some_iff.mp hr]
  exact ⟨[], kind.tag ++ r, by simp [opening]⟩

lemma search_eq_none (needs : NeedsTag pre kind reader) {line : Text}
    (h : ¬ opening pre <:+: line) : search reader line = none := by
  rw [search_eq_none_iff]
  intro s hs
  apply needs
  cases hr : afterTag? pre kind s with
  | none => rfl
  | some r => exact absurd ((opening_infix_of_afterTag? hr).trans hs.isInfix) h

/-- A marker from what follows its prefix. -/
def written (pre w : Text) : Text := "// [".toList ++ pre ++ '_' :: w

lemma written_eq (pre w : Text) :
    written pre w = '/' :: '/' :: ' ' :: '[' :: (pre ++ '_' :: w) := by
  delta written
  rw [String.toList_ofList]
  rfl

lemma afterTag?_of_slash_slash (s : Text) :
    afterTag? pre kind ('/' :: '/' :: s) =
      after? ('[' :: pre ++ '_' :: kind.tag) (skipBlanks s) := by
  rw [afterTag?, String.toList_ofList]
  rfl

lemma afterTag?_of_ne {c : Char} (hc : c ≠ '/') (s : Text) :
    afterTag? pre kind (c :: s) = none := by
  rw [afterTag?, String.toList_ofList]
  have : after? ['/', '/'] (c :: s) = none := after?_eq_none_iff.mpr fun h =>
    hc (List.cons_prefix_cons.mp h).1.symm
  simp [this]

lemma afterTag?_written (w : Text) : afterTag? pre kind (written pre w) = after? kind.tag w := by
  rw [written_eq, afterTag?_of_slash_slash]
  have hskip : skipBlanks (' ' :: '[' :: (pre ++ '_' :: w)) = '[' :: (pre ++ '_' :: w) := rfl
  rw [hskip]
  cases h : after? kind.tag w with
  | none =>
    rw [after?_eq_none_iff] at h ⊢
    intro hp
    have hcons : '[' :: pre ++ '_' :: kind.tag = ('[' :: pre ++ ['_']) ++ kind.tag := by simp
    have hall : '[' :: (pre ++ '_' :: w) = ('[' :: pre ++ ['_']) ++ w := by simp
    rw [hcons, hall, List.prefix_append_right_inj] at hp
    exact h hp
  | some r =>
    rw [after?_eq_some_iff] at h ⊢
    simp [h]

/-- No marker opens in a margin. -/
theorem search_margin (needs : NeedsTag pre kind reader) {margin : Text}
    (hm : ∀ c ∈ margin, isBlank c) (t : Text) : search reader (margin ++ t) = search reader t := by
  refine search_append fun a b hab hb => needs _ ?_
  cases b with
  | nil => contradiction
  | cons c b =>
    refine afterTag?_of_ne ?_ _
    rintro rfl
    exact absurd (hm '/' (hab ▸ List.mem_append_right a List.mem_cons_self)) (by decide)

lemma search_written (needs : NeedsTag pre kind reader) {margin w : Text}
    (hm : ∀ c ∈ margin, isBlank c) (hw : ¬ opening pre <:+: pre ++ '_' :: w) :
    search reader (margin ++ written pre w) = reader (written pre w) := by
  rw [search_margin needs hm]
  cases hr : reader (written pre w) with
  | some a => exact search_of_reads hr
  | none =>
    rw [search_eq_none_iff]
    intro s hs
    rw [written_eq] at hs hr
    -- the suffixes before the tag do not begin with two slashes, and in those after it no marker
    -- opens
    rcases List.suffix_cons_iff.mp hs with rfl | hs
    · exact hr
    · apply needs
      rcases List.suffix_cons_iff.mp hs with rfl | hs
      · rw [afterTag?, String.toList_ofList]
        rfl
      · rcases List.suffix_cons_iff.mp hs with rfl | hs
        · exact afterTag?_of_ne (by decide) _
        · rcases List.suffix_cons_iff.mp hs with rfl | hs
          · exact afterTag?_of_ne (by decide) _
          · cases h : afterTag? pre kind s with
            | none => rfl
            | some r => exact absurd ((opening_infix_of_afterTag? h).trans hs.isInfix) hw

lemma mem_all (kind : MarkerKind) : kind ∈ MarkerKind.all := by cases kind <;> decide

lemma isWord_tag (kind : MarkerKind) : ∀ c ∈ kind.tag, isWord c := by
  have h : ∀ k ∈ MarkerKind.all, k.tag.all isWord := by decide
  exact List.all_eq_true.mp (h kind (mem_all kind))

lemma tag_prefix_iff : other.tag <+: kind.tag ↔ other = kind := by
  have h : ∀ k ∈ MarkerKind.all, ∀ o ∈ MarkerKind.all, o.tag.isPrefixOf k.tag ↔ o = k := by decide
  exact List.isPrefixOf_iff_prefix.symm.trans (h kind (mem_all kind) other (mem_all other))

/-- What stands between a tag and the end of its marker. -/
def ending (body : Text) : Text := (if body.isEmpty then [] else ": ".toList ++ body) ++ [']']

/-- A marker as it is written: its opening, its tag and its ending. -/
theorem format_eq (pre : Text) (kind : MarkerKind) (body : Text) :
    format pre kind body = written pre (kind.tag ++ ending body) := by
  delta format written ending
  simp only [List.append_assoc, List.cons_append]

lemma ending_eq {body : Text} (hne : body ≠ []) : ending body = ':' :: ' ' :: (body ++ [']']) := by
  rw [ending, if_neg (by simpa using hne), String.toList_ofList]
  rfl

lemma ending_head (body : Text) : ∃ c r, ending body = c :: r ∧ isWord c = false := by
  by_cases h : body = []
  · exact ⟨']', [], by simp [ending, h], by decide⟩
  · exact ⟨':', _, ending_eq h, by decide⟩

lemma after?_tag (body : Text) :
    after? other.tag (kind.tag ++ ending body) =
      if other = kind then some (ending body) else none := by
  split_ifs with h
  · rw [h, after?_append]
  · obtain ⟨c, r, hr, hc⟩ := ending_head body
    rw [hr, after?_eq_none_iff]
    intro hp
    refine h (tag_prefix_iff.mp (prefix_of_prefix_append_cons ?_ hp))
    exact fun hm => by simp [isWord_tag other c hm] at hc

lemma not_mem_of_isWord {t : Text} (ht : ∀ c ∈ t, isWord c) {c : Char}
    (hc : isWord c = false) : c ∉ t :=
  fun hm => by simp [ht c hm] at hc

lemma closing_not_mem_opening (hpre : ∀ c ∈ pre, isWord c) : ']' ∉ opening pre := by
  intro h
  rcases List.mem_append.mp h with h | h
  · exact not_mem_of_isWord hpre (by decide) ((List.mem_cons.mp h).resolve_left (by decide))
  · exact absurd (List.mem_singleton.mp h) (by decide)

/-- In a marker no other one opens, if none opens in its body. -/
lemma not_infix_marker (hpre : ∀ c ∈ pre, isWord c) {body : Text} (hb : ¬ opening pre <:+: body) :
    ¬ opening pre <:+: pre ++ '_' :: (kind.tag ++ ending body) := by
  intro h
  have hbracket : isWord '[' = false := by decide
  have hlead : '[' ∉ pre ++ '_' :: kind.tag := by
    intro hm
    rcases List.mem_append.mp hm with hm | hm
    · exact not_mem_of_isWord hpre hbracket hm
    · exact not_mem_of_isWord (isWord_tag kind) hbracket
        ((List.mem_cons.mp hm).resolve_left (by decide))
  rw [show pre ++ '_' :: (kind.tag ++ ending body) =
    (pre ++ '_' :: kind.tag) ++ ending body by simp] at h
  have hend : opening pre <:+: body ++ [']'] := by
    have h := infix_of_head_not_mem hlead h
    by_cases hne : body = []
    · subst hne
      exact h
    · rw [ending_eq hne] at h
      exact infix_of_head_not_mem (a := [':', ' ']) (by decide) h
  rcases infix_append_cons (closing_not_mem_opening hpre) hend with h | h
  · exact hb h
  · exact absurd (List.infix_nil.mp h) (by simp [opening])

lemma not_mem_format {c : Char} (hpre : ∀ c ∈ pre, isWord c) (hc : isWord c = false)
    (hne : c ∉ ['/', ' ', '[', ':', ']']) {body : Text} (hb : c ∉ body) :
    c ∉ format pre kind body := by
  have htag : c ∉ kind.tag := not_mem_of_isWord (isWord_tag kind) hc
  have hp : c ∉ pre := not_mem_of_isWord hpre hc
  have hline : c ≠ '_' := fun e => absurd (e ▸ hc) (by decide)
  simp only [List.mem_cons, List.not_mem_nil, or_false, not_or] at hne
  rw [format_eq, written_eq]
  by_cases he : body = []
  · simp [he, ending, htag, hp, hline, hne]
  · simp [ending_eq he, htag, hp, hline, hne, hb]

/-- A marker ends with its bracket. -/
theorem getLast?_format (pre : Text) (kind : MarkerKind) (margin body : Text) :
    (margin ++ format pre kind body).getLast? = some ']' := by
  delta format
  rw [← List.append_assoc, List.getLast?_concat]

lemma format_ne_nil (pre : Text) (kind : MarkerKind) (body : Text) : format pre kind body ≠ [] := by
  intro h
  have := getLast?_format pre kind [] body
  rw [h] at this
  contradiction

/-- In the line no reader finds a marker of a kind. -/
def Lacks (pre : Text) (kind : MarkerKind) (line : Text) : Prop :=
  ∀ (α : Type) (reader : Text → Option α), NeedsTag pre kind reader → search reader line = none

/-- Where no marker opens, there is none of any kind. -/
theorem lacks_of_not_infix {line : Text} (h : ¬ opening pre <:+: line) : Lacks pre kind line :=
  fun _ _ needs => search_eq_none needs h

/-- The marker of one kind is not read as one of another kind. -/
theorem lacks_format (hpre : ∀ c ∈ pre, isWord c) {margin body : Text}
    (hm : ∀ c ∈ margin, isBlank c) (hb : ¬ opening pre <:+: body) (h : other ≠ kind) :
    Lacks pre other (margin ++ format pre kind body) := by
  intro α reader needs
  rw [format_eq, search_written needs hm (not_infix_marker hpre hb)]
  apply needs
  rw [afterTag?_written, after?_tag, if_neg h]

namespace Lacks

variable {line : Text}

lemma property? (h : Lacks pre .property line) : property? pre line = none :=
  h _ _ needsTag_attributesAt?
lemma global? (h : Lacks pre .global line) : global? pre line = none := h _ _ needsTag_attributesAt?
lemma pass? (h : Lacks pre .pass line) : pass? pre line = none := h _ _ needsTag_attributesAt?
lemma blockStart? (h : Lacks pre .blockStart line) : blockStart? pre line = none :=
  h _ _ needsTag_namedAt?
lemma intent? (h : Lacks pre .intent line) : intent? pre line = none := h _ _ needsTag_quotedAt?
lemma param? (h : Lacks pre .param line) : param? pre line = none := h _ _ needsTag_paramAt?
lemma sectionLabel? (h : Lacks pre .sectionLabel line) : sectionLabel? pre line = none :=
  h _ _ needsTag_namedAt?

lemma isBlockEnd (h : Lacks pre .blockEnd line) : isBlockEnd pre line = false := by
  simp [Marker.isBlockEnd, h _ _ needsTag_plainAt?]

lemma isDisabled (h : Lacks pre .disabled line) : isDisabled pre line = false := by
  simp [Marker.isDisabled, h _ _ needsTag_plainAt?]

lemma parts? (h : Lacks pre kind line) : parts? pre line kind = none := by
  cases kind with
  | property => simp [Marker.parts?, h.property?]
  | global => simp [Marker.parts?, h.global?]
  | pass => simp [Marker.parts?, h.pass?]
  | blockStart => simp [Marker.parts?, h.blockStart?]
  | blockEnd => simp [Marker.parts?, h.isBlockEnd]
  | intent => simp [Marker.parts?, h.intent?]
  | param => simp [Marker.parts?, h.param?]
  | sectionLabel => simp [Marker.parts?, h.sectionLabel?]
  | disabled => simp [Marker.parts?, h.isDisabled]

end Lacks

lemma search_format (hpre : ∀ c ∈ pre, isWord c) {margin body : Text} (hm : ∀ c ∈ margin, isBlank c)
    (hb : ¬ opening pre <:+: body) (needs : NeedsTag pre kind reader) :
    search reader (margin ++ format pre kind body) = reader (format pre kind body) := by
  rw [format_eq, search_written needs hm (not_infix_marker hpre hb)]

lemma afterTag?_format (body : Text) :
    afterTag? pre kind (format pre kind body) = some (ending body) := by
  rw [format_eq, afterTag?_written, after?_tag, if_pos rfl]

lemma body?_format {body : Text} (hne : body ≠ []) (stop : ∀ c ∈ body.head?, isBlank c = false) :
    body? pre kind (format pre kind body) = some (body ++ [']']) := by
  have hafter : after? [':'] (':' :: ' ' :: (body ++ [']'])) = some (' ' :: (body ++ [']'])) :=
    after?_append [':'] _
  have hskip : skipBlanks (' ' :: (body ++ [']'])) = body ++ [']'] := by
    refine (skipBlanks_append (m := [' ']) (by decide) _).trans (skipBlanks_of_stop ?_)
    cases body with
    | nil => contradiction
    | cons c body => exact stop
  simp [body?, afterTag?_format, ending_eq hne, hafter, hskip]

lemma attributesAt?_format {body : Text} (hne : body ≠ [])
    (stop : ∀ c ∈ body.head?, isBlank c = false) (hn : '\n' ∉ body) :
    attributesAt? pre kind (format pre kind body) = some body := by
  have hline : (body ++ [']']).takeWhile (· != '\n') = body ++ [']'] := by
    refine List.takeWhile_eq_self_iff.mpr fun c hc => ?_
    rw [bne_iff_ne]
    rintro rfl
    rcases List.mem_append.mp hc with hc | hc
    · exact hn hc
    · exact absurd (List.mem_singleton.mp hc) (by decide)
  simp [attributesAt?, body?_format hne stop, hline, beforeLast?_append]

lemma plainAt?_format : plainAt? pre kind (format pre kind []) = some () := by
  have : after? [']'] (ending []) = some [] := rfl
  simp [plainAt?, afterTag?_format, this]

lemma inQuotes_eq {t : Text} (hq : '"' ∉ t) (hn : '\n' ∉ t) : inQuotes t = '"' :: (t ++ ['"']) := by
  rw [inQuotes, Attributes.quote_eq hq hn]
  rfl

lemma blockStart_eq_format {title : Text} (hne : title ≠ []) :
    blockStart pre title = format pre .blockStart (inQuotes title) := by
  rw [blockStart, if_neg (by simpa using hne)]

/-- A quoted text is read back from its marker. -/
theorem quotedAt?_format {t : Text} (hq : '"' ∉ t) (hn : '\n' ∉ t) :
    quotedAt? pre kind (format pre kind (inQuotes t)) = some t := by
  have hbody :
      body? pre kind (format pre kind (inQuotes t)) = some ('"' :: (t ++ '"' :: [']'])) := by
    rw [body?_format (by simp [inQuotes]) (by simp [inQuotes, show isBlank '"' = false from rfl]),
      inQuotes_eq hq hn]
    simp
  have hafter : after? [']'] [']'] = some [] := rfl
  simp [quotedAt?, hbody, quoted?_append hq, hafter]

/-- A name in quotes is read back from its marker. -/
theorem namedAt?_format {t : Text} (hq : '"' ∉ t) (hn : '\n' ∉ t) (hne : t ≠ []) :
    namedAt? pre kind (format pre kind (inQuotes t)) = some t := by
  simp [namedAt?, quotedAt?_format hq hn, hne]

lemma paramAt?_format {name role : Text} (hq : '"' ∉ name) (hn : '\n' ∉ name) (hne : name ≠ [])
    (hrq : '"' ∉ role) (hrn : '\n' ∉ role) :
    paramAt? pre (format pre .param (inQuotes name ++ " role=".toList ++ inQuotes role)) =
      some (name, some role) := by
  have hrest : " role=".toList ++ inQuotes role ++ [']'] =
      ' ' :: ("role=".toList ++ ('"' :: (role ++ '"' :: [']']))) := by
    rw [inQuotes_eq hrq hrn, String.toList_ofList, String.toList_ofList]
    simp
  have hbody :
      body? pre .param (format pre .param (inQuotes name ++ " role=".toList ++ inQuotes role)) =
      some ('"' ::
        (name ++ '"' :: (' ' :: ("role=".toList ++ ('"' :: (role ++ '"' :: [']'])))))) := by
    rw [body?_format (by simp [inQuotes]) (by simp [inQuotes, show isBlank '"' = false from rfl]),
      ← hrest, inQuotes_eq hq hn]
    simp only [List.cons_append, List.append_assoc, List.nil_append]
  have hblank : blanks? (' ' :: ("role=".toList ++ ('"' :: (role ++ '"' :: [']'])))) =
      some ("role=".toList ++ ('"' :: (role ++ '"' :: [']']))) := by
    rw [String.toList_ofList]
    rfl
  have hrole : roleAt? (' ' :: ("role=".toList ++ ('"' :: (role ++ '"' :: [']'])))) =
      some (role, [']']) := by
    simp only [roleAt?, hblank, Option.bind_eq_bind, Option.bind_some, after?_append,
      quoted?_append hrq]
  have hafter : after? [']'] [']'] = some [] := rfl
  simp only [paramAt?, hbody, quotedName?_append hq hne, hrole, hafter, Option.bind_eq_bind,
    Option.bind_some, Option.map_some]

end MarkedShader.Marker
