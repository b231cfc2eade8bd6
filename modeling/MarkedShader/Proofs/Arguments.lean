import MarkedShader.Proofs.Plain
import MarkedShader.Proofs.Text.Dedent

/-! What markers are written from. A marker tells what it was written from to the reader of its
kind, and nothing to the readers of the other kinds. -/
namespace MarkedShader.Marker
open Text

/-- A kind of marker with what one is written from. -/
inductive Arguments
  | property (attributes : Attributes)
  | global (attributes : Attributes)
  | pass (attributes : Attributes)
  | blockStart (title : Text)
  | blockEnd
  | intent (text : Text)
  | param (name role : Text)
  | sectionLabel (label : Text)
  | disabled
  deriving DecidableEq, Repr

namespace Arguments

def kind : Arguments → MarkerKind
  | .property _ => .property
  | .global _ => .global
  | .pass _ => .pass
  | .blockStart _ => .blockStart
  | .blockEnd => .blockEnd
  | .intent _ => .intent
  | .param _ _ => .param
  | .sectionLabel _ => .sectionLabel
  | .disabled => .disabled

def written (pre : Text) : Arguments → Text
  | .property as => Marker.property pre as
  | .global as => Marker.global pre as
  | .pass as => Marker.pass pre as
  | .blockStart title => Marker.blockStart pre title
  | .blockEnd => Marker.blockEnd pre
  | .intent t => Marker.intent pre t
  | .param name role => Marker.param pre name role
  | .sectionLabel label => Marker.sectionLabel pre label
  | .disabled => Marker.disabled pre

def attributes? : Arguments → Option Attributes
  | .property as => some as
  | .global as => some as
  | .pass as => some as
  | _ => none

/-- The texts that are put in quotes. -/
def texts : Arguments → List Text
  | .property as => as.map (·.2)
  | .global as => as.map (·.2)
  | .pass as => as.map (·.2)
  | .blockStart title => [title]
  | .intent t => [t]
  | .param name role => [name, role]
  | .sectionLabel label => [label]
  | _ => []

/-- The texts among them that must say something. -/
def names : Arguments → List Text
  | .blockStart title => [title]
  | .param name _ => [name]
  | .sectionLabel label => [label]
  | _ => []

/-- What a reader is told: the texts themselves, or all attributes in one text. -/
def parts : Arguments → List (Option Text)
  | .property as => [some as.write]
  | .global as => [some as.write]
  | .pass as => [some as.write]
  | .blockStart title => [some title]
  | .intent t => [some t]
  | .param name role => [some name, some role]
  | .sectionLabel label => [some label]
  | _ => []

/-- The same with each text fitted between quotes. -/
def quoted : Arguments → Arguments
  | .property as => .property as.quoted
  | .global as => .global as.quoted
  | .pass as => .pass as.quoted
  | .blockStart title => .blockStart (Attributes.quote title)
  | .blockEnd => .blockEnd
  | .intent t => .intent (Attributes.quote t)
  | .param name role => .param (Attributes.quote name) (Attributes.quote role)
  | .sectionLabel label => .sectionLabel (Attributes.quote label)
  | .disabled => .disabled

/-- A marker that can be read: in no text does another one open, names are not empty, and attributes
have words as keys. -/
structure Fits (pre : Text) (a : Arguments) : Prop where
  unmarked : ∀ t ∈ a.texts, ¬ opening pre <:+: t
  named : ∀ t ∈ a.names, t ≠ []
  keyed : ∀ as ∈ a.attributes?, as ≠ [] ∧ ∀ p ∈ as, IsName p.1

variable {pre margin : Text} {a : Arguments}

def body : Arguments → Text
  | .property as => as.write
  | .global as => as.write
  | .pass as => as.write
  | .blockStart title => inQuotes (if title.isEmpty then "Untitled".toList else title)
  | .intent t => inQuotes t
  | .param name role => inQuotes name ++ " role=".toList ++ inQuotes role
  | .sectionLabel label => inQuotes label
  | _ => []

lemma written_eq (pre : Text) (a : Arguments) : a.written pre = format pre a.kind a.body := by
  cases a <;> rfl

lemma kind_quoted (a : Arguments) : a.quoted.kind = a.kind := by cases a <;> rfl

lemma texts_quoted (a : Arguments) : a.quoted.texts = a.texts.map Attributes.quote := by
  cases a <;> simp [quoted, texts, Attributes.quoted]

lemma names_quoted (a : Arguments) : a.quoted.names = a.names.map Attributes.quote := by
  cases a <;> simp [quoted, names]

lemma attributes?_quoted (a : Arguments) :
    a.quoted.attributes? = a.attributes?.map Attributes.quoted := by
  cases a <;> rfl

lemma inQuotes_quote (t : Text) : inQuotes (Attributes.quote t) = inQuotes t := by
  rw [inQuotes, inQuotes, Attributes.quote_quote]

/-- A marker is written with its texts fitted between quotes. -/
lemma written_quoted (h : a.Fits pre) : a.quoted.written pre = a.written pre := by
  have hnamed := h.named
  rw [written_eq, written_eq, kind_quoted]
  congr 1
  cases a <;> simp_all [quoted, body, names, inQuotes_quote, Attributes.write_quoted]

lemma quoted_eq_self (h : ∀ t ∈ a.texts, '"' ∉ t ∧ '\n' ∉ t) : a.quoted = a := by
  have hsame : ∀ t ∈ a.texts, Attributes.quote t = t :=
    fun t ht => Attributes.quote_eq (h t ht).1 (h t ht).2
  cases a with
  | property as =>
    exact congrArg property
      (Attributes.quoted_eq_self fun p hp => hsame p.2 (List.mem_map_of_mem hp))
  | global as =>
    exact congrArg global (Attributes.quoted_eq_self fun p hp => hsame p.2 (List.mem_map_of_mem hp))
  | pass as =>
    exact congrArg pass (Attributes.quoted_eq_self fun p hp => hsame p.2 (List.mem_map_of_mem hp))
  | blockEnd => rfl
  | disabled => rfl
  | _ => simp_all [quoted, texts]

section
variable (hpre : ∀ c ∈ pre, isWord c)
include hpre

lemma fits_quoted (h : a.Fits pre) : a.quoted.Fits pre where
  unmarked := by
    rw [texts_quoted, List.forall_mem_map]
    exact fun t ht => not_infix_quote hpre (h.unmarked t ht)
  named := by
    rw [names_quoted, List.forall_mem_map]
    exact fun t ht hq => h.named t ht (Attributes.quote_eq_nil_iff.mp hq)
  keyed := by
    rw [attributes?_quoted]
    intro as has
    obtain ⟨bs, hbs, rfl⟩ := Option.map_eq_some_iff.mp has
    obtain ⟨hne, hkeys⟩ := h.keyed bs hbs
    refine ⟨fun he => hne (List.map_eq_nil_iff.mp he), fun p hp => ?_⟩
    obtain ⟨q, hq, rfl⟩ := List.mem_map.mp hp
    exact hkeys q hq

lemma quotable_quoted (h : a.Fits pre) : ∀ t ∈ a.quoted.texts, Quotable pre t := by
  rw [texts_quoted, List.forall_mem_map]
  exact fun t ht => quotable_quote hpre (h.unmarked t ht)

/-- In a marker no other one opens. -/
lemma not_infix_body (h : a.Fits pre)
    (hq : ∀ t ∈ a.texts, Quotable pre t) : ¬ opening pre <:+: a.body := by
  cases a with
  | property as =>
    exact not_infix_write hpre (h.keyed as rfl).2 fun p hp => hq p.2 (List.mem_map_of_mem hp)
  | global as =>
    exact not_infix_write hpre (h.keyed as rfl).2 fun p hp => hq p.2 (List.mem_map_of_mem hp)
  | pass as =>
    exact not_infix_write hpre (h.keyed as rfl).2 fun p hp => hq p.2 (List.mem_map_of_mem hp)
  | blockStart title =>
    have hne : title ≠ [] := h.named title (by simp [names])
    rw [body, if_neg (by simpa using hne)]
    exact not_infix_inQuotes hpre (hq title (by simp [texts]))
  | blockEnd => exact not_infix_nil
  | intent t => exact not_infix_inQuotes hpre (hq t (by simp [texts]))
  | param name role =>
    exact not_infix_param hpre (hq name (by simp [texts])) (hq role (by simp [texts]))
  | sectionLabel label => exact not_infix_inQuotes hpre (hq label (by simp [texts]))
  | disabled => exact not_infix_nil

/-- The reader of its own kind is told what the marker was written from. -/
lemma parts?_own (hm : ∀ c ∈ margin, isBlank c) (h : a.Fits pre)
    (hq : ∀ t ∈ a.texts, Quotable pre t) :
    parts? pre (margin ++ a.written pre) a.kind = some a.parts := by
  have hattributes : ∀ {kind : MarkerKind} {as : Attributes}, as ≠ [] → (∀ p ∈ as, IsName p.1) →
      (∀ p ∈ as, Quotable pre p.2) →
      search (attributesAt? pre kind) (margin ++ format pre kind as.write) = some as.write :=
    search_attributes hpre hm
  cases a with
  | property as =>
    obtain ⟨hne, hkeys⟩ := h.keyed as rfl
    have hread := @hattributes .property as hne hkeys fun p hp => hq p.2 (List.mem_map_of_mem hp)
    simp [parts?, kind, written, parts, property?, Marker.property, hread]
  | global as =>
    obtain ⟨hne, hkeys⟩ := h.keyed as rfl
    have hread := @hattributes .global as hne hkeys fun p hp => hq p.2 (List.mem_map_of_mem hp)
    simp [parts?, kind, written, parts, global?, Marker.global, hread]
  | pass as =>
    obtain ⟨hne, hkeys⟩ := h.keyed as rfl
    have hread := @hattributes .pass as hne hkeys fun p hp => hq p.2 (List.mem_map_of_mem hp)
    simp [parts?, kind, written, parts, pass?, Marker.pass, hread]
  | blockStart title =>
    have hread :=
      blockStart?_blockStart hpre hm (hq title (by simp [texts])) (h.named title (by simp [names]))
    simp [parts?, kind, written, parts, hread]
  | blockEnd => simp [parts?, kind, written, parts, isBlockEnd_blockEnd hpre hm]
  | intent t =>
    have hread := intent?_intent hpre hm (hq t (by simp [texts]))
    simp [parts?, kind, written, parts, hread]
  | param name role =>
    have hread := param?_param hpre hm (hq name (by simp [texts])) (h.named name (by simp [names]))
      (hq role (by simp [texts]))
    simp [parts?, kind, written, parts, hread]
  | sectionLabel label =>
    have hread := sectionLabel?_sectionLabel hpre hm (hq label (by simp [texts]))
      (h.named label (by simp [names]))
    simp [parts?, kind, written, parts, hread]
  | disabled => simp [parts?, kind, written, parts, isDisabled_disabled hpre hm]

end

lemma isMarker_written (pre margin : Text) (a : Arguments) :
    isMarker pre (margin ++ a.written pre) = true := by
  by_contra hnot
  refine isMarker_eq_false_iff.mp (Bool.not_eq_true _ ▸ hnot) ?_
  rw [written_eq, format_eq, Marker.written_eq]
  exact ⟨margin ++ ['/', '/', ' '], a.kind.tag ++ ending a.body, by simp [opening]⟩

/-- The attributes of a marker are read back if their keys are different and in lower case. -/
lemma read_attributes {as : Attributes} (hkeys : ∀ p ∈ as, IsName p.1)
    (hlower : ∀ p ∈ as, p.1.lower = p.1) (hn : (as.map (·.1)).Nodup) :
    Attributes.read as.quoted.write = as.quoted := by
  refine Attributes.read_write ?_ ?_ ?_
  · intro p hp
    obtain ⟨q, hq, rfl⟩ := List.mem_map.mp hp
    exact ⟨(hkeys q hq).1, (hkeys q hq).2, hlower q hq⟩
  · intro p hp
    obtain ⟨q, -, rfl⟩ := List.mem_map.mp hp
    exact Attributes.quote_free q.2
  · rw [Attributes.quoted, List.map_map]
    exact hn

/-- Under any margin and any prefix of word characters, a marker is a marker, its own reader and no
other one finds it, and that is told the texts it was written from, as they fit between quotes: as
they are, if they hold no quotes and line breaks. Attributes come back in order, if their keys are
different words in lower case. -/
theorem parts?_written (hpre : ∀ c ∈ pre, isWord c) (hm : IsMargin margin) (h : a.Fits pre) :
    (∀ kind, parts? pre (margin ++ a.written pre) kind = if kind = a.kind then some a.quoted.parts
      else none) ∧ isMarker pre (margin ++ a.written pre) = true ∧
      (∀ as ∈ a.attributes?, (∀ p ∈ as, p.1.lower = p.1) → (as.map (·.1)).Nodup →
        ∃ t, a.quoted.parts = [some t] ∧ Attributes.read t = as.quoted) ∧
      ((∀ t ∈ a.texts, '"' ∉ t ∧ '\n' ∉ t) → a.quoted = a) := by
  have hfits := fits_quoted hpre h
  have hquotable := quotable_quoted hpre h
  refine ⟨fun kind => ?_, isMarker_written pre margin a, ?_, quoted_eq_self⟩
  · rw [← written_quoted h, ← kind_quoted]
    split_ifs with hk
    · rw [hk]
      exact parts?_own hpre hm.isBlank hfits hquotable
    · rw [written_eq]
      exact (lacks_format hpre hm.isBlank (not_infix_body hpre hfits hquotable) hk).parts?
  · intro as has hlower hn
    have hread := read_attributes (h.keyed as has).2 hlower hn
    refine ⟨as.quoted.write, ?_, hread⟩
    cases a <;> simp_all [attributes?, quoted, parts]

/-- Attributes with all that could be taken for the end of a value, of an attribute or of the
marker. -/
def bracketed : Arguments :=
  .property [("name".toList, "_A[0] = \"x\"".toList), ("tag_2".toList, "b=] // [Lab:\nc".toList)]

theorem parts?_written_bracketed :
    (∀ c ∈ "Lab".toList, isWord c) ∧ IsMargin "\t ".toList ∧ bracketed.Fits "Lab".toList ∧
    (∀ kind, parts? "Lab".toList ("\t ".toList ++ bracketed.written "Lab".toList) kind =
      if kind = .property then some [some "name=\"_A[0] = 'x'\" tag_2=\"b=] // [Lab: c\"".toList]
      else none) ∧ Attributes.read "name=\"_A[0] = 'x'\" tag_2=\"b=] // [Lab: c\"".toList =
      [("name".toList, "_A[0] = 'x'".toList), ("tag_2".toList, "b=] // [Lab: c".toList)] := by
  have hpre : ∀ c ∈ "Lab".toList, isWord c := by decide
  have hm : IsMargin "\t ".toList := by
    unfold IsMargin
    decide
  have hfits : bracketed.Fits "Lab".toList :=
    ⟨by decide, fun _ ht => absurd ht List.not_mem_nil, fun as has => by cases has; decide⟩
  obtain ⟨hparts, -, hread, -⟩ := parts?_written hpre hm hfits
  obtain ⟨t, ht, hattributes⟩ := hread _ rfl (by decide) (by decide)
  have htext :
      bracketed.quoted.parts = [some "name=\"_A[0] = 'x'\" tag_2=\"b=] // [Lab: c\"".toList] := by
    decide
  rw [htext] at hparts ht
  cases ht
  exact ⟨hpre, hm, hfits, hparts, hattributes⟩

end Arguments
end MarkedShader.Marker
