import MarkedShader.Compile
import MarkedShader.Proofs.Attributes
import MarkedShader.Proofs.Number.Numeral
import MarkedShader.Proofs.Text.Search
import Mathlib.Tactic.IntervalCases

/-! Messages are read back from the output they are written to, one on a line, whatever their texts
look like. Main statement: `read_reports`. -/
namespace MarkedShader

namespace Text

lemma digit?_of_ascii {c : Char} (hc : c.toNat < 128) (h : c.isDigit = false) :
    digit? c = none := by
  rw [digit?, if_pos hc, h]
  rfl

lemma isDigit_of_decimal {c : Char} (h : c.isDigit) : isDigit c := by
  rw [isDigit, Numeral.digit?_of_isDigit h]
  rfl

lemma isDigit_of_ascii {c : Char} (hc : c.toNat < 128) : isDigit c = c.isDigit := by
  cases h : c.isDigit with
  | true => exact isDigit_of_decimal h
  | false =>
    rw [isDigit, digit?_of_ascii hc h]
    rfl

end Text

namespace CompileMessage
open Text

variable {lead s t u r : Text}

lemma isLetter_of_toLower {l c : Char} (h : c.toLower = l) : isLetter l c := by simp [isLetter, h]

lemma toLower_of_isLetter {l c : Char} (hc : c.toNat < 128) (h : isLetter l c) : c.toLower = l := by
  have hother : ∀ d : Char, 128 ≤ d.toNat → (c == d) = false := by
    intro d hd
    refine beq_false_of_ne fun e => ?_
    rw [e] at hc
    omega
  have hdotted := hother '\u0130' (by decide)
  have hdotless := hother '\u0131' (by decide)
  have hlong := hother '\u017F' (by decide)
  simpa [isLetter, hdotted, hdotless, hlong] using h

/-- A letter is no line break, whatever its case. -/
lemma ne_newline_of_isLetter {l c : Char} (hl : l ≠ '\n') (h : isLetter l c) : c ≠ '\n' := by
  rintro rfl
  exact hl (toLower_of_isLetter (by decide) h).symm

lemma afterAnyCase?_of_map (h : s.map Char.toLower = lead) (t : Text) :
    afterAnyCase? lead (s ++ t) = some t := by
  induction s generalizing lead with
  | nil =>
    rw [← h]
    rfl
  | cons c s ih =>
    obtain rfl := h
    rw [List.map_cons, List.cons_append, afterAnyCase?, if_pos (isLetter_of_toLower rfl), ih rfl]

/-- What a reader that ignores case takes is a spelling of what it looks for. -/
theorem exists_of_afterAnyCase? (h : afterAnyCase? lead t = some r) :
    ∃ s, t = s ++ r ∧ List.Forall₂ (fun l c => isLetter l c) lead s := by
  induction lead generalizing t with
  | nil => exact ⟨[], Option.some.inj h, .nil⟩
  | cons l lead ih =>
    cases t with
    | nil => contradiction
    | cons c t =>
      rw [afterAnyCase?, Option.ite_none_right_eq_some] at h
      obtain ⟨s, rfl, hs⟩ := ih h.2
      exact ⟨c :: s, rfl, .cons h.1 hs⟩

lemma map_toLower_of_letters (h : List.Forall₂ (fun l c => isLetter l c) lead s)
    (ascii : ∀ c ∈ s, c.toNat < 128) : s.map Char.toLower = lead := by
  induction h with
  | nil => rfl
  | cons hc _ ih =>
    obtain ⟨hascii, ascii⟩ := List.forall_mem_cons.mp ascii
    rw [List.map_cons, ih ascii, toLower_of_isLetter hascii hc]

lemma not_mem_of_letters (h : List.Forall₂ (fun l c => isLetter l c) lead s)
    (hlead : '\n' ∉ lead) : '\n' ∉ s := by
  induction h with
  | nil => exact List.not_mem_nil
  | cons hc _ ih =>
    obtain ⟨hl, hlead⟩ := List.ne_and_not_mem_of_not_mem_cons hlead
    exact List.not_mem_cons_of_ne_of_not_mem (ne_newline_of_isLetter hl.symm hc).symm (ih hlead)

lemma afterAnyCase?_append (a b t : Text) :
    afterAnyCase? (a ++ b) t = (afterAnyCase? a t).bind (afterAnyCase? b) := by
  induction a generalizing t with
  | nil => rfl
  | cons l a ih =>
    cases t with
    | nil => rfl
    | cons c t =>
      rw [List.cons_append, afterAnyCase?, afterAnyCase?]
      split_ifs
      · exact ih t
      · rfl

/-- What is read over a text goes on behind it with the rest of what is looked for. -/
lemma afterAnyCase?_behind (h : afterAnyCase? lead (u ++ t) = some r)
    (short : u.length ≤ lead.length) : afterAnyCase? (lead.drop u.length) t = some r := by
  induction u generalizing lead with
  | nil => exact h
  | cons c u ih =>
    cases lead with
    | nil => simp at short
    | cons l lead =>
      rw [List.cons_append, afterAnyCase?, Option.ite_none_right_eq_some] at h
      exact ih h.2 (by simpa using short)

/-- No line number stands in a text, whatever its case. -/
def Unnumbered (t : Text) : Prop :=
  ∀ d ∈ "0123456789".toList, ¬ " at line ".toList ++ [d] <:+: t.map Char.toLower

instance (t : Text) : Decidable (Unnumbered t) := inferInstanceAs (Decidable (∀ d ∈ _, _))

lemma Unnumbered.of_cons {c : Char} (h : Unnumbered (c :: t)) : Unnumbered t :=
  fun d hd hi => h d hd (hi.trans (List.suffix_cons _ _).isInfix)

lemma mem_digits {c : Char} (h : c.isDigit) : c ∈ "0123456789".toList := by
  simp only [Char.isDigit, Bool.and_eq_true, decide_eq_true_eq, UInt32.le_iff_toNat_le] at h
  obtain ⟨hfirst, hlast⟩ : 48 ≤ c.toNat ∧ c.toNat ≤ 57 := h
  rw [← Char.ofNat_toNat c]
  interval_cases c.toNat <;> decide

lemma lower_digit : ∀ d ∈ "0123456789".toList, d.toLower = d := by decide

lemma lineNumber?_eq_bind (t : Text) :
    lineNumber? t = (afterAnyCase? " at line ".toList t).bind (run? isDigit) := rfl

/-- Behind a place at which what stands before a number matches across its own beginning, no digit
follows. -/
lemma head_of_overlap {k : Nat} (hfirst : 1 ≤ k) (hlast : k < 9)
    (h : afterAnyCase? (" at line ".toList.drop k) (" at line ".toList ++ t) = some r) :
    r.head? = some 'a' := by
  interval_cases k <;> simp [afterAnyCase?, isLetter] at h
  obtain rfl := h
  rfl

/-- A line number does not begin inside a text without any. -/
lemma lineNumber?_eq_none (hne : u ≠ []) (ascii : ∀ c ∈ u, c.toNat < 128)
    (unnumbered : Unnumbered u) (t : Text) :
    lineNumber? (u ++ (" at line ".toList ++ t)) = none := by
  rw [lineNumber?_eq_bind, Option.bind_eq_none_iff]
  intro r h
  suffices hr : ∀ c ∈ r.head?, isDigit c = false by
    cases r with
    | nil => rfl
    | cons c r => simp [run?, hr c rfl]
  -- the match runs over the beginning of what is written behind `u`, or lies in `u` whole
  by_cases hlen : u.length < 9
  · intro c hc
    rw [head_of_overlap (List.length_pos_of_ne_nil hne) hlen (afterAnyCase?_behind h hlen.le)] at hc
    obtain rfl := Option.some.inj hc
    decide
  · obtain ⟨s, hs, hletters⟩ := exists_of_afterAnyCase? h
    have hfits : s.length ≤ u.length := hletters.length_eq ▸ Nat.le_of_not_lt hlen
    obtain ⟨v, rfl⟩ : s <+: u :=
      List.prefix_of_prefix_length_le ⟨r, hs.symm⟩ (List.prefix_append u _) hfits
    obtain rfl := List.append_cancel_left ((List.append_assoc s v _).symm.trans hs)
    cases v with
    | nil =>
      intro c hc
      obtain rfl := Option.some.inj hc
      decide
    | cons c v =>
      rintro _ ⟨⟩
      rw [isDigit_of_ascii (ascii c (by simp)), Bool.eq_false_iff]
      refine fun hd => unnumbered c (mem_digits hd) ⟨[], v.map Char.toLower, ?_⟩
      rw [List.map_append, map_toLower_of_letters hletters fun c hc =>
        ascii c (List.mem_append_left _ hc), List.map_cons, lower_digit c (mem_digits hd)]
      simp

lemma lineNumber?_natural (n : Nat) {rest : Text} (stop : ∀ c ∈ rest.head?, isDigit c = false) :
    lineNumber? (" at line ".toList ++ (Decimal.natural n ++ rest)) =
      some (Decimal.natural n, rest) := by
  rw [lineNumber?_eq_bind, afterAnyCase?_of_map (by decide), Option.bind_some, run?_eq_some_iff]
  exact ⟨rfl, Nat.toDigits_ne_nil,
    fun c hc => isDigit_of_decimal (Numeral.isDigit_of_mem_natural hc), stop⟩

/-- A text without line numbers ends where one is written behind it. -/
lemma untilLineNumber?_natural {text : Text} (hne : text ≠ []) (unbroken : '\n' ∉ text)
    (ascii : ∀ c ∈ text, c.toNat < 128) (unnumbered : Unnumbered text) (n : Nat) {rest : Text}
    (stop : ∀ c ∈ rest.head?, isDigit c = false) :
    untilLineNumber? (text ++ (" at line ".toList ++ (Decimal.natural n ++ rest))) =
      some (text, Decimal.natural n, rest) := by
  induction text with
  | nil => contradiction
  | cons c u ih =>
    obtain ⟨hc, hu⟩ := List.ne_and_not_mem_of_not_mem_cons unbroken
    have hascii := (List.forall_mem_cons.mp ascii).2
    rw [List.cons_append, untilLineNumber?, if_neg hc.symm]
    by_cases hlast : u = []
    · subst hlast
      rw [List.nil_append, lineNumber?_natural n stop]
    · rw [lineNumber?_eq_none hlast hascii unnumbered.of_cons,
        ih hlast hu hascii unnumbered.of_cons]
      rfl

lemma severityWord?_name (s : Severity) (t : Text) :
    severityWord? (s.name ++ t) = some (s.name, t) := by
  cases s with
  | error => rfl
  | warning => rfl

/-- A message and what else stands on its line. -/
structure Report where
  shaderName : Text
  message : CompileMessage
  suffix : Text := []

namespace Report

/-- The line up to the end of its number. -/
def head (x : Report) : Text :=
  "Shader ".toList ++ x.message.severity.name ++ " in '".toList ++ x.shaderName ++
    "': ".toList ++ x.message.message ++
    " at line ".toList ++ Decimal.natural x.message.line

/-- The line a compiler writes. -/
def line (x : Report) : Text := x.head ++ x.suffix

/-- What begins a message of a severity, in lower case. -/
def opening (s : Severity) : Text := "shader ".toList ++ s.name ++ " in '".toList

/-- Reports whose lines tell where each part ends. -/
structure IsPlain (x : Report) : Prop where
  name : '\'' ∉ x.shaderName
  ascii : ∀ c ∈ x.message.message ++ x.suffix, c.toNat < 128
  nonempty : x.message.message ≠ []
  trimmed : strip x.message.message = x.message.message
  unbroken : '\n' ∉ x.message.message ++ x.suffix
  unnumbered : Unnumbered x.message.message
  stop : ∀ c ∈ x.suffix.head?, c.isDigit = false
  silent : ∀ s : Severity, ¬ opening s <:+: x.suffix.map Char.toLower

variable {x : Report} {xs : List Report}

lemma head_append (x : Report) (rest : Text) :
    x.head ++ rest =
      "Shader ".toList ++ (x.message.severity.name ++ (" in '".toList ++ (x.shaderName ++
      '\'' :: (": ".toList ++ (x.message.message ++
        (" at line ".toList ++ (Decimal.natural x.message.line ++ rest))))))) := by
  have hquote : "': ".toList = '\'' :: ": ".toList := by decide
  delta head
  rw [hquote]
  simp only [List.append_assoc, List.cons_append]

lemma head_ne_nil (x : Report) : x.head ≠ [] := by
  delta head
  simp

/-- A report as it is found. -/
def raw (x : Report) : Raw :=
  ⟨x.message.severity.name, x.message.message, Decimal.natural x.message.line⟩

lemma at?_head (plain : x.IsPlain) {rest : Text} (stop : ∀ c ∈ rest.head?, isDigit c = false) :
    at? (x.head ++ rest) = some (x.raw, x.head.length) := by
  have hnumber :=
    untilLineNumber?_natural plain.nonempty (fun h => plain.unbroken (List.mem_append_left _ h))
    (fun c hc => plain.ascii c (List.mem_append_left _ hc)) plain.unnumbered x.message.line stop
  have hname : ∀ r, upTo? '\'' (x.shaderName ++ '\'' :: r) = some (x.shaderName, r) :=
    fun r => upTo?_eq_some_iff.mpr ⟨rfl, plain.name⟩
  have hlength : (x.head ++ rest).length - rest.length = x.head.length := by simp
  rw [head_append] at hlength ⊢
  rw [at?, afterAnyCase?_of_map (by decide)]
  simp only [Option.bind_eq_bind, Option.bind_some, severityWord?_name]
  rw [afterAnyCase?_of_map (by decide)]
  simp only [Option.bind_some, hname, after?_append, hnumber, hlength]
  rfl

lemma exists_of_severityWord? {p : Text × Text} (h : severityWord? t = some p) :
    ∃ s : Severity, afterAnyCase? s.name t = some p.2 := by
  obtain ⟨word, hword, hp⟩ := List.exists_of_findSome?_eq_some h
  obtain ⟨r, hr, rfl⟩ := Option.map_eq_some_iff.mp hp
  simp only [List.mem_cons, List.not_mem_nil, or_false] at hword
  rcases hword with rfl | rfl
  · exact ⟨.error, hr⟩
  · exact ⟨.warning, hr⟩

/-- A message that is found begins as one of its severity. -/
lemma opening_of_at? {a : Raw × Nat} (h : at? t = some a) :
    ∃ s r, afterAnyCase? (opening s) t = some r := by
  simp only [at?, Option.bind_eq_bind, Option.bind_eq_some_iff] at h
  obtain ⟨u, hu, p, hp, v, hv, -⟩ := h
  obtain ⟨s, hs⟩ := exists_of_severityWord? hp
  refine ⟨s, v, ?_⟩
  delta opening
  rw [List.append_assoc, afterAnyCase?_append, hu, Option.bind_some, afterAnyCase?_append, hs,
    Option.bind_some, hv]

/-- Nothing is found in what follows a number. -/
lemma at?_suffix (plain : x.IsPlain) {u more : Text} (hu : u <:+ x.suffix)
    (hmore : ∀ c ∈ more.head?, c = '\n') : at? (u ++ more) = none := by
  rw [Option.eq_none_iff_forall_ne_some]
  intro a h
  obtain ⟨s, r, hr⟩ := opening_of_at? h
  obtain ⟨w, hw, hletters⟩ := exists_of_afterAnyCase? hr
  -- no opening goes over the end of a line, so all of it would stand in the suffix
  have hline : '\n' ∉ w := not_mem_of_letters hletters (by cases s <;> decide)
  have hmatch : w <+: u := by
    cases more with
    | nil => exact ⟨r, hw.symm.trans (List.append_nil u)⟩
    | cons c more =>
      obtain rfl := hmore c rfl
      exact prefix_of_prefix_append_cons hline ⟨r, hw.symm⟩
  have hpart : w <:+: x.suffix := hmatch.isInfix.trans hu.isInfix
  have hascii : ∀ c ∈ w, c.toNat < 128 :=
    fun c hc => plain.ascii c (List.mem_append_right _ (hpart.subset hc))
  refine plain.silent s ?_
  rw [← map_toLower_of_letters hletters hascii]
  exact hpart.map _

lemma scan_line (plain : x.IsPlain) (more : Text) (hmore : ∀ c ∈ more.head?, c = '\n') :
    scan (fun _ => at?) none 0 (x.line ++ more) = x.raw :: scan (fun _ => at?) none 0 more := by
  have hstop : ∀ c ∈ (x.suffix ++ more).head?, isDigit c = false := by
    intro c hc
    rw [List.head?_append, Option.mem_def, Option.or_eq_some_iff] at hc
    rcases hc with hc | ⟨-, hc⟩
    · have hascii := plain.ascii c (List.mem_append_right _ (List.mem_of_head? hc))
      rw [isDigit_of_ascii hascii, plain.stop c hc]
    · obtain rfl := hmore c hc
      decide
  rw [line, List.append_assoc, scan_append_of_some (at?_head plain hstop) (head_ne_nil x),
    scan_append_of_none fun u hne hu => at?_suffix plain hu hmore]

lemma scan_lines (plain : ∀ x ∈ xs, x.IsPlain) :
    scan (fun _ => at?) none 0 (joinLines (xs.map line)) = xs.map raw := by
  induction xs with
  | nil => rfl
  | cons x xs ih =>
    obtain ⟨hx, hxs⟩ := List.forall_mem_cons.mp plain
    cases xs with
    | nil => simpa [joinLines, scan] using scan_line hx [] (by simp)
    | cons y ys =>
      rw [List.map_cons, List.map_cons, joinLines_cons_cons, scan_line hx _ (by simp),
        ← List.map_cons, scan_of_none rfl, ih hxs]
      rfl

lemma valueOf_natural (n : Nat) : Numeral.valueOf ((Decimal.natural n).filterMap digit?) = n := by
  have hdigits :
      (Decimal.natural n).filterMap digit? = (Decimal.natural n).map fun c => c.toNat - 48 := by
    rw [← List.filterMap_eq_map]
    exact List.filterMap_congr fun c hc =>
      Numeral.digit?_of_isDigit (Numeral.isDigit_of_mem_natural hc)
  rw [hdigits, Numeral.valueOf, Numeral.valueIn_map]
  exact Nat.ofDigitChars_ten_toDigits

/-- A report whose number is short enough to be read. -/
def IsShort (x : Report) : Prop := (Decimal.natural x.message.line).length ≤ Numeral.digitLimit

instance (x : Report) : Decidable x.IsShort := inferInstanceAs (Decidable (_ ≤ _))

/-- What the reading of one report answers. -/
def answer (x : Report) : Except CompileFault CompileMessage :=
  if x.IsShort then .ok x.message else .error (.lineTooLong (Decimal.natural x.message.line).length)

lemma lower_name (s : Severity) : s.name.lower = s.name := by
  cases s with
  | error => decide
  | warning => decide

lemma ofRaw_raw (plain : x.IsPlain) : ofRaw x.raw = x.answer := by
  by_cases hshort : x.IsShort
  · have hline : lineOf (Decimal.natural x.message.line) = .ok x.message.line := by
      rw [lineOf, if_neg (Nat.not_lt.mpr hshort), valueOf_natural]
    rw [answer, if_pos hshort]
    simp only [ofRaw, raw, hline, lower_name, Severity.ofName?_name, plain.trimmed]
    rfl
  · have hline : lineOf (Decimal.natural x.message.line) =
        .error (.lineTooLong (Decimal.natural x.message.line).length) := by
      rw [lineOf, if_pos (Nat.lt_of_not_le hshort)]
    rw [answer, if_neg hshort]
    simp only [ofRaw, raw, hline]
    rfl

/-- The reports are read one after the other. -/
lemma read_lines (plain : ∀ x ∈ xs, x.IsPlain) :
    read (joinLines (xs.map line)) = xs.mapM answer := by
  rw [read, scan_lines plain]
  induction xs with
  | nil => rfl
  | cons x xs ih =>
    obtain ⟨hx, hxs⟩ := List.forall_mem_cons.mp plain
    rw [List.map_cons, List.mapM_cons, List.mapM_cons, ofRaw_raw hx, ih hxs]

lemma mapM_answer_of_short (short : ∀ x ∈ xs, x.IsShort) :
    xs.mapM answer = .ok (xs.map message) := by
  induction xs with
  | nil => rfl
  | cons x xs ih =>
    obtain ⟨hx, hxs⟩ := List.forall_mem_cons.mp short
    rw [List.mapM_cons, ih hxs, answer, if_pos hx]
    rfl

lemma mapM_answer_of_long (before after : List Report)
    (short : ∀ y ∈ before, y.IsShort) (long : ¬ x.IsShort) :
    (before ++ x :: after).mapM answer =
      .error (.lineTooLong (Decimal.natural x.message.line).length) := by
  rw [List.mapM_append, mapM_answer_of_short short, List.mapM_cons, answer, if_neg long]
  rfl

/-- What compilers report is read back message by message, unless a number has too many digits: the
first such is refused. -/
theorem read_reports (plain : ∀ x ∈ xs, x.IsPlain) :
    ((∀ x ∈ xs, x.IsShort) → read (joinLines (xs.map line)) = .ok (xs.map message)) ∧
    ∀ before x after, xs = before ++ x :: after → (∀ y ∈ before, y.IsShort) → ¬ x.IsShort →
      read (joinLines (xs.map line)) =
        .error (.lineTooLong (Decimal.natural x.message.line).length) := by
  rw [read_lines plain]
  refine ⟨mapM_answer_of_short, ?_⟩
  rintro before x after rfl short long
  exact mapM_answer_of_long before after short long

instance (x : Report) : Decidable x.IsPlain :=
  decidable_of_iff ('\'' ∉ x.shaderName ∧
    (∀ c ∈ x.message.message ++ x.suffix, c.toNat < 128) ∧ x.message.message ≠ [] ∧
    strip x.message.message = x.message.message ∧ '\n' ∉ x.message.message ++ x.suffix ∧
    Unnumbered x.message.message ∧
    (∀ c ∈ x.suffix.head?, c.isDigit = false) ∧ ¬ opening .error <:+: x.suffix.map Char.toLower ∧
    ¬ opening .warning <:+: x.suffix.map Char.toLower)
    ⟨fun ⟨hname, hascii, hne, htrim, hline, hnumber, hstop, herror, hwarning⟩ =>
      ⟨hname, hascii, hne, htrim, hline, hnumber, hstop,
        fun s => match s with | .error => herror | .warning => hwarning⟩,
    fun h => ⟨h.name, h.ascii, h.nonempty, h.trimmed, h.unbroken, h.unnumbered, h.stop,
      h.silent _, h.silent _⟩⟩

/-- Texts that look like lines of the output themselves. -/
def nested : List Report := [
  ⟨"Lab/Demo".toList,
    ⟨"undeclared identifier 'x': at line: at line x".toList, 42, .error⟩, " (on d3d11)".toList⟩,
  ⟨"A".toList, ⟨"Shader error in 'B': y at line".toList, 0, .warning⟩,
    "; SHADER ERROR in B at line 3".toList⟩,
  ⟨[], ⟨"'".toList, 107, .error⟩, []⟩]

/-- The smallest number that has too many digits. -/
def overlong : Report := ⟨"A".toList, ⟨"x".toList, 10 ^ Numeral.digitLimit, .error⟩, []⟩

lemma length_overlong :
    (Decimal.natural overlong.message.line).length = Numeral.digitLimit + 1 := by
  have hlower : ¬ (Decimal.natural overlong.message.line).length ≤ Numeral.digitLimit := by
    rw [Decimal.natural, Nat.length_toDigits_le_iff (by decide) (by decide)]
    exact Nat.lt_irrefl _
  have hupper : (Decimal.natural overlong.message.line).length ≤ Numeral.digitLimit + 1 := by
    rw [Decimal.natural, Nat.length_toDigits_le_iff (by decide) (by decide)]
    exact Nat.pow_lt_pow_right (by decide) (Nat.lt_succ_self _)
  omega

lemma not_isShort_overlong : ¬ overlong.IsShort := by
  rw [IsShort, length_overlong]
  omega

theorem read_reports_nested : read (joinLines (nested.map line)) = .ok (nested.map message) ∧
    read (joinLines ((nested ++ [overlong]).map line)) =
      .error (.lineTooLong (Numeral.digitLimit + 1)) := by
  have hplain : ∀ x ∈ nested ++ [overlong], x.IsPlain := by decide
  have hrefused := (read_reports hplain).2 nested overlong [] rfl (by decide) not_isShort_overlong
  rw [length_overlong] at hrefused
  exact ⟨(read_reports (by decide)).1 (by decide), hrefused⟩

/-- A plain report with such a number is not read back. -/
theorem read_overlong :
    overlong.IsPlain ∧
      read (joinLines ([overlong].map line)) = .error (.lineTooLong (Numeral.digitLimit + 1)) ∧
    read (joinLines ([overlong].map line)) ≠ .ok ([overlong].map message) := by
  have hplain : overlong.IsPlain := by decide
  have hread :
      read (joinLines ([overlong].map line)) = .error (.lineTooLong (Numeral.digitLimit + 1)) := by
    rw [read_lines (by simpa using hplain), ← length_overlong]
    exact mapM_answer_of_long [] [] (by simp) not_isShort_overlong
  refine ⟨hplain, hread, ?_⟩
  rw [hread]
  nofun

end Report
end CompileMessage
end MarkedShader
