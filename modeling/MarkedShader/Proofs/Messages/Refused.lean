import MarkedShader.Proofs.Messages

/-! Which outputs of a compiler are refused. A message is found without regard to case, over all of
Unicode, but its severity is looked up by the lower case of its word: a warning that is written with
a dotted or a dotless I is found and then not known.

Main statement: `read_found`. -/
namespace MarkedShader

namespace Text

lemma toNat_lt_of_toLower {c : Char} (h : c.toLower.toNat < 128) : c.toNat < 128 := by
  by_contra hc
  have hsame : c.toLower = c := by
    refine dif_neg ?_
    rintro ⟨-, hle⟩
    exact hc (lt_of_le_of_lt (UInt32.le_iff_toNat_le.mp hle) (by decide))
  exact hc (hsame ▸ h)

lemma lowerFrom_eq_map {t : Text} (ascii : ∀ c ∈ t, c.toNat < 128) (before : Text) :
    lowerFrom before t = t.map Char.toLower := by
  induction t generalizing before with
  | nil => rfl
  | cons c t ih =>
    obtain ⟨hc, ascii⟩ := List.forall_mem_cons.mp ascii
    have hsigma : c ≠ '\u03A3' := by
      rintro rfl
      exact absurd hc (by decide)
    rw [lowerFrom, if_neg hsigma, lowerChar, if_pos hc, ih ascii]
    rfl

/-- What the lower case of a character holds stands in the lower case of a text with it. -/
lemma mem_lowerFrom {t : Text} {c d : Char} (hc : c ∈ t) (hsigma : c ≠ '\u03A3')
    (hd : d ∈ lowerChar c) (before : Text) : d ∈ lowerFrom before t := by
  induction t generalizing before with
  | nil => contradiction
  | cons e t ih =>
    rw [lowerFrom, List.mem_append]
    rcases List.mem_cons.mp hc with rfl | hc
    · exact .inl (by rwa [if_neg hsigma])
    · exact .inr (ih hc _)

end Text

namespace CompileMessage
open Text

/-- Words that name a severity when case is ignored. -/
def SpellsSeverity (s : Severity) (word : Text) : Prop :=
  List.Forall₂ (fun l c => isLetter l c) s.name word

lemma ascii_of_letters {lead word : Text} (h : List.Forall₂ (fun l c => isLetter l c) lead word)
    (hlead : ∀ l ∈ lead, l.toNat < 128 ∧ l ≠ 's') (hdotted : '\u0130' ∉ word)
    (hdotless : '\u0131' ∉ word) : ∀ c ∈ word, c.toNat < 128 := by
  induction h with
  | nil => simp
  | @cons l c _ _ hc _ ih =>
    obtain ⟨⟨hl, hs⟩, hlead⟩ := List.forall_mem_cons.mp hlead
    rw [List.mem_cons, not_or] at hdotted hdotless
    have hlower : c.toLower = l := by
      simpa [isLetter, hs, Ne.symm hdotted.1, Ne.symm hdotless.1] using hc
    exact List.forall_mem_cons.mpr
      ⟨toNat_lt_of_toLower (hlower ▸ hl), ih hlead hdotted.2 hdotless.2⟩

lemma ofName?_eq_none {word : Text} {c : Char} (hc : c ∈ word) (wide : 128 ≤ c.toNat) :
    Severity.ofName? word = none := by
  refine List.find?_eq_none.mpr fun s _ => ?_
  rw [decide_eq_true_eq]
  rintro rfl
  have hascii : ∀ c ∈ s.name, c.toNat < 128 := by cases s <;> decide
  exact absurd (hascii c hc) (Nat.not_lt.mpr wide)

lemma lowerChar_dotless : lowerChar '\u0131' = ['\u0131'] := by decide +kernel

namespace SpellsSeverity

variable {s : Severity} {word : Text}

lemma lower_eq (h : SpellsSeverity s word) (hdotted : '\u0130' ∉ word)
    (hdotless : '\u0131' ∉ word) : word.lower = s.name := by
  have hascii := ascii_of_letters h (by cases s <;> decide) hdotted hdotless
  rw [lower, lowerFrom_eq_map hascii, map_toLower_of_letters h hascii]

/-- A word for a severity is known unless it has a dotted capital or a dotless I. -/
lemma ofName?_lower (h : SpellsSeverity s word) :
    Severity.ofName? word.lower = if '\u0130' ∈ word ∨ '\u0131' ∈ word then none else some s := by
  split_ifs with hi
  · rcases hi with hi | hi
    · exact ofName?_eq_none
        (mem_lowerFrom (d := '\u0307') hi (by decide) (by decide) []) (by decide)
    · exact ofName?_eq_none (mem_lowerFrom hi (by decide)
        (lowerChar_dotless ▸ List.mem_singleton_self _) []) (by decide)
  · rw [not_or] at hi
    rw [h.lower_eq hi.1 hi.2, Severity.ofName?_name]

end SpellsSeverity

/-- The messages of an output as they stand in it. -/
def found (output : Text) : List Raw := scan (fun _ => at?) none 0 output

lemma spellsSeverity_of_severityWord? {t : Text} {p : Text × Text} (h : severityWord? t = some p) :
    ∃ s, SpellsSeverity s p.1 := by
  obtain ⟨word, hword, hp⟩ := List.exists_of_findSome?_eq_some h
  obtain ⟨r, hr, rfl⟩ := Option.map_eq_some_iff.mp hp
  obtain ⟨w, hw, hletters⟩ := exists_of_afterAnyCase? hr
  have htake : t.take word.length = w := by rw [hw, hletters.length_eq, List.take_left]
  rw [htake]
  simp only [List.mem_cons, List.not_mem_nil, or_false] at hword
  rcases hword with rfl | rfl
  · exact ⟨.error, hletters⟩
  · exact ⟨.warning, hletters⟩

lemma spellsSeverity_of_mem_found {output : Text} {r : Raw} (h : r ∈ found output) :
    ∃ s, SpellsSeverity s r.severity := by
  obtain ⟨-, t, n, -, hr⟩ := exists_of_mem_scan h
  simp only [at?, Option.bind_eq_bind, Option.bind_eq_some_iff] at hr
  obtain ⟨u, -, p, hp, v, -, q, -, w, -, m, -, hm⟩ := hr
  obtain rfl := congrArg Prod.fst (Option.some.inj hm)
  exact spellsSeverity_of_severityWord? hp

namespace Raw

/-- Messages whose number is not too long and whose severity has neither a dotted capital nor a
dotless I. -/
def IsReadable (r : Raw) : Prop :=
  r.line.length ≤ Numeral.digitLimit ∧ '\u0130' ∉ r.severity ∧ '\u0131' ∉ r.severity

instance (r : Raw) : Decidable r.IsReadable := inferInstanceAs (Decidable (_ ∧ _))

/-- A message that is read from what stands in the output. -/
structure Reads (r : Raw) (m : CompileMessage) : Prop where
  message : m.message = strip r.message
  line : m.line = Numeral.valueOf (r.line.filterMap digit?)
  severity : m.severity.name = r.severity.lower

/-- Why a message is not read. The number is looked at first. -/
def refusal (r : Raw) : CompileFault :=
  if Numeral.digitLimit < r.line.length then .lineTooLong r.line.length
    else .unknownSeverity r.severity.lower

variable {r : Raw} {s : Severity}

lemma ofRaw_of_readable (hs : SpellsSeverity s r.severity) (h : r.IsReadable) :
    ofRaw r = .ok ⟨strip r.message, Numeral.valueOf (r.line.filterMap digit?), s⟩ := by
  obtain ⟨hline, hi⟩ := h
  simp only [ofRaw, lineOf, if_neg (Nat.not_lt.mpr hline), hs.ofName?_lower, if_neg (not_or.mpr hi)]
  rfl

lemma ofRaw_of_not_readable (hs : SpellsSeverity s r.severity) (h : ¬ r.IsReadable) :
    ofRaw r = .error r.refusal := by
  rw [refusal]
  split_ifs with hline
  · simp only [ofRaw, lineOf, if_pos hline]
    rfl
  · have hi : '\u0130' ∈ r.severity ∨ '\u0131' ∈ r.severity := by
      by_contra hi
      exact h ⟨Nat.not_lt.mp hline, not_or.mp hi⟩
    simp only [ofRaw, lineOf, if_neg hline, hs.ofName?_lower, if_pos hi]
    rfl

end Raw

section

variable {ε α β : Type} {f : α → Except ε β}

lemma exists_mapM_eq_ok {R : α → β → Prop} {as : List α} (h : ∀ a ∈ as, ∃ b, f a = .ok b ∧ R a b) :
    ∃ bs, as.mapM f = .ok bs ∧ List.Forall₂ R as bs := by
  induction as with
  | nil => exact ⟨[], rfl, .nil⟩
  | cons a as ih =>
    obtain ⟨⟨b, hb, hab⟩, hrest⟩ := List.forall_mem_cons.mp h
    obtain ⟨bs, hbs, hall⟩ := ih hrest
    refine ⟨b :: bs, ?_, .cons hab hall⟩
    rw [List.mapM_cons, hb, hbs]
    rfl

lemma mapM_eq_error_of_first {before after : List α} {a : α} {e : ε}
    (h : ∀ b ∈ before, ∃ c, f b = .ok c) (ha : f a = .error e) :
    (before ++ a :: after).mapM f = .error e := by
  obtain ⟨cs, hcs, -⟩ :=
    exists_mapM_eq_ok (R := fun _ _ => True) fun b hb => (h b hb).imp fun _ hc => ⟨hc, trivial⟩
  rw [List.mapM_append, hcs, List.mapM_cons, ha]
  rfl

end

/-- Every output is read message by message if all that is found is readable; otherwise the first
message that is not is refused. What is found always spells a severity, so that nothing else is
refused. -/
theorem read_found (output : Text) : (∀ r ∈ found output, ∃ s, SpellsSeverity s r.severity) ∧
    ((∀ r ∈ found output, r.IsReadable) → ∃ ms, read output = .ok ms ∧
      List.Forall₂ Raw.Reads (found output) ms) ∧
    ∀ before r after, found output = before ++ r :: after →
      (∀ q ∈ before, q.IsReadable) → ¬ r.IsReadable →
      read output = .error r.refusal := by
  have hspell : ∀ r ∈ found output, ∃ s, SpellsSeverity s r.severity :=
    fun r => spellsSeverity_of_mem_found
  have hread : ∀ r ∈ found output, r.IsReadable → ∃ m, ofRaw r = .ok m ∧ r.Reads m := by
    intro r hr readable
    obtain ⟨s, hs⟩ := hspell r hr
    exact ⟨_, Raw.ofRaw_of_readable hs readable, rfl, rfl,
      (hs.lower_eq readable.2.1 readable.2.2).symm⟩
  refine ⟨hspell, fun readable => exists_mapM_eq_ok fun r hr => hread r hr (readable r hr), ?_⟩
  intro before r after hfound readable unreadable
  obtain ⟨s, hs⟩ := hspell r (by simp [hfound])
  have hbefore : ∀ q ∈ before, ∃ m, ofRaw q = .ok m := fun q hq =>
    (hread q (by simp [hfound, hq]) (readable q hq)).imp fun _ h => h.1
  change (found output).mapM ofRaw = _
  rw [hfound]
  exact mapM_eq_error_of_first hbefore (Raw.ofRaw_of_not_readable hs unreadable)

/-- A warning as it is usually written. -/
def dotted : Text := "Shader Warning in 'A': x at line 1".toList

/-- The same with a dotless I behind it. -/
def dotless : Text := dotted ++ "\nShader warn\u0131ng in 'A': x at line 2".toList

theorem read_found_dotless :
    (∃ ms, read dotted = .ok ms ∧
      List.Forall₂ Raw.Reads [⟨"Warning".toList, "x".toList, "1".toList⟩] ms) ∧
    read dotless = .error (.unknownSeverity "warn\u0131ng".toList) := by
  have hread := (read_found dotted).2.1 (by decide)
  have hdotted : found dotted = [⟨"Warning".toList, "x".toList, "1".toList⟩] := by decide
  have hdotless : found dotless = [⟨"Warning".toList, "x".toList, "1".toList⟩] ++
      ⟨"warn\u0131ng".toList, "x".toList, "2".toList⟩ :: [] := by decide
  have hrefused := (read_found dotless).2.2 _ _ _ hdotless (by decide) (by decide)
  exact ⟨hdotted ▸ hread, hrefused.trans (by decide +kernel)⟩

end CompileMessage
end MarkedShader
