import MarkedShader.Text.Blank
import MarkedShader.Text.Word
import Mathlib.Data.List.TakeWhile
import Mathlib.Tactic.ByContra

/-! What the small readers of a text answer: runs of characters, blanks, words and quoted texts. -/
namespace MarkedShader.Text

variable {p : Char → Bool} {t a r : Text}

lemma dropWhile_of_stop (stop : ∀ c ∈ t.head?, p c = false) : t.dropWhile p = t := by
  cases t with
  | nil => rfl
  | cons c t => simp [stop c rfl]

lemma takeWhile_of_stop (stop : ∀ c ∈ t.head?, p c = false) : t.takeWhile p = [] := by
  cases t with
  | nil => rfl
  | cons c t => simp [stop c rfl]

lemma stop_dropWhile (p : Char → Bool) (t : Text) : ∀ c ∈ (t.dropWhile p).head?, p c = false := by
  intro c hc
  have := List.head?_dropWhile_not p t
  simp_all

lemma run?_eq_some_iff :
    run? p t = some (a, r) ↔ t = a ++ r ∧ a ≠ [] ∧ (∀ c ∈ a, p c) ∧ ∀ c ∈ r.head?, p c = false := by
  simp only [run?, Option.ite_none_left_eq_some, List.isEmpty_iff, Option.some.injEq, Prod.mk.injEq]
  constructor
  · rintro ⟨hne, rfl, rfl⟩
    exact ⟨List.takeWhile_append_dropWhile.symm, hne,
      fun c hc => List.all_eq_true.mp List.all_takeWhile c hc,
      stop_dropWhile p t⟩
  · rintro ⟨rfl, hne, hall, stop⟩
    rw [List.takeWhile_append_of_pos hall, List.dropWhile_append_of_pos hall,
      takeWhile_of_stop stop, dropWhile_of_stop stop, List.append_nil]
    exact ⟨hne, rfl, rfl⟩

/-- A word is read up to a character that is of no word. -/
theorem word?_append {w : Text} (hne : w ≠ []) (hw : ∀ c ∈ w, isWord c)
    (stop : ∀ c ∈ r.head?, isWord c = false) :
    word? (w ++ r) = some (w, r) := run?_eq_some_iff.mpr ⟨rfl, hne, hw, stop⟩

/-- Blanks before a text make no difference to where it goes on. -/
theorem skipBlanks_append {m : Text} (hm : ∀ c ∈ m, isBlank c) (t : Text) :
    skipBlanks (m ++ t) = skipBlanks t :=
  List.dropWhile_append_of_pos hm

lemma skipBlanks_of_stop (stop : ∀ c ∈ t.head?, isBlank c = false) : skipBlanks t = t :=
  dropWhile_of_stop stop

lemma blanks?_eq_some_iff :
    blanks? t = some r ↔ ∃ c s, t = c :: s ∧ isBlank c ∧ r = skipBlanks s := by
  cases t with
  | nil => simp [blanks?]
  | cons c t =>
    simp only [blanks?, Option.ite_none_right_eq_some, Option.some.injEq, List.cons.injEq]
    constructor
    · rintro ⟨hc, rfl⟩
      exact ⟨c, t, ⟨rfl, rfl⟩, hc, rfl⟩
    · rintro ⟨_, _, ⟨rfl, rfl⟩, hc, rfl⟩
      exact ⟨hc, rfl⟩

/-- No run of letters and numerals holds a blank above ASCII. -/
theorem isWord_of_isBlank {c : Char} (h : isBlank c) : isWord c = false := by
  have runs : ∀ p ∈ alphanumericRanges.toList,
      ∀ n ∈ [0x85, 0xA0, 0x1680, 0x2028, 0x2029, 0x202F, 0x205F, 0x3000],
      ¬ (p.1 ≤ n ∧ n ≤ p.2) := by
    decide +kernel
  have spaces : ∀ p ∈ alphanumericRanges.toList, p.2 < 0x2000 ∨ 0x200A < p.1 := by decide +kernel
  have ascii : ∀ n ∈ List.range' 9 24, isBlank (Char.ofNat n) → isWord (Char.ofNat n) = false := by
    decide
  by_cases hn : c.toNat < 128
  · have hc := h
    simp only [isBlank, Bool.or_eq_true, Bool.and_eq_true, decide_eq_true_eq, beq_iff_eq] at h
    have := ascii c.toNat (List.mem_range'_1.mpr (by omega))
    rw [Char.ofNat_toNat] at this
    exact this hc
  · rw [isWord, if_neg hn, ← Array.any_toList, List.any_eq_false]
    intro p hp
    simp only [isBlank, Bool.or_eq_true, Bool.and_eq_true, decide_eq_true_eq, beq_iff_eq] at h
    rw [Bool.and_eq_true, decide_eq_true_eq, decide_eq_true_eq]
    rcases h with (((((((((h | h) | h) | h) | h) | h) | h) | h) | h) | h) | h
    · omega
    · omega
    · exact runs p hp _ (by simp [h])
    · exact runs p hp _ (by simp [h])
    · exact runs p hp _ (by simp [h])
    · have := spaces p hp
      omega
    all_goals exact runs p hp _ (by simp [h])

lemma isBlank_of_isWord {c : Char} (h : isWord c) : isBlank c = false := by
  by_contra hb
  simp [isWord_of_isBlank (by simpa using hb)] at h

/-- A word and nothing else. -/
def IsName (t : Text) : Prop := t ≠ [] ∧ ∀ c ∈ t, isWord c

instance (t : Text) : Decidable (IsName t) := inferInstanceAs (Decidable (_ ∧ _))

lemma IsName.head_not_blank {w : Text} (h : IsName w) (t : Text) :
    ∀ c ∈ (w ++ t).head?, isBlank c = false := by
  obtain ⟨hne, hw⟩ := h
  cases w with
  | nil => contradiction
  | cons c w => simpa using isBlank_of_isWord (hw c List.mem_cons_self)

lemma IsName.not_mem {w : Text} (h : IsName w) {c : Char} (hc : isWord c = false) : c ∉ w := by
  intro hmem
  rw [h.2 c hmem] at hc
  contradiction

/-- A quoted text is read up to its second quote. -/
theorem quoted?_append {v : Text} (h : '"' ∉ v) (r : Text) :
    quoted? ('"' :: (v ++ '"' :: r)) = some (v, r) :=
  upTo?_eq_some_iff.mpr ⟨rfl, h⟩

lemma quotedName?_append {v : Text} (h : '"' ∉ v) (hne : v ≠ []) (r : Text) :
    quotedName? ('"' :: (v ++ '"' :: r)) = some (v, r) := by
  simp [quotedName?, quoted?_append h, hne]

end MarkedShader.Text
