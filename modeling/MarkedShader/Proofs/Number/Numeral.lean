import MarkedShader.Number.Decimal
import MarkedShader.Number.Numeral
import MarkedShader.Proofs.Text.Lines
import MarkedShader.Text.Word

/-! Natural numbers are read back from their numerals. -/
namespace MarkedShader
namespace Numeral
open Text

/-- The value of a decimal digit. -/
theorem digit?_of_isDigit {c : Char} (h : c.isDigit) : digit? c = some (c.toNat - 48) := by
  have hc : c.toNat < 128 := by
    simp only [Char.isDigit, Bool.and_eq_true, decide_eq_true_eq, UInt32.le_iff_toNat_le] at h
    have : c.toNat ≤ 57 := h.2
    omega
  rw [digit?, if_pos hc, if_pos h]
  rfl

lemma sub_lt_ten_of_isDigit {c : Char} (h : c.isDigit) : c.toNat - 48 < 10 := by
  simp only [Char.isDigit, Bool.and_eq_true, decide_eq_true_eq, UInt32.le_iff_toNat_le] at h
  have : c.toNat ≤ 57 := h.2
  omega

lemma digitIn?_of_isDigit {c : Char} (h : c.isDigit) : digitIn? 10 c = some (c.toNat - 48) := by
  simp [digitIn?, digit?_of_isDigit h, sub_lt_ten_of_isDigit h]

lemma isWord_of_isDigit {c : Char} (h : c.isDigit) : isWord c := by
  have hc : c.toNat < 128 := by
    simp only [Char.isDigit, Bool.and_eq_true, decide_eq_true_eq, UInt32.le_iff_toNat_le] at h
    have : c.toNat ≤ 57 := h.2
    omega
  simp [isWord, if_pos hc, Char.isAlphanum, h]

lemma digitsFrom_of_isDigit {ds : Text} (h : ∀ c ∈ ds, c.isDigit) (after : Bool) :
    digitsFrom (digitIn? 10) after ds = (ds.map fun c => c.toNat - 48, []) := by
  induction ds generalizing after with
  | nil => rfl
  | cons c ds ih =>
    rw [digitsFrom, digitIn?_of_isDigit (h c List.mem_cons_self)]
    simp only [ih fun d hd => h d (List.mem_cons_of_mem _ hd), List.map_cons]

lemma valueIn_map (ds : Text) :
    valueIn 10 (ds.map fun c => c.toNat - 48) = Nat.ofDigitChars 10 ds 0 := by
  rw [valueIn, Nat.ofDigitChars_eq_foldl, List.foldl_map]
  rfl

/-- The numeral of a natural number consists of decimal digits. -/
theorem isDigit_of_mem_natural {n : Nat} {c : Char} (h : c ∈ Decimal.natural n) : c.isDigit :=
  Nat.isDigit_of_mem_toDigits (b := 10) (by decide) (by decide) h

/-- The numeral of a natural number is a word. -/
theorem isName_natural (n : Nat) : IsName (Decimal.natural n) :=
  ⟨Nat.toDigits_ne_nil, fun _ hc => isWord_of_isDigit (isDigit_of_mem_natural hc)⟩

lemma integer_natural {n : Nat} (h : (Decimal.natural n).length ≤ digitLimit) :
    integer (Decimal.natural n) = .ok n := by
  have hdigits : ∀ c ∈ Decimal.natural n, c.isDigit := fun _ => isDigit_of_mem_natural
  have hne : Decimal.natural n ≠ [] := Nat.toDigits_ne_nil
  have hmargin : ∀ c ∈ Decimal.natural n, isMargin c = false := fun c hc => by
    simp [isMargin, isBlank_of_isWord (isWord_of_isDigit (hdigits c hc))]
  have htrim : trimBoth isMargin (Decimal.natural n) = Decimal.natural n :=
    trimBoth_eq_self (fun c hc => hmargin c (List.mem_of_head? hc)) fun c hc =>
      hmargin c (List.mem_of_getLast? hc)
  have hsign : sign (Decimal.natural n) = (false, Decimal.natural n) := by
    generalize Decimal.natural n = t at hdigits
    unfold sign
    split
    · exact absurd (hdigits '-' List.mem_cons_self) (by decide)
    · exact absurd (hdigits '+' List.mem_cons_self) (by decide)
    · rfl
  have hbase : afterBase 10 (Decimal.natural n) = Decimal.natural n := by
    unfold afterBase
    split
    · exact if_neg nofun
    · rfl
  have hread := digitsFrom_of_isDigit hdigits false
  have hvalue := valueIn_map (Decimal.natural n)
  rw [show Nat.ofDigitChars 10 (Decimal.natural n) 0 = n from
    Nat.ofDigitChars_ten_toDigits] at hvalue
  have hlength : ((Decimal.natural n).map fun c => c.toNat - 48).length ≤ digitLimit := by
    rwa [List.length_map]
  have hcons : ((Decimal.natural n).map fun c => c.toNat - 48) ≠ [] := by simpa using hne
  simp only [integer, integerIn, htrim, hsign, hbase, hread]
  generalize (Decimal.natural n).map (fun c => c.toNat - 48) = ds at hvalue hlength hcons
  cases ds with
  | nil => contradiction
  | cons d ds =>
    have : ¬ digitLimit < (d :: ds).length := by omega
    simp only [List.head?_nil, reduceCtorEq, if_false, this, decide_false, Bool.and_false,
      Bool.false_eq_true, List.isEmpty_nil, if_true, hvalue]

end Numeral
end MarkedShader
