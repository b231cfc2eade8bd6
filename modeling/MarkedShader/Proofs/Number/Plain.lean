import MarkedShader.Number
import MarkedShader.Proofs.Number.Numeral
import MarkedShader.Proofs.Plain

/-! The plain notation of a number consists of word characters, signs and points. -/
namespace MarkedShader
open Text

/-- A character that stands in plain notation. -/
def IsNumeric (c : Char) : Prop := isWord c ∨ c = '-' ∨ c = '.'

variable {c : Char}

lemma isNumeric_natural {n : Nat} (h : c ∈ Decimal.natural n) : IsNumeric c :=
  .inl (Numeral.isWord_of_isDigit (Numeral.isDigit_of_mem_natural h))

lemma isNumeric_zeros {n : Nat} (h : c ∈ List.replicate n '0') : IsNumeric c := by
  rw [List.eq_of_mem_replicate h]
  exact .inl (by decide)

namespace Decimal

lemma isNumeric_plain {d : Decimal} (h : c ∈ d.plain) : IsNumeric c := by
  unfold plain at h
  split at h
  · rcases List.mem_append.mp h with h | h
    · exact isNumeric_natural h
    · exact isNumeric_zeros h
  · rename_i places hexponent
    have hpadded : ∀ c ∈ List.replicate (places+1+1 - (natural d.coefficient).length) '0' ++
        natural d.coefficient, IsNumeric c := by
      intro c hc
      rcases List.mem_append.mp hc with hc | hc
      · exact isNumeric_zeros hc
      · exact isNumeric_natural hc
    simp only [splitAtPoint, List.splitAt_eq] at h
    generalize List.replicate (places+1+1 - (natural d.coefficient).length) '0' ++
      natural d.coefficient = padded at *
    have hwhole : c ∈ padded.take (padded.length - (places+1)) → IsNumeric c :=
      fun hc => hpadded c (List.mem_of_mem_take hc)
    split_ifs at h
    · exact hwhole h
    · rcases List.mem_append.mp h with h | h
      · exact hwhole h
      · rcases List.mem_cons.mp h with rfl | h
        · exact .inr (.inr rfl)
        · exact hpadded c (List.mem_of_mem_drop ((prefix_trimEnd _ _).subset h))

end Decimal

namespace Number

lemma isNumeric_sign {negative : Bool} (h : c ∈ if negative then ['-'] else []) : IsNumeric c := by
  cases negative with
  | false => exact absurd h List.not_mem_nil
  | true => exact .inr (.inl (List.mem_singleton.mp h))

lemma isNumeric_plain {n : Number} (h : c ∈ n.plain) : IsNumeric c := by
  cases n with
  | int i =>
    rw [plain, Decimal.integer] at h
    split_ifs at h
    · rcases List.mem_cons.mp h with rfl | h
      · exact .inr (.inl rfl)
      · exact isNumeric_natural h
    · exact isNumeric_natural h
  | real x =>
    cases x with
    | finite negative m q =>
      rcases List.mem_append.mp h with h | h
      · exact isNumeric_sign h
      · exact Decimal.isNumeric_plain h
    | infinite negative =>
      rcases List.mem_append.mp h with h | h
      · exact isNumeric_sign h
      · have : ∀ c ∈ "Infinity".toList, isWord c := by decide
        exact .inl (this c h)
    | nan serial =>
      have : ∀ c ∈ "NaN".toList, isWord c := by decide
      exact .inl (this c h)

/-- Plain notation consists of digits, a sign and a point. -/
theorem not_mem_plain (n : Number) (hc : isWord c = false)
    (hne : c ∉ ['-', '.']) : c ∉ n.plain := by
  simp only [List.mem_cons, List.not_mem_nil, or_false, not_or] at hne
  intro h
  rcases isNumeric_plain h with h | h | h
  · rw [hc] at h
    contradiction
  · exact hne.1 h
  · exact hne.2 h

lemma plain_plain (pre : Text) (n : Number) : Plain pre n.plain := by
  have hfree :
      ∀ c ∈ ['"', '\n', '\r', '\x7b', '\x7d', '/', '['], isWord c = false ∧ c ∉ ['-', '.'] := by
    decide
  exact plain_of_free fun c hc => not_mem_plain n (hfree c hc).1 (hfree c hc).2

end Number
end MarkedShader
