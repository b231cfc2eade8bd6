import MarkedShader.Draft.Lemmas
import MarkedShader.Draft.Writing
import MarkedShader.Proofs.Number.Numeral
import Mathlib.Algebra.Order.Field.Rat
import Mathlib.Tactic.FieldSimp
import Mathlib.Tactic.Ring

/-! The plain notation of a number stands for exactly the value of its spelling, which may have a
power of ten. It is refused for an integer of too many digits.

Main statement: `plain_exact`. -/
namespace MarkedShader
open Text

def Decimal.value (d : Decimal) : ℚ := d.coefficient * 10 ^ d.exponent

/-- The value of digits with the point so many places before their end. -/
def digitsValue (ds : Text) (places : Int) : ℚ := Nat.ofDigitChars 10 ds 0 * 10 ^ (-places)

def signedValue (negative : Bool) (v : ℚ) : ℚ := if negative then -v else v

section
variable {ds : Text} {places : Int}

lemma ofDigitChars_zeros (n : Nat) (ds : Text) :
    Nat.ofDigitChars 10 (List.replicate n '0' ++ ds) 0 = Nat.ofDigitChars 10 ds 0 := by
  rw [Nat.ofDigitChars_append, Nat.ofDigitChars_replicate_zero, Nat.mul_zero]

/-- Zeros before digits do not count. -/
lemma digitsValue_zeros (n : Nat) :
    digitsValue (List.replicate n '0' ++ ds) places = digitsValue ds places := by
  rw [digitsValue, ofDigitChars_zeros, digitsValue]

/-- Zeros behind digits move the point. -/
lemma digitsValue_append_zeros (ds : Text) (places : Int) (n : Nat) :
    digitsValue (ds ++ List.replicate n '0') (places+n) = digitsValue ds places := by
  rw [digitsValue, digitsValue, Nat.ofDigitChars_append, Nat.ofDigitChars_replicate_zero,
    Nat.cast_mul, Nat.cast_pow, Nat.cast_ofNat, neg_add, zpow_add₀ (by norm_num),
    zpow_neg 10 (n : Int), zpow_natCast]
  field_simp

lemma digitsValue_natural (n : Nat) (e : Int) :
    digitsValue (Decimal.natural n) e = Decimal.value ⟨n, -e⟩ := by
  rw [digitsValue, Decimal.value, Decimal.natural, Nat.ofDigitChars_ten_toDigits]

end

def minus (negative : Bool) : Text := if negative then ['-'] else []

/-- A fraction with its point. Without digits there is no point either. -/
def pointed (fraction : Text) : Text := if fraction.isEmpty then [] else '.' :: fraction

namespace Numeral

/-- The sign and the decimal that a numeral stands for. -/
def decimal? (t : Text) : Option (Bool × Decimal) :=
  let (negative, r) := sign (trimBoth isMargin t)
  let (whole, r) := digits r
  let (part, r) := fraction r
  if whole.isEmpty && part.isEmpty then none
  else (exponent? r).map fun e => (negative, ⟨valueOf (whole ++ part), e - part.length⟩)

def value? (t : Text) : Option ℚ := (decimal? t).map fun d => signedValue d.1 d.2.value

/-- Digits end where neither a digit nor an underscore follows. -/
lemma digits_append {ds r : Text} (h : ∀ c ∈ ds, c.isDigit)
    (stop : ∀ c ∈ r.head?, digit? c = none ∧ c ≠ '_') :
    digits (ds ++ r) = (ds.map fun c => c.toNat - 48, r) := by
  have hfrom : ∀ after, digitsFrom digit? after (ds ++ r) = (ds.map fun c => c.toNat - 48, r) := by
    induction ds with
    | nil =>
      intro after
      cases r with
      | nil => rfl
      | cons c r =>
        obtain ⟨hdigit, hline⟩ := stop c rfl
        simp [digitsFrom, hdigit, hline]
    | cons c ds ih =>
      intro after
      rw [List.cons_append, digitsFrom, digit?_of_isDigit (h c List.mem_cons_self)]
      simp only [ih fun d hd => h d (List.mem_cons_of_mem _ hd), List.map_cons]
  exact hfrom false

lemma isDigit_of_mem_zeros {n : Nat} {c : Char} (h : c ∈ List.replicate n '0') : c.isDigit := by
  rw [List.eq_of_mem_replicate h]
  rfl

lemma valueOf_map (ds : Text) :
    valueOf (ds.map fun c => c.toNat - 48) = Nat.ofDigitChars 10 ds 0 := valueIn_map ds

lemma isMargin_of_isDigit {c : Char} (h : c.isDigit) : isMargin c = false := by
  simp [isMargin, isBlank_of_isWord (isWord_of_isDigit h)]

/-- What can stand behind the digits of a numeral: nothing, or a power of ten. -/
structure IsTail (tail : Text) (e : Int) : Prop where
  power : exponent? tail = some e
  stop : ∀ c ∈ tail.head?, digit? c = none ∧ c ≠ '_' ∧ c ≠ '.'
  margin : ∀ c ∈ tail, isMargin c = false

lemma isTail_nil : IsTail [] 0 := ⟨rfl, nofun, nofun⟩

section
variable {negative : Bool} {whole part tail : Text} {e : Int}

/-- Nothing in a numeral is trimmed off. -/
lemma isMargin_parts (hwhole : ∀ c ∈ whole, c.isDigit)
    (hpart : ∀ c ∈ part, c.isDigit) (htail : IsTail tail e) :
    ∀ c ∈ minus negative ++ (whole ++ (pointed part ++ tail)), isMargin c = false := by
  intro c hc
  simp only [List.mem_append] at hc
  rcases hc with hc | hc | hc | hc
  · rw [minus] at hc
    split_ifs at hc
    · rw [List.mem_singleton.mp hc]
      decide
    · exact absurd hc List.not_mem_nil
  · exact isMargin_of_isDigit (hwhole c hc)
  · rw [pointed] at hc
    split_ifs at hc
    · exact absurd hc List.not_mem_nil
    · rcases List.mem_cons.mp hc with rfl | hc
      · decide
      · exact isMargin_of_isDigit (hpart c hc)
  · exact htail.margin c hc

lemma sign_minus (hne : whole ≠ []) (hwhole : ∀ c ∈ whole, c.isDigit) (r : Text) :
    sign (minus negative ++ (whole ++ r)) = (negative, whole ++ r) := by
  cases negative with
  | true => rfl
  | false =>
    obtain ⟨c, w, rfl⟩ := List.exists_cons_of_ne_nil hne
    have hc := hwhole c List.mem_cons_self
    simp only [minus, Bool.false_eq_true, if_false, List.nil_append, List.cons_append]
    unfold sign
    split
    · obtain ⟨rfl, -⟩ := List.cons.inj ‹_›
      exact absurd hc (by decide)
    · obtain ⟨rfl, -⟩ := List.cons.inj ‹_›
      exact absurd hc (by decide)
    · rfl

lemma digits_whole (hwhole : ∀ c ∈ whole, c.isDigit) (htail : IsTail tail e) :
    digits (whole ++ (pointed part ++ tail)) =
      (whole.map fun c => c.toNat - 48, pointed part ++ tail) := by
  refine digits_append hwhole fun c hc => ?_
  rw [pointed] at hc
  split_ifs at hc
  · exact ⟨(htail.stop c hc).1, (htail.stop c hc).2.1⟩
  · rw [← Option.some.inj hc]
    decide

lemma fraction_pointed (hpart : ∀ c ∈ part, c.isDigit) (htail : IsTail tail e) :
    fraction (pointed part ++ tail) = (part.map fun c => c.toNat - 48, tail) := by
  rw [pointed]
  split_ifs with hempty
  · rw [List.isEmpty_iff.mp hempty, List.nil_append, List.map_nil]
    unfold fraction
    split
    · exact absurd rfl (htail.stop '.' rfl).2.2
    · rfl
  · exact digits_append hpart fun c hc => ⟨(htail.stop c hc).1, (htail.stop c hc).2.1⟩

/-- A numeral is read from its parts. -/
lemma decimal?_parts (hne : whole ≠ []) (hwhole : ∀ c ∈ whole, c.isDigit)
    (hpart : ∀ c ∈ part, c.isDigit) (htail : IsTail tail e) :
    decimal? (minus negative ++ (whole ++ (pointed part ++ tail))) =
      some (negative, ⟨Nat.ofDigitChars 10 (whole ++ part) 0, e - part.length⟩) := by
  have hmargin := @isMargin_parts negative _ _ _ _ hwhole hpart htail
  have htrim := trimBoth_eq_self (fun c hc => hmargin c (List.mem_of_head? hc)) fun c hc =>
    hmargin c (List.mem_of_getLast? hc)
  have hsome : ((whole.map fun c => c.toNat - 48).isEmpty &&
      (part.map fun c => c.toNat - 48).isEmpty) = false := by
    simp [hne]
  simp only [decimal?, htrim, sign_minus hne hwhole, digits_whole hwhole htail,
    fraction_pointed hpart htail, hsome, htail.power, Bool.false_eq_true, if_false, Option.map_some,
    ← List.map_append, valueOf_map, List.length_map]

/-- The value of a numeral by its parts. -/
lemma value?_parts (negative : Bool) (hne : whole ≠ []) (hwhole : ∀ c ∈ whole, c.isDigit)
    (hpart : ∀ c ∈ part, c.isDigit) (htail : IsTail tail e) :
    value? (minus negative ++ (whole ++ (pointed part ++ tail))) =
      some (signedValue negative (digitsValue (whole ++ part) (part.length-e))) := by
  rw [value?, decimal?_parts hne hwhole hpart htail, Option.map_some, Decimal.value,
    digitsValue, neg_sub]

end

lemma isTail_power (negative : Bool) {ds : Text} (hne : ds ≠ []) (hds : ∀ c ∈ ds, c.isDigit) :
    IsTail ('e' :: (if negative then '-' else '+') :: ds)
      (if negative then -(Nat.ofDigitChars 10 ds 0 : Int) else Nat.ofDigitChars 10 ds 0) := by
  have hread := digits_append (r := []) hds nofun
  rw [List.append_nil] at hread
  have hvalue := valueOf_map ds
  obtain ⟨d, vs, hcons⟩ : ∃ d vs, ds.map (fun c => c.toNat - 48) = d :: vs :=
    List.exists_cons_of_ne_nil (by simpa using hne)
  rw [hcons] at hread hvalue
  refine ⟨?_, ?_, fun c hc => ?_⟩
  · cases negative <;> simp [exponent?, sign, hread, hvalue]
  · rintro _ ⟨⟩
    decide
  · rcases List.mem_cons.mp hc with rfl | hc
    · decide
    rcases List.mem_cons.mp hc with rfl | hc
    · cases negative <;> decide
    · exact isMargin_of_isDigit (hds c hc)

/-- The power of ten as it is spelled: with a sign and at least two digits. -/
def spelledPower (e : Int) : Text :=
  (if e < 0 then "e-".toList else "e+".toList) ++ (Decimal.natural e.natAbs).leftpad 2 '0'

lemma isTail_spelledPower (e : Int) : IsTail (spelledPower e) e := by
  have hdigits : ∀ c ∈ (Decimal.natural e.natAbs).leftpad 2 '0', c.isDigit := by
    intro c hc
    rcases List.mem_append.mp hc with hc | hc
    · exact isDigit_of_mem_zeros hc
    · exact isDigit_of_mem_natural hc
  have hne : (Decimal.natural e.natAbs).leftpad 2 '0' ≠ [] := by
    simp [List.leftpad, Decimal.natural, Nat.toDigits_ne_nil]
  have hvalue : Nat.ofDigitChars 10 ((Decimal.natural e.natAbs).leftpad 2 '0') 0 = e.natAbs := by
    rw [List.leftpad, ofDigitChars_zeros, Decimal.natural, Nat.ofDigitChars_ten_toDigits]
  have htail := isTail_power (decide (e < 0)) hne hdigits
  rw [hvalue] at htail
  by_cases hneg : e < 0
  · simp only [hneg, decide_true, if_true] at htail
    rwa [show -(e.natAbs : Int) = e by omega,
      show 'e' :: '-' :: _ = spelledPower e by simp [spelledPower, hneg]] at htail
  · simp only [hneg, decide_false, Bool.false_eq_true, if_false] at htail
    rwa [show (e.natAbs : Int) = e by omega,
      show 'e' :: '+' :: _ = spelledPower e by simp [spelledPower, hneg]] at htail

end Numeral

/-- A numeral in plain notation: digits, and further digits behind a point if there are any, the
last of which is not zero. -/
structure PlainNumeral where
  negative : Bool
  whole : Text
  fraction : Text
  whole_ne_nil : whole ≠ []
  isDigit_whole : ∀ c ∈ whole, c.isDigit
  isDigit_fraction : ∀ c ∈ fraction, c.isDigit
  getLast?_fraction : fraction.getLast? ≠ some '0'

namespace PlainNumeral

def text (p : PlainNumeral) : Text := minus p.negative ++ (p.whole ++ pointed p.fraction)

def value (p : PlainNumeral) : ℚ :=
  signedValue p.negative (digitsValue (p.whole ++ p.fraction) p.fraction.length)

lemma value?_text (p : PlainNumeral) : Numeral.value? p.text = some p.value := by
  have hparts := Numeral.value?_parts p.negative p.whole_ne_nil p.isDigit_whole p.isDigit_fraction
    Numeral.isTail_nil
  rwa [List.append_nil, sub_zero] at hparts

end PlainNumeral

namespace Decimal

variable {d : Decimal}

lemma trimEnd_zeros (t : Text) : ∃ n, trimEnd (· == '0') t ++ List.replicate n '0' = t := by
  have hsplit : trimEnd (· == '0') t ++ (t.reverse.takeWhile (· == '0')).reverse = t := by
    rw [trimEnd, ← List.reverse_append, List.takeWhile_append_dropWhile, List.reverse_reverse]
  refine ⟨(t.reverse.takeWhile (· == '0')).reverse.length, ?_⟩
  rwa [← List.eq_replicate_of_mem fun c hc => ?_]
  simpa using List.mem_takeWhile_imp (List.mem_reverse.mp hc)

/-- Zeros at the end say nothing, if the point is counted from the first digit. -/
lemma digitsValue_trimEnd (front t : Text) (point : Int) :
    digitsValue (front ++ trimEnd (· == '0') t) ((trimEnd (· == '0') t).length - point) =
      digitsValue (front ++ t) (t.length - point) := by
  obtain ⟨k, hk⟩ := trimEnd_zeros t
  have hlength := congrArg List.length hk
  rw [List.length_append, List.length_replicate] at hlength
  have happend := digitsValue_append_zeros (front ++ trimEnd (· == '0') t)
    ((trimEnd (· == '0') t).length - point) k
  rw [List.append_assoc, hk] at happend
  rw [← happend]
  congr 1
  omega

/-- The digits of the plain notation, which stand for the decimal. -/
lemma exists_plain (d : Decimal) :
    ∃ whole fraction, d.plain = whole ++ pointed fraction ∧ whole ≠ [] ∧
    (∀ c ∈ whole, c.isDigit) ∧ (∀ c ∈ fraction, c.isDigit) ∧ fraction.getLast? ≠ some '0' ∧
    digitsValue (whole ++ fraction) fraction.length = d.value := by
  obtain ⟨n, e⟩ := d
  have hdigits : ∀ c ∈ natural n, c.isDigit := fun _ => Numeral.isDigit_of_mem_natural
  have hne : natural n ≠ [] := Nat.toDigits_ne_nil
  have hzeros : ∀ k, ∀ c ∈ List.replicate k '0', c.isDigit :=
    fun _ _ => Numeral.isDigit_of_mem_zeros
  cases e with
  | ofNat zeros =>
    refine ⟨natural n ++ List.replicate zeros '0', [], by simp [plain, pointed], by simp [hne],
      ?_, nofun, nofun, ?_⟩
    · exact List.forall_mem_append.mpr ⟨hdigits, hzeros zeros⟩
    · have hvalue := digitsValue_append_zeros (natural n) (-zeros) zeros
      rw [neg_add_cancel, digitsValue_natural, neg_neg] at hvalue
      rw [List.append_nil]
      exact hvalue
  | negSucc places =>
    simp only [plain, splitAtPoint, List.splitAt_eq]
    set padded := List.replicate (places+1+1 - (natural n).length) '0' ++ natural n with hpadded
    have hlength : places + 2 ≤ padded.length := by
      rw [hpadded, List.length_append, List.length_replicate]
      omega
    have hall : ∀ c ∈ padded, c.isDigit := List.forall_mem_append.mpr ⟨hzeros _, hdigits⟩
    set whole := padded.take (padded.length - (places+1)) with hwhole
    set fraction := padded.drop (padded.length - (places+1)) with hfraction
    have hplaces : fraction.length = places + 1 := by
      rw [hfraction, List.length_drop]
      omega
    refine ⟨whole, trimEnd (· == '0') fraction, ?_, ?_,
      fun c hc => hall c (List.mem_of_mem_take hc),
      fun c hc => hall c (List.mem_of_mem_drop ((prefix_trimEnd _ _).subset hc)),
      fun hlast => ?_, ?_⟩
    · rw [pointed]
      split_ifs
      · rw [List.append_nil]
      · rfl
    · rw [hwhole, Ne, List.take_eq_nil_iff]
      rintro (h | h)
      · omega
      · rw [h, List.length_nil] at hlength
        omega
    · exact absurd (stop_trimEnd _ _ _ hlast) (by decide)
    · have hvalue := digitsValue_trimEnd whole fraction 0
      rw [List.take_append_drop, hpadded, digitsValue_zeros, hplaces, sub_zero, sub_zero,
        digitsValue_natural] at hvalue
      exact hvalue

/-- The digits that are spelled: those of the coefficient without the zeros at their end. -/
def significant (d : Decimal) : Text :=
  let digits := trimEnd (· == '0') (natural d.coefficient)
  if digits.isEmpty then ['0'] else digits

/-- Where the point is, counted from the first digit that is spelled. -/
def point (d : Decimal) : Int := (natural d.coefficient).length + d.exponent

lemma significant_spec (d : Decimal) : d.significant ≠ [] ∧ (∀ c ∈ d.significant, c.isDigit) ∧
    digitsValue d.significant (d.significant.length - d.point) = d.value := by
  have hdigits : ∀ c ∈ natural d.coefficient, c.isDigit := fun _ => Numeral.isDigit_of_mem_natural
  have hvalue := digitsValue_natural d.coefficient (-d.exponent)
  rw [neg_neg] at hvalue
  rw [significant, point]
  by_cases hempty : trimEnd (· == '0') (natural d.coefficient) = []
  · have hzero : ∀ ds places, (∃ n, ds = List.replicate n '0') → digitsValue ds places = 0 := by
      rintro _ places ⟨n, rfl⟩
      rw [digitsValue, Nat.ofDigitChars_replicate_zero, Nat.mul_zero, Nat.cast_zero, zero_mul]
    obtain ⟨k, hk⟩ := trimEnd_zeros (natural d.coefficient)
    rw [hempty, List.nil_append] at hk
    simp only [hempty, List.isEmpty_nil, if_true]
    refine ⟨List.cons_ne_nil _ _, by decide, ?_⟩
    rw [hzero ['0'] _ ⟨1, rfl⟩]
    exact (hzero _ _ ⟨k, hk.symm⟩).symm.trans hvalue
  · simp only [List.isEmpty_iff, hempty, if_false]
    refine ⟨hempty, fun c hc => hdigits c ((prefix_trimEnd _ _).subset hc), ?_⟩
    have htrimmed :=
      digitsValue_trimEnd [] (natural d.coefficient) ((natural d.coefficient).length + d.exponent)
    rw [List.nil_append, List.nil_append, sub_add_cancel_left, hvalue] at htrimmed
    exact htrimmed

end Decimal

/-- Digits with a point behind so many of them, or with a power of ten if that is far off. -/
def spelledDigits (digits : Text) (point : Int) : Text :=
  if -4 < point && point ≤ 16 then
    if point ≤ 0 then "0.".toList ++ List.replicate (-point).toNat '0' ++ digits
    else if digits.length ≤ point.toNat then digits ++
      List.replicate (point.toNat-digits.length) '0' ++ ".0".toList
    else digits.take point.toNat ++ '.' :: digits.drop point.toNat
  else digits.take 1 ++ (if digits.length ≤ 1 then [] else '.' :: digits.drop 1) ++
    (if point-1 < 0 then "e-".toList else "e+".toList) ++
      (Decimal.natural (point-1).natAbs).leftpad 2 '0'

lemma pointed_drop (ds : Text) (n : Nat) :
    pointed (ds.drop n) = if ds.length ≤ n then [] else '.' :: ds.drop n := by
  rw [pointed]
  simp only [List.isEmpty_iff, List.drop_eq_nil_iff]

lemma value?_spelledDigits {negative : Bool} {digits : Text} (hne : digits ≠ [])
    (hdigits : ∀ c ∈ digits, c.isDigit) (point : Int) :
    Numeral.value? (minus negative ++ spelledDigits digits point) =
      some (signedValue negative (digitsValue digits (digits.length-point))) := by
  have hzeros : ∀ k, ∀ c ∈ List.replicate k '0', c.isDigit :=
    fun _ _ => Numeral.isDigit_of_mem_zeros
  have hzero : ∀ c ∈ (['0'] : Text), c.isDigit := by decide
  have htake : ∀ n, ∀ c ∈ digits.take n, c.isDigit :=
    fun n c hc => hdigits c (List.mem_of_mem_take hc)
  have hdrop : ∀ n, ∀ c ∈ digits.drop n, c.isDigit :=
    fun n c hc => hdigits c (List.mem_of_mem_drop hc)
  have hpos : 0 < digits.length := List.length_pos_iff.mpr hne
  have htakeNe : ∀ n, 0 < n → digits.take n ≠ [] := fun n hn h => by
    rcases List.take_eq_nil_iff.mp h with h | h
    · omega
    · exact hne h
  rw [spelledDigits, ← pointed_drop, List.append_assoc (_ ++ _), ← Numeral.spelledPower]
  split_ifs with hnear hsmall hwhole
  · have hparts := Numeral.value?_parts negative (List.cons_ne_nil '0' []) (by decide)
      (List.forall_mem_append.mpr ⟨hzeros (-point).toNat, hdigits⟩) Numeral.isTail_nil
    have hvalue : digitsValue (['0'] ++ (List.replicate (-point).toNat '0' ++ digits))
        ((List.replicate (-point).toNat '0' ++ digits).length - 0) =
          digitsValue digits (digits.length-point) := by
      refine ((digitsValue_zeros 1).trans (digitsValue_zeros _)).trans ?_
      congr 1
      rw [List.length_append, List.length_replicate]
      omega
    rw [hvalue] at hparts
    rw [← hparts]
    simp [pointed, hne]
  · have hparts := Numeral.value?_parts negative
      (List.append_ne_nil_of_left_ne_nil hne (List.replicate (point.toNat-digits.length) '0'))
      (List.forall_mem_append.mpr ⟨hdigits, hzeros _⟩) hzero Numeral.isTail_nil
    have hvalue :=
      digitsValue_append_zeros digits (digits.length-point) (point.toNat-digits.length+1)
    rw [List.replicate_succ', ← List.append_assoc, show digits.length - point +
      ((point.toNat-digits.length+1 : Nat) : Int) = ((['0'] : Text).length : Int) - 0 by
        rw [List.length_singleton]; omega] at hvalue
    rw [hvalue] at hparts
    rw [← hparts]
    simp [pointed]
  · have hparts := Numeral.value?_parts negative (htakeNe point.toNat (by omega)) (htake _)
      (hdrop point.toNat) Numeral.isTail_nil
    rw [List.take_append_drop, List.length_drop, pointed_drop,
      if_neg hwhole, List.append_nil, show ((digits.length - point.toNat : Nat) : Int) - 0 =
      digits.length - point by omega] at hparts
    exact hparts
  · have hparts := Numeral.value?_parts negative (htakeNe 1 Nat.one_pos) (htake _) (hdrop 1)
      (Numeral.isTail_spelledPower (point-1))
    rw [List.take_append_drop, List.length_drop,
      show ((digits.length - 1 : Nat) : Int) - (point-1) = digits.length - point by omega] at hparts
    rw [← hparts, List.append_assoc]

lemma spellReal_finite (negative : Bool) (m : Nat) (q : Int) :
    Data.spellReal (.finite negative m q) =
    minus negative ++
      spelledDigits (Binary64.shortest m q).significant (Binary64.shortest m q).point := by
  have hpoint :
      (if m = 0 then 1 else (Binary64.shortest m q).point) = (Binary64.shortest m q).point := by
    split_ifs with hm
    · rw [hm, Binary64.shortest, if_pos rfl]
      rfl
    · rfl
  rw [← hpoint]
  rfl

lemma value?_spellReal (negative : Bool) (m : Nat) (q : Int) :
    Numeral.value? (Data.spellReal (.finite negative m q)) =
    some (signedValue negative (Binary64.shortest m q).value) := by
  obtain ⟨hne, hdigits, hvalue⟩ := (Binary64.shortest m q).significant_spec
  rw [spellReal_finite, value?_spelledDigits hne hdigits, hvalue]

namespace Number

/-- A number that is not infinite. -/
def IsFinite : Number → Prop
  | .int _ | .real (.finite _ _ _) => True
  | .real _ => False

/-- The plain notation of a number that is held as a value, as it is written for a bound. -/
def written (s : Store) (d : Data) : Except Draft.Fault Text := (Draft.bound s .range d).map plain

lemma exists_integer (i : Int) : ∃ p : PlainNumeral, p.text = Decimal.integer i := by
  refine ⟨⟨i < 0, Decimal.natural i.natAbs, [], Nat.toDigits_ne_nil,
    fun _ => Numeral.isDigit_of_mem_natural, nofun, nofun⟩, ?_⟩
  rw [PlainNumeral.text, Decimal.integer]
  by_cases hneg : i < 0 <;> simp [hneg, minus, pointed]

lemma exists_real (negative : Bool) (m : Nat) (q : Int) : ∃ p : PlainNumeral,
    p.text = (Binary64.finite negative m q).plain ∧
      p.value = signedValue negative (Binary64.shortest m q).value := by
  obtain ⟨whole, fraction, hplain, hne, hwhole, hfraction, hlast, hvalue⟩ :=
    (Binary64.shortest m q).exists_plain
  refine ⟨⟨negative, whole, fraction, hne, hwhole, hfraction, hlast⟩, ?_, ?_⟩
  · rw [PlainNumeral.text, Binary64.plain, hplain, minus]
  · rw [PlainNumeral.value, hvalue]

/-- What is spelled of a number that can be written stands for the value of its plain notation. -/
lemma exists_plain (n : Number) (finite : n.IsFinite) : ∃ p : PlainNumeral, p.text = n.plain ∧
    Numeral.value? n.toData.spell = some p.value := by
  cases n with
  | int i =>
    obtain ⟨p, hp⟩ := exists_integer i
    have hvalue := p.value?_text
    rw [hp] at hvalue
    exact ⟨p, hp, hvalue⟩
  | real x =>
    cases x with
    | finite negative m q =>
      obtain ⟨p, hp, hvalue⟩ := exists_real negative m q
      exact ⟨p, hp, hvalue ▸ value?_spellReal negative m q⟩
    | infinite negative => contradiction
    | nan serial => contradiction

lemma spelled_toData (s : Store) (n : Number) : Draft.spelled s n.toData =
    if n.toData.isTooLong then .error (.value .integerTooLong) else .ok n.toData.spell := by
  cases n with
  | int i => exact Draft.spelled_int s i
  | real x => exact Draft.spelled_real s x

lemma written_toData (s : Store) (n : Number) : written s n.toData =
    if n.toData.isTooLong then .error (.value .integerTooLong) else .ok n.plain := by
  rw [written, Draft.bound, if_neg (by decide), spelled_toData, Data.numeral?_toData]
  split_ifs <;> rfl

/-- A number that is finite is written as a plain numeral, which stands for exactly the value that
its spelling stands for. An integer of too many digits is neither spelled nor written. -/
theorem plain_exact (s : Store) (n : Number) (finite : n.IsFinite) :
    (n.toData.isTooLong = false →
      ∃ (spelling : Text) (p : PlainNumeral), Draft.spelled s n.toData = .ok spelling ∧
      written s n.toData = .ok p.text ∧ Numeral.value? spelling = some p.value ∧
      Numeral.value? p.text = some p.value) ∧
    (n.toData.isTooLong → written s n.toData = .error (.value .integerTooLong)) := by
  rw [written_toData, spelled_toData]
  refine ⟨fun short => ?_, fun long => if_pos long⟩
  obtain ⟨p, hp, hvalue⟩ := exists_plain n finite
  refine ⟨n.toData.spell, p, if_neg (by simp [short]), ?_, hvalue, p.value?_text⟩
  rw [if_neg (by simp [short]), hp]

/-- A whole number that is spelled with a power of ten. -/
def tenToTheTwentyTwo : Number := .real (.finite false 4768371582031250 21)

theorem plain_exact_tenToTheTwentyTwo :
    tenToTheTwentyTwo.IsFinite ∧ tenToTheTwentyTwo.toData.isTooLong = false ∧
      Draft.spelled {} tenToTheTwentyTwo.toData = .ok "1e+22".toList ∧
      written {} tenToTheTwentyTwo.toData = .ok ('1' :: List.replicate 22 '0') ∧
      Numeral.value? ('1' :: List.replicate 22 '0') = Numeral.value? "1e+22".toList := by
  obtain ⟨spelling, p, hspelled, hwritten, hspelling, htext⟩ :=
    (plain_exact {} tenToTheTwentyTwo trivial).1 rfl
  have hspelling' : Draft.spelled {} tenToTheTwentyTwo.toData = .ok "1e+22".toList := by
    decide +kernel
  have hwritten' : written {} tenToTheTwentyTwo.toData = .ok ('1' :: List.replicate 22 '0') := by
    decide +kernel
  rw [hspelling', Except.ok.injEq] at hspelled
  rw [hwritten', Except.ok.injEq] at hwritten
  exact ⟨trivial, rfl, hspelling', hwritten', by rw [hspelled, hspelling, hwritten, htext]⟩

/-- The smallest integer of too many digits. -/
def overlong : Number := .int (Nat.pow 10 Numeral.digitLimit)

theorem overlong_unwritten : overlong.IsFinite ∧ ¬ ∃ t, written {} overlong.toData = .ok t := by
  have hlong : overlong.toData.isTooLong = true := by
    change Numeral.isTooLong (Nat.pow 10 Numeral.digitLimit : Nat) = true
    rw [Numeral.isTooLong, decide_eq_true_eq, Int.natAbs_natCast]
  refine ⟨trivial, ?_⟩
  rw [written_toData, if_pos hlong]
  rintro ⟨t, ⟨⟩⟩

end Number

end MarkedShader
