import CardFile.Proofs.JsonNumber

/-!
Scores that come back from JSON. Whole numbers of at most 53 digits in base two and the powers of
ten up to the twenty-second are scores themselves, so that a numeral of few digits is read with one
rounding only, to the score nearest to it. That covers every score that a decimal with fourteen
digits and a small exponent stands for; of others, the last place may be lost.
-/
namespace CardFile

namespace Score

private theorem exists_units (m k : Nat) (low : 2 ^ 52 ≤ m) (high : m < 2 ^ 53)
    (some : 0 < k) (few : k < 2045) : ∃ s : Score, s.units = m * 2 ^ k := by
  have bound : (k + 1) * 2 ^ 52 + (m - 2 ^ 52) ≤ infinityCode := by
    rw [infinityCode, Nat.shiftLeft_eq]
    omega
  refine ⟨⟨_, bound⟩, ?_⟩
  have place : ((k + 1) * 2 ^ 52 + (m - 2 ^ 52)) / 2 ^ 52 = k + 1 ∧
      ((k + 1) * 2 ^ 52 + (m - 2 ^ 52)) % 2 ^ 52 = m - 2 ^ 52 := by
    omega
  rw [units_large _ (by dsimp only; omega)]
  dsimp only
  rw [place.1, place.2, Nat.add_sub_cancel' low, Nat.add_sub_cancel]

/-- Whole numbers that fit 53 digits in base two, twice as large each time, are scores. -/
private theorem units_ofQuotient (n j : Nat) (positive : 0 < n) (fits : n < 2 ^ 53)
    (few : j ≤ 100) : (ofQuotient (n * 2 ^ j) 1).units = n * 2 ^ j * unitsPerOne := by
  have low := Nat.log2_self_le (Nat.pos_iff_ne_zero.mp positive)
  have high := Nat.lt_log2_self (n := n)
  have digits : n.log2 < 53 := (Nat.log2_lt (Nat.pos_iff_ne_zero.mp positive)).mpr fits
  obtain ⟨p, places⟩ : ∃ p, p = 1074 := ⟨_, rfl⟩
  have unit : unitsPerOne = 2 ^ p := by
    rw [unitsPerOne, ← places]
    exact Nat.one_shiftLeft p
  obtain ⟨s, value⟩ := exists_units (n * 2 ^ (52 - n.log2)) (p + j - (52 - n.log2))
    (by
      have := Nat.mul_le_mul_right (2 ^ (52 - n.log2)) low
      rwa [← Nat.pow_add, show n.log2 + (52 - n.log2) = 52 by omega] at this)
    (by
      have := Nat.mul_lt_mul_of_pos_right high (Nat.two_pow_pos (52 - n.log2))
      rwa [← Nat.pow_add, show n.log2 + 1 + (52 - n.log2) = 53 by omega] at this)
    (by omega) (by omega)
  have same : n * 2 ^ j * unitsPerOne = s.units := by
    have exponent : j + p = 52 - n.log2 + (p + j - (52 - n.log2)) := by omega
    rw [value, unit, Nat.mul_assoc, Nat.mul_assoc, ← Nat.pow_add, ← Nat.pow_add, exponent]
  rw [← ofQuotient_mul _ 1 unitsPerOne unitsPerOne_pos, Nat.one_mul, same, ofQuotient_units]

private theorem units_tenTo (power : Nat) (few : power ≤ 22) :
    (tenTo power).units = 10 ^ power * unitsPerOne := by
  have small : 5 ^ power < 2 ^ 53 :=
    Nat.lt_of_le_of_lt (Nat.pow_le_pow_right (by decide) few) (by decide)
  have factors : 10 ^ power = 5 ^ power * 2 ^ power := Nat.mul_pow 5 2 power
  have whole : tenTo power = ofQuotient (10 ^ power) 1 := by
    have single : Decimal.digitCount 1 = 1 := by decide
    rw [tenTo, Decimal.toScore, if_neg (by simp), single, if_neg (by dsimp only; omega),
      if_neg (by dsimp only; omega), if_pos (by dsimp only; omega)]
    simp [Decimal.tenTo]
  rw [whole, factors, units_ofQuotient _ _ (Nat.pow_pos (by decide)) small (by omega)]

private theorem scaledDown_small (n power : Nat) (fits : n < 2 ^ 53) (few : power ≤ 22) :
    (ofNat n).scaledDown power = ofQuotient n (10 ^ power) := by
  have word : (ofNat n).units = n * unitsPerOne := by
    rcases Nat.eq_zero_or_pos n with rfl | positive
    · decide +kernel
    · have exact := units_ofQuotient n 0 positive fits (by decide)
      rwa [Nat.pow_zero, Nat.mul_one] at exact
  rw [scaledDown, if_pos (by rw [largestStep]; omega), div, word, units_tenTo power few,
    ofQuotient_mul _ _ _ unitsPerOne_pos]

end Score

namespace Numeral

private theorem le_ofDigitChars (cs : List Char) (word : Nat) :
    word ≤ Nat.ofDigitChars 10 cs word := by
  induction cs generalizing word with
  | nil => exact Nat.le_refl _
  | cons c cs ih =>
    rw [Nat.ofDigitChars_cons]
    exact Nat.le_trans (by omega) (ih _)

private theorem gather_digits (cs : List Char) (word : Nat)
    (fits : Nat.ofDigitChars 10 cs word < 2 ^ 64) :
    gather word cs = (Nat.ofDigitChars 10 cs word, []) := by
  induction cs generalizing word with
  | nil => rfl
  | cons c cs ih =>
    have next : word * 10 + (c.toNat - 0x30) = 10 * word + (c.toNat - '0'.toNat) := by
      rw [Nat.mul_comm]
      rfl
    rw [Nat.ofDigitChars_cons] at fits ⊢
    have bound := Nat.lt_of_le_of_lt (le_ofDigitChars cs _) fits
    rw [gather, next, if_pos (by simpa [Nat.shiftLeft_eq] using bound), ih _ fits]

/-- A numeral whose digits fit a word loses none of them. -/
private theorem gathered_eq (n : Numeral) (fits : n.magnitude.digits < 2 ^ 64) :
    n.gathered = n.magnitude := by
  have split : n.magnitude.digits = Nat.ofDigitChars 10 n.fraction
      (Nat.ofDigitChars 10 n.whole 0) := by
    rw [magnitude, Nat.ofDigitChars_append]
  have whole := gather_digits n.whole 0 (Nat.lt_of_le_of_lt (le_ofDigitChars n.fraction _)
    (split ▸ fits))
  have fraction := gather_digits n.fraction (Nat.ofDigitChars 10 n.whole 0) (split ▸ fits)
  rw [gathered, whole]
  dsimp only
  rw [fraction, magnitude, Decimal.mk.injEq, Nat.ofDigitChars_append]
  simp

/-- A numeral of few digits is read as the score nearest to it. -/
theorem score?_short (n : Numeral) (positive : 0 < n.magnitude.digits)
    (fits : n.magnitude.digits < 2 ^ 53) (below : n.magnitude.exponent < 0)
    (few : -22 ≤ n.magnitude.exponent) : n.score? = some n.magnitude.toScore := by
  have count : Decimal.digitCount n.magnitude.digits ≤ 16 :=
    (Nat.length_toDigits_le_iff (by decide) (by decide)).mpr (Nat.lt_trans fits (by decide))
  rw [score?, gathered_eq n (Nat.lt_trans fits (by decide))]
  rw [if_neg (by omega), Score.scaledDown_small _ _ fits (by omega), Decimal.toScore,
    if_neg (by omega), if_neg (by omega), if_neg (by omega), if_neg (by omega), Decimal.tenTo]
  rfl

end Numeral

namespace Score

private theorem sign_numeralOf (d : Decimal) : (numeralOf d).sign = [] := by
  unfold numeralOf
  dsimp only
  split
  · rfl
  · split
    · rfl
    · split <;> rfl

private theorem magnitude_numeralOf (d : Decimal) (positive : 0 < d.digits)
    (fits : d.digits * 10 ^ (d.exponent + 1).toNat < 2 ^ 53) :
    ∃ k : Nat, (numeralOf d).magnitude = ⟨d.digits * 10 ^ k, d.exponent - k⟩ ∧
      k ≤ (d.exponent + 1).toNat ∧ d.exponent - k < 0 := by
  have count : (Nat.toDigits 10 d.digits).length + (d.exponent + 1).toNat ≤ 16 := by
    rw [← Decimal.digitCount, ← Decimal.digitCount_mul _ _ positive, Decimal.digitCount,
      Nat.length_toDigits_le_iff (by decide) (by decide)]
    exact Nat.lt_trans fits (by decide)
  have value := Nat.ofDigitChars_ten_toDigits (n := d.digits)
  have some : 0 < (Nat.toDigits 10 d.digits).length := Nat.length_toDigits_pos
  unfold numeralOf
  dsimp only
  generalize Nat.toDigits 10 d.digits = text at count value some
  split
  · rename_i whole
    refine ⟨d.exponent.toNat + 1, ?_, by omega, by omega⟩
    rw [Numeral.magnitude, Decimal.mk.injEq]
    dsimp only
    constructor
    · rw [List.append_assoc, ← List.replicate_succ', Nat.ofDigitChars_append, value,
        Nat.ofDigitChars_replicate_zero, Nat.mul_comm]
    · simp [Numeral.exponent]
      omega
  · rename_i pointed
    refine ⟨0, ?_, by omega, by omega⟩
    rw [Nat.pow_zero, Nat.mul_one]
    split
    · rw [Numeral.magnitude, Decimal.mk.injEq]
      dsimp only
      rw [List.take_append_drop, value]
      refine ⟨rfl, ?_⟩
      simp [Numeral.exponent]
      omega
    · split
      · rw [Numeral.magnitude, Decimal.mk.injEq]
        simp [Numeral.exponent, Nat.ofDigitChars_append, Nat.ofDigitChars_cons, value]
        omega
      · have small : d.exponent + text.length < 1 := by omega
        rw [Numeral.magnitude, Decimal.mk.injEq]
        dsimp only
        rw [List.take_append_drop, value, if_pos small]
        refine ⟨rfl, ?_⟩
        have power := Nat.ofDigitChars_ten_toDigits (n := (d.exponent + text.length - 1).natAbs)
        have marked : ['e', '-'].contains '-' = true := rfl
        rw [Numeral.exponent, if_pos marked, List.length_drop]
        dsimp only
        omega

private theorem asScore_numeralOf (d : Decimal) (positive : 0 < d.digits)
    (fits : d.digits * 10 ^ (d.exponent + 1).toNat < 2 ^ 53) (few : -22 ≤ d.exponent) :
    Json.asScore (.number (numeralOf d)) = .ok d.toScore := by
  obtain ⟨k, magnitude, most, below⟩ := magnitude_numeralOf d positive fits
  have power : 10 ^ k ≤ 10 ^ (d.exponent + 1).toNat := Nat.pow_le_pow_right (by decide) most
  have word : d.digits * 10 ^ k < 2 ^ 53 :=
    Nat.lt_of_le_of_lt (Nat.mul_le_mul_left _ power) fits
  have read := Numeral.score?_short (numeralOf d)
    (by rw [magnitude]; exact Nat.mul_pos positive (Nat.pow_pos (by decide)))
    (by rw [magnitude]; exact word) (by rw [magnitude]; exact below)
    (by rw [magnitude]; dsimp only; omega)
  have unsigned : (numeralOf d).isNegative = false := by
    rw [Numeral.isNegative, sign_numeralOf]
    rfl
  have shift := Decimal.toScore_shift d.digits k (d.exponent - k) positive
  rw [Int.sub_add_cancel] at shift
  rw [Json.asScore, read, magnitude, shift, unsigned]
  simp only [Bool.false_eq_true, if_false]

/-- A score whose shortest decimal has at most 22 places, and whose digits, those of a whole number
with the zero after its point, make up a number below 2 ^ 53. -/
structure IsShort (s : Score) : Prop where
  finite : s.isFinite = true
  digits : (s.shortest .even).digits * 10 ^ ((s.shortest .even).exponent + 1).toNat < 2 ^ 53
  places : -22 ≤ (s.shortest .even).exponent

theorem asScore_toJson (s : Score) (short : s.IsShort) : Json.asScore s.toJson = .ok s := by
  by_cases none : s = zero
  · rw [none]
    decide +kernel
  · obtain ⟨positive, exact⟩ := s.shortest_spec .even none short.finite
    rw [toJson, if_neg none, if_pos short.finite,
      asScore_numeralOf _ positive short.digits short.places, exact]

end Score

end CardFile
