import CardFile.Score.Text
import Mathlib.Data.Nat.Basic
import Mathlib.Algebra.Order.Ring.Nat

/-!
Scores and the quotients that they are nearest to. A quotient may be expanded or reduced without
any change to its score, and a finite score is the score of its own value.
-/
namespace CardFile

theorem roundedQuotient_mul (n d c : Nat) (positive : 0 < c) :
    roundedQuotient (n * c) (d * c) = roundedQuotient n d := by
  have above : d * c < 2 * (n % d * c) ↔ d < 2 * (n % d) := by
    rw [← Nat.mul_assoc, Nat.mul_lt_mul_right positive]
  have tie : 2 * (n % d * c) = d * c ↔ 2 * (n % d) = d := by
    rw [← Nat.mul_assoc, Nat.mul_left_inj (Nat.pos_iff_ne_zero.mp positive)]
  simp only [roundedQuotient, Nat.mul_div_mul_right n d positive, Nat.mul_mod_mul_right, above, tie]

theorem roundedQuotient_exact (m d : Nat) (positive : 0 < d) : roundedQuotient (m * d) d = m := by
  rw [roundedQuotient, Nat.mul_mod_left, Nat.mul_div_cancel m positive]
  exact if_neg (by omega)

namespace Score

theorem ofQuotient_mul (n d c : Nat) (positive : 0 < c) :
    ofQuotient (n * c) (d * c) = ofQuotient n d := by
  have places : n * c * unitsPerOne / (d * c) = n * unitsPerOne / d := by
    rw [Nat.mul_right_comm, Nat.mul_div_mul_right _ d positive]
  simp only [ofQuotient, places, Nat.shiftLeft_eq]
  rw [Nat.mul_right_comm n c, Nat.mul_right_comm d c, roundedQuotient_mul _ _ c positive]

theorem unitsPerOne_pos : 0 < unitsPerOne := by
  rw [unitsPerOne, Nat.one_shiftLeft]
  exact Nat.two_pow_pos 1074

private theorem ofQuotient_unitsPerOne (n : Nat) : ofQuotient n unitsPerOne =
    ofCode ((n.log2 - 52) * 2 ^ 52 + roundedQuotient n (2 ^ (n.log2 - 52))) := by
  have rounded : roundedQuotient (n * unitsPerOne) (unitsPerOne * 2 ^ (n.log2 - 52)) =
      roundedQuotient n (2 ^ (n.log2 - 52)) := by
    rw [Nat.mul_comm unitsPerOne, roundedQuotient_mul _ _ _ unitsPerOne_pos]
  rw [ofQuotient, Nat.mul_div_cancel n unitsPerOne_pos, Nat.shiftLeft_eq, Nat.shiftLeft_eq, rounded]

private theorem ofCode_code (s : Score) : ofCode s.code = s := by
  obtain ⟨code, bound⟩ := s
  simp [ofCode, Nat.min_eq_left bound]

private theorem units_small (s : Score) (small : s.code < 2 ^ 53) : s.units = s.code := by
  rw [units, Nat.one_shiftLeft, if_pos small]

theorem units_large (s : Score) (large : 2 ^ 53 ≤ s.code) :
    s.units = (2 ^ 52 + s.code % 2 ^ 52) * 2 ^ (s.code / 2 ^ 52 - 1) := by
  rw [units, Nat.one_shiftLeft, if_neg (Nat.not_lt.mpr large), Nat.shiftLeft_eq, Nat.one_shiftLeft]

private theorem log2_units (m k : Nat) (low : 2 ^ 52 ≤ m) (high : m < 2 ^ 53) :
    (m * 2 ^ k).log2 = 52 + k := by
  have positive := Nat.two_pow_pos k
  have some : m * 2 ^ k ≠ 0 := Nat.mul_ne_zero (by omega) (by omega)
  rw [Nat.log2_eq_iff some, Nat.pow_add, show 52 + k + 1 = 53 + k by omega, Nat.pow_add]
  exact ⟨Nat.mul_le_mul_right _ low, Nat.mul_lt_mul_of_pos_right high positive⟩

/-- A score is the score of its own value. -/
theorem ofQuotient_units (s : Score) : ofQuotient s.units unitsPerOne = s := by
  rw [ofQuotient_unitsPerOne]
  refine Eq.trans (congrArg ofCode ?_) (ofCode_code s)
  by_cases small : s.code < 2 ^ 53
  · have doublings : s.code.log2 - 52 = 0 := by
      by_cases zero : s.code = 0
      · simp [zero]
      · have := (Nat.log2_lt zero).mpr small
        omega
    have exact := roundedQuotient_exact s.code 1 (by decide)
    rw [Nat.mul_one] at exact
    rw [units_small s small, doublings, Nat.zero_mul, Nat.zero_add, Nat.pow_zero, exact]
  · have large : 2 ^ 53 ≤ s.code := Nat.not_lt.mp small
    have remainder := Nat.mod_lt s.code (Nat.two_pow_pos 52)
    have doublings : s.units.log2 - 52 = s.code / 2 ^ 52 - 1 := by
      rw [units_large s large, log2_units _ _ (by omega) (by omega)]
      omega
    rw [doublings, units_large s large, roundedQuotient_exact _ _ (Nat.two_pow_pos _)]
    omega

private theorem code_pos (s : Score) (some : s ≠ zero) : 0 < s.code := by
  refine Nat.pos_of_ne_zero fun code => some ?_
  rw [← ofCode_code s, code]
  rfl

theorem units_pos (s : Score) (some : s ≠ zero) : 0 < s.units := by
  by_cases small : s.code < 2 ^ 53
  · rw [units_small s small]
    exact code_pos s some
  · rw [units_large s (Nat.not_lt.mp small)]
    exact Nat.mul_pos (by omega) (Nat.two_pow_pos _)

theorem units_lt (s : Score) (power : Nat) (bound : s.code / 2 ^ 52 ≤ power + 1) :
    s.units < 2 ^ 53 * 2 ^ power := by
  have positive := Nat.two_pow_pos power
  by_cases small : s.code < 2 ^ 53
  · rw [units_small s small]
    exact Nat.lt_of_lt_of_le small (Nat.le_mul_of_pos_right _ positive)
  · rw [units_large s (Nat.not_lt.mp small)]
    have mantissa : 2 ^ 52 + s.code % 2 ^ 52 < 2 ^ 53 := by omega
    have doublings : s.code / 2 ^ 52 - 1 ≤ power := by omega
    exact Nat.mul_lt_mul_of_lt_of_le mantissa (Nat.pow_le_pow_right (by decide) doublings) positive

theorem code_lt (s : Score) (finite : s.isFinite = true) : s.code < 2047 * 2 ^ 52 := by
  simpa [isFinite, infinityCode, Nat.shiftLeft_eq] using finite

end Score

namespace Decimal

theorem digitCount_mul (n k : Nat) (positive : 0 < n) :
    digitCount (n * 10 ^ k) = digitCount n + k := by
  induction k with
  | zero => simp
  | succ k ih =>
    have some : 0 < n * 10 ^ k := Nat.mul_pos positive (Nat.pow_pos (by decide))
    have digits := Nat.toDigits_append_toDigits (b := 10) (d := 0) (by decide) some (by decide)
    have whole : n * 10 ^ (k + 1) = 10 * (n * 10 ^ k) + 0 := by
      rw [Nat.pow_succ, Nat.add_zero, ← Nat.mul_assoc, Nat.mul_comm 10]
    rw [digitCount, whole, ← digits, List.length_append, ← Nat.add_assoc, ← ih]
    rfl

/-- The score of a decimal number, unless its size alone settles it. -/
private def quotient (n : Nat) (e : Int) : Score :=
  if 0 ≤ e then .ofQuotient (n * tenTo e.toNat) 1 else .ofQuotient n (tenTo (-e).toNat)

private theorem quotient_shift (n k : Nat) (e : Int) :
    quotient (n * 10 ^ k) e = quotient n (e + k) := by
  have positive (m : Nat) : 0 < 10 ^ m := Nat.pow_pos (by decide)
  -- Where the exponent crosses zero, the power of ten changes sides of the quotient.
  by_cases whole : 0 ≤ e
  · have power : (e + k).toNat = k + e.toNat := by omega
    rw [quotient, quotient, if_pos whole, if_pos (by omega), power, tenTo, tenTo, Nat.pow_eq,
      Nat.pow_eq, Nat.pow_add, Nat.mul_assoc]
  · by_cases crossed : 0 ≤ e + k
    · have power : k = (e + k).toNat + (-e).toNat := by omega
      have expanded := Score.ofQuotient_mul (n * 10 ^ (e + k).toNat) 1 _ (positive (-e).toNat)
      rw [Nat.one_mul, Nat.mul_assoc, ← Nat.pow_add, ← power] at expanded
      rw [quotient, quotient, if_neg whole, if_pos crossed]
      exact expanded
    · have power : (-e).toNat = (-(e + k)).toNat + k := by omega
      rw [quotient, quotient, if_neg whole, if_neg crossed, power, tenTo, tenTo, Nat.pow_eq,
        Nat.pow_eq, Nat.pow_add]
      exact Score.ofQuotient_mul _ _ _ (positive k)

private theorem toScore_quotient (n : Nat) (e : Int) (some : n ≠ 0) : toScore ⟨n, e⟩ =
    if 310 < e + digitCount n then .infinity else if e + digitCount n < -330 then .zero
      else quotient n e := by
  simp only [toScore, if_neg some, quotient]

theorem toScore_shift (n k : Nat) (e : Int) (positive : 0 < n) :
    toScore ⟨n * 10 ^ k, e⟩ = toScore ⟨n, e + k⟩ := by
  have size : e + digitCount (n * 10 ^ k) = e + k + digitCount n := by
    rw [digitCount_mul n k positive]
    omega
  have some : 0 < n * 10 ^ k := Nat.mul_pos positive (Nat.pow_pos (by decide))
  rw [toScore_quotient _ _ (by omega), toScore_quotient _ _ (by omega), size, quotient_shift]

private theorem toScore_between (n p low high : Nat) (above : 10 ^ low ≤ n) (below : n < 10 ^ high)
    (large : high ≤ 310 + p) (small : p ≤ 330 + low) (some : 0 < p) (more : 0 < high) :
    toScore ⟨n, -(p : Int)⟩ = .ofQuotient n (10 ^ p) := by
  have positive : 0 < n := Nat.lt_of_lt_of_le (Nat.pow_pos (by decide)) above
  have most : digitCount n ≤ high := (Nat.length_toDigits_le_iff (by decide) more).mpr below
  have least : low ≤ digitCount n := by
    refine Nat.le_of_not_lt fun fewer => Nat.not_lt.mpr above ?_
    exact (Nat.length_toDigits_le_iff (by decide) (by omega)).mp (Nat.le_of_lt fewer)
  have power : (- -(p : Int)).toNat = p := by omega
  rw [toScore_quotient _ _ (by omega), if_neg (by omega), if_neg (by omega), quotient,
    if_neg (by omega), power]
  rfl

end Decimal

/-- The exact decimal expansion of a score reads back as the score. -/
theorem Score.toScore_exact (s : Score) (some : s ≠ zero) (finite : s.isFinite = true) :
    s.exact.toScore = s := by
  have above : 10 ^ 744 ≤ s.units * Nat.pow 5 1074 := by
    have power : 10 ^ 744 ≤ Nat.pow 5 1074 := by decide +kernel
    exact Nat.le_trans power (Nat.le_mul_of_pos_left _ (s.units_pos some))
  have below : s.units * Nat.pow 5 1074 < 10 ^ 1384 := by
    have power : 2 ^ 53 * 2 ^ 2045 * Nat.pow 5 1074 < 10 ^ 1384 := by decide +kernel
    have code := s.code_lt finite
    have units := s.units_lt 2045 (by omega)
    exact Nat.lt_of_le_of_lt (Nat.mul_le_mul_right _ (Nat.le_of_lt units)) power
  have tens : 10 ^ 1074 = unitsPerOne * Nat.pow 5 1074 := by decide +kernel
  have fives : 0 < Nat.pow 5 1074 := by decide +kernel
  have between := Decimal.toScore_between _ 1074 744 1384 above below (by decide) (by decide)
    (by decide) (by decide)
  rw [tens, ofQuotient_mul _ _ _ fives, ofQuotient_units] at between
  exact between

end CardFile
