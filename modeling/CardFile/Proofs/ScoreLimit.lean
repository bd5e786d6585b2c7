import CardFile.Proofs.Recovered
import CardFile.Proofs.ScoreText
import Mathlib.Tactic.Ring

/-!
The limit of the scores. A number is read as infinity exactly if it is at least half a step above
the largest finite score, and infinity is the one score that is lost when a card is written.
-/
namespace CardFile

private theorem roundedQuotient_bounds (n d : Nat) :
    n / d ≤ roundedQuotient n d ∧ roundedQuotient n d ≤ n / d + 1 := by
  rw [roundedQuotient]
  split <;> omega

/-- An even number is reached by rounding from half a step below it on. -/
private theorem even_le_roundedQuotient (m n d : Nat) (positive : 0 < d) :
    2 * m + 2 ≤ roundedQuotient n d ↔ (4 * m + 3) * d ≤ 2 * n := by
  have whole := Nat.div_add_mod n d
  have rest := Nat.mod_lt n positive
  rw [roundedQuotient]
  generalize n / d = q at *
  generalize n % d = r at *
  subst whole
  rcases Nat.lt_trichotomy q (2 * m + 1) with below | rfl | above
  · have most : d * q ≤ d * (2 * m) := Nat.mul_le_mul_left d (by omega)
    have : (4 * m + 3) * d = 2 * (d * (2 * m)) + 3 * d := by ring
    split <;> omega
  · have : (4 * m + 3) * d = 2 * (d * (2 * m + 1)) + d := by ring
    split <;> omega
  · have least : d * (2 * m + 2) ≤ d * q := Nat.mul_le_mul_left d (by omega)
    have : (4 * m + 3) * d + d = 2 * (d * (2 * m + 2)) := by ring
    split <;> omega

namespace Score

/-- The number half a step above the largest finite score. -/
def limit : Nat :=
  (2 ^ 54 - 1) * 2 ^ 970

private theorem isFinite_ofCode (code : Nat) :
    (ofCode code).isFinite = false ↔ 2047 * 2 ^ 52 ≤ code := by
  simp only [isFinite, ofCode, infinityCode, Nat.shiftLeft_eq, decide_eq_false_iff_not]
  omega

/-- The steps between scores double until the quotient has 53 digits in base two. -/
private theorem scaled_bounds (x : Nat) : x / 2 ^ (x.log2 - 52) < 2 ^ 53 ∧
    (0 < x.log2 - 52 → 2 ^ 52 ≤ x / 2 ^ (x.log2 - 52)) := by
  obtain ⟨k, doublings⟩ : ∃ k, k = x.log2 - 52 := ⟨_, rfl⟩
  rw [← doublings]
  constructor
  · rw [Nat.div_lt_iff_lt_mul (Nat.two_pow_pos k), ← Nat.pow_add]
    exact Nat.lt_of_lt_of_le Nat.lt_log2_self (Nat.pow_le_pow_right (by decide) (by omega))
  · intro some
    have large : x ≠ 0 := by
      rintro rfl
      rw [doublings] at some
      exact absurd some (by decide)
    rw [Nat.le_div_iff_mul_le (Nat.two_pow_pos k), ← Nat.pow_add,
      show 52 + k = x.log2 by omega]
    exact Nat.log2_self_le large

private theorem scaled_le (m p q n d : Nat) :
    m * 2 ^ p * d ≤ n ↔ m * 2 ^ (p + q) * d ≤ n * 1 <<< q := by
  rw [Nat.one_shiftLeft, Nat.pow_add, ← Nat.mul_assoc, Nat.mul_right_comm _ (2 ^ q),
    Nat.mul_le_mul_right_iff (Nat.two_pow_pos q)]

/-- Quotients are infinite from the limit on. -/
theorem isFinite_ofQuotient (n d : Nat) (positive : 0 < d) :
    (ofQuotient n d).isFinite = false ↔ limit * d ≤ n := by
  obtain ⟨x, quotient⟩ : ∃ x, x = n * unitsPerOne / d := ⟨_, rfl⟩
  obtain ⟨k, doublings⟩ : ∃ k, k = x.log2 - 52 := ⟨_, rfl⟩
  obtain ⟨p, top⟩ : ∃ p, p = 970 + 1074 := ⟨_, rfl⟩
  have threshold : limit * d ≤ n ↔ (2 ^ 54 - 1) * 2 ^ p ≤ x := by
    rw [quotient, Nat.le_div_iff_mul_le positive, top]
    exact scaled_le (2 ^ 54 - 1) 970 1074 n d
  obtain ⟨below, above⟩ := scaled_bounds x
  have rounded := roundedQuotient_bounds (n * unitsPerOne) (d * 2 ^ k)
  rw [← Nat.div_div_eq_div_mul, ← quotient] at rounded
  rw [← doublings] at below above
  rw [threshold, ofQuotient, ← quotient, ← doublings, isFinite_ofCode, Nat.shiftLeft_eq,
    Nat.shiftLeft_eq]
  rcases Nat.lt_trichotomy k (p + 1) with small | same | large
  · have most : 2 ^ k ≤ 2 ^ p := Nat.pow_le_pow_right (by decide) (by omega)
    have bound := (Nat.div_lt_iff_lt_mul (Nat.two_pow_pos k)).mp below
    have least : x < 2 ^ 53 * 2 ^ p := Nat.lt_of_lt_of_le bound (Nat.mul_le_mul_left _ most)
    omega
  · have double : 2 ^ k = 2 * 2 ^ p := by rw [same, Nat.pow_succ, Nat.mul_comm]
    have reached := even_le_roundedQuotient (2 ^ 52 - 1) (n * unitsPerOne) (d * 2 ^ k)
      (Nat.mul_pos positive (Nat.two_pow_pos k))
    have half : (4 * (2 ^ 52 - 1) + 3) * (d * 2 ^ k) ≤ 2 * (n * unitsPerOne) ↔
        (2 ^ 54 - 1) * 2 ^ p ≤ x := by
      rw [quotient, Nat.le_div_iff_mul_le positive, double,
        show (4 * (2 ^ 52 - 1) + 3) * (d * (2 * 2 ^ p)) = 2 * ((2 ^ 54 - 1) * 2 ^ p * d) by ring]
      omega
    rw [← half, ← reached]
    omega
  · have least : 2 ^ 2 * 2 ^ p ≤ 2 ^ k := by
      rw [← Nat.pow_add]
      exact Nat.pow_le_pow_right (by decide) (by omega)
    have reached := above (by omega)
    have bound := (Nat.le_div_iff_mul_le (Nat.two_pow_pos k)).mp reached
    omega

end Score

namespace Decimal

def AtLeast (d : Decimal) (n : Nat) : Prop :=
  n * 10 ^ (-d.exponent).toNat ≤ d.digits * 10 ^ d.exponent.toNat

private theorem digits_bounds (n : Nat) (some : n ≠ 0) :
    10 ^ (digitCount n - 1) ≤ n ∧ n < 10 ^ digitCount n := by
  have count : 0 < digitCount n := List.length_pos_iff.mpr Nat.toDigits_ne_nil
  constructor
  · by_cases single : digitCount n = 1
    · rw [single]
      exact Nat.pos_of_ne_zero some
    · refine Nat.le_of_not_lt fun smaller => ?_
      have fewer : digitCount n ≤ digitCount n - 1 :=
        (Nat.length_toDigits_le_iff (by decide) (by omega)).mpr smaller
      omega
  · exact (Nat.length_toDigits_le_iff (by decide) count).mp (Nat.le_refl _)

private theorem limit_bounds : 0 < Score.limit ∧ ∃ p ≤ 309, Score.limit ≤ 10 ^ p :=
  ⟨by decide +kernel, 309, Nat.le_refl _, by decide +kernel⟩

/-- Decimal numbers are read as infinity from the limit on. -/
theorem isFinite_toScore (d : Decimal) :
    d.toScore.isFinite = false ↔ d.AtLeast Score.limit := by
  obtain ⟨positive, p, places, bound⟩ := limit_bounds
  have zero : Score.zero.isFinite = true := by decide
  have infinity : Score.infinity.isFinite = false := by decide
  have power (k : Nat) : 0 < 10 ^ k := Nat.pow_pos (by decide)
  rw [toScore, AtLeast]
  by_cases none : d.digits = 0
  · have some := Nat.mul_pos positive (power (-d.exponent).toNat)
    rw [if_pos none, zero, none, Nat.zero_mul]
    simp [Nat.pos_iff_ne_zero.mp some]
  obtain ⟨least, most⟩ := digits_bounds d.digits none
  rw [if_neg none]
  split
  · rename_i large
    refine iff_of_true infinity ?_
    calc Score.limit * 10 ^ (-d.exponent).toNat
      _ ≤ 10 ^ p * 10 ^ (-d.exponent).toNat := Nat.mul_le_mul_right _ bound
      _ = 10 ^ (p + (-d.exponent).toNat) := (Nat.pow_add ..).symm
      _ ≤ 10 ^ (digitCount d.digits - 1 + d.exponent.toNat) :=
        Nat.pow_le_pow_right (by decide) (by omega)
      _ = 10 ^ (digitCount d.digits - 1) * 10 ^ d.exponent.toNat := Nat.pow_add ..
      _ ≤ d.digits * 10 ^ d.exponent.toNat := Nat.mul_le_mul_right _ least
  split
  · rename_i small
    refine iff_of_false (by simp [zero]) (Nat.not_le.mpr ?_)
    calc d.digits * 10 ^ d.exponent.toNat
      _ < 10 ^ digitCount d.digits * 10 ^ d.exponent.toNat :=
        Nat.mul_lt_mul_of_pos_right most (power _)
      _ = 10 ^ (digitCount d.digits + d.exponent.toNat) := (Nat.pow_add ..).symm
      _ ≤ 10 ^ (-d.exponent).toNat := Nat.pow_le_pow_right (by decide) (by omega)
      _ ≤ Score.limit * 10 ^ (-d.exponent).toNat := Nat.le_mul_of_pos_left _ positive
  split
  · rename_i whole
    have exponent : (-d.exponent).toNat = 0 := by omega
    rw [Score.isFinite_ofQuotient _ _ Nat.one_pos, exponent, tenTo, Nat.pow_eq, Nat.pow_zero]
  · rename_i fraction
    have exponent : d.exponent.toNat = 0 := by omega
    rw [tenTo, Nat.pow_eq, Score.isFinite_ofQuotient _ _ (power _), exponent, Nat.pow_zero,
      Nat.mul_one]

end Decimal

namespace Score

/-- True of a text that starts with a number that is no less than the limit. -/
def Overflows (text : String) : Prop :=
  ∃ n, Numeral.scan? (text.toList.dropWhile Text.isBlank) = some n ∧ n.isNegative = false ∧
    n.magnitude.AtLeast limit

theorem isFinite_ofText (text : String) : (ofText text).isFinite = false ↔ Overflows text := by
  have zero : Score.zero.isFinite = true := by decide
  rw [ofText, Overflows]
  cases Numeral.scan? (text.toList.dropWhile Text.isBlank) with
  | none => simp [zero]
  | some n =>
    cases sign : n.isNegative with
    | true => simp [sign, zero]
    | false => simp [sign, Decimal.isFinite_toScore]

end Score

namespace Card

private theorem propertiesOf_named (c : Card) (f g : Field) :
    (c.propertiesOf f).filter (·.name == g.property) = if f = g then c.propertiesOf f else [] := by
  have names : ∀ p ∈ c.propertiesOf f, p.name = f.property :=
    fun p member => (shape_propertiesOf c f p member).name
  split
  · rename_i same
    exact List.filter_eq_self.mpr fun p member => by simp [names p member, same]
  · rename_i other
    refine List.filter_eq_nil_iff.mpr fun p member same => other ?_
    have fields : f.property = g.property := by simpa [names p member] using same
    have found := f.ofProperty?_property
    rw [fields, g.ofProperty?_property] at found
    exact (Option.some.inj found).symm

private theorem properties_useScore (c : Card) :
    c.properties.filter (·.name == Field.useScore.property) = scoreProperties c.useScore := by
  rw [properties_eq, List.filter_flatMap]
  simp only [propertiesOf_named]
  simp [Field.writingOrder, propertiesOf]

/-- A use score other than zero is written in a property of its own. This property, and with it the
whole card, gives the score back exactly if the text that the score was read from does not
overflow. -/
theorem take_useScore_rewritten (c : Card) (p : Property) (named : p.name = Field.useScore.property)
    (scored : Score.ofText p.textOrEmpty ≠ .zero) :
    (c.take p).useScore = .ofText p.textOrEmpty ∧
    ∃ text, (c.take p).toRecord.properties.filter (·.name == Field.useScore.property) =
        [.ofText Field.useScore.property text] ∧
      ((∀ d : Card, (d.take (.ofText Field.useScore.property text)).useScore =
          .ofText p.textOrEmpty) ↔ ¬Score.Overflows p.textOrEmpty) ∧
      ((c.take p).duplicate.useScore = .ofText p.textOrEmpty ↔
        ¬Score.Overflows p.textOrEmpty) := by
  have stored : (c.take p).useScore = .ofText p.textOrEmpty := by rw [take_put c _ p named]; rfl
  have survives : Score.ofText (Score.ofText p.textOrEmpty).toText = .ofText p.textOrEmpty ↔
      ¬Score.Overflows p.textOrEmpty := by
    rw [Score.ofText_toText_iff, ← Score.isFinite_ofText, Bool.not_eq_false]
  have read (d : Card) (text : String) :
      (d.take (.ofText Field.useScore.property text)).useScore = .ofText text := by
    rw [take_put d .useScore _ rfl]
    rfl
  have copied : (c.take p).duplicate.useScore =
      Score.ofText (Score.ofText p.textOrEmpty).toText := by
    rw [duplicate_eq]
    change (c.take p).useScore.recovered = _
    rw [stored, Score.recovered, if_neg scored]
  refine ⟨stored, (Score.ofText p.textOrEmpty).toText, ?_, ?_, ?_⟩
  · rw [toRecord, properties_useScore, stored, scoreProperties, if_neg scored]
  · simp only [read, survives]
    exact ⟨fun all => all {}, fun bounded _ => bounded⟩
  · rw [copied, survives]

def scoreProperty (text : String) : Property :=
  .ofText Field.useScore.property text

theorem take_useScore_rewritten_tenth :
    Score.ofText "0.1x" ≠ .zero ∧ ¬Score.Overflows "0.1x" ∧
    ∃ text, (take {} (scoreProperty "0.1x")).toRecord.properties.filter
        (·.name == Field.useScore.property) = [scoreProperty text] ∧
      ∀ d : Card, (d.take (scoreProperty text)).useScore = .ofText "0.1x" := by
  have scored : Score.ofText "0.1x" ≠ .zero := by decide +kernel
  have bounded : ¬Score.Overflows "0.1x" := by
    rw [← Score.isFinite_ofText]
    decide +kernel
  obtain ⟨-, text, written, back, -⟩ := take_useScore_rewritten {} (scoreProperty "0.1x") rfl scored
  exact ⟨scored, bounded, text, written, back.mpr bounded⟩

/-- A score that overflows is infinite. It is written as a word that is read as zero. -/
theorem useScore_lost :
    (take {} (scoreProperty "1e999")).useScore = .infinity ∧ Score.infinity ≠ .zero ∧
    (take {} (scoreProperty "1e999")).toRecord.properties.filter
      (·.name == Field.useScore.property) = [scoreProperty "inf"] ∧
    (take {} (scoreProperty "inf")).useScore = .zero ∧
    (take {} (scoreProperty "1e999")).duplicate.useScore = .zero := by
  refine ⟨?_, ?_, ?_, ?_, ?_⟩ <;> decide +kernel

end Card

end CardFile
