import CardFile.Proofs.Digits
import CardFile.Proofs.NumeralScan
import CardFile.Proofs.ScoreValue

/-!
Scores as text that reads back. The shortest decimal of a score is one of the decimals that were
tried, or the exact one, and digits written without an exponent are read as the same decimal. So
every finite score is the score of its own text.
-/
namespace CardFile

namespace Numeral

theorem scan?_whole (whole : List Char) (some : whole ≠ [])
    (digits : ∀ c ∈ whole, c.isDigit = true) :
    scan? whole = .some ⟨[], whole, [], [], [], []⟩ := by
  have scanned := scan?_text_self ⟨[], whole, [], [], [], []⟩ ⟨Or.inl rfl, by simpa using digits,
    by simpa using some, Or.inr ⟨rfl, rfl⟩, Or.inl ⟨rfl, rfl⟩⟩
  simpa [text] using scanned

theorem scan?_point (whole fraction : List Char) (some : whole ≠ [])
    (digits : ∀ c ∈ whole ++ fraction, c.isDigit = true) :
    scan? (whole ++ '.' :: fraction) = .some ⟨[], whole, ['.'], fraction, [], []⟩ := by
  have scanned := scan?_text_self ⟨[], whole, ['.'], fraction, [], []⟩ ⟨Or.inl rfl, digits,
    List.append_ne_nil_of_left_ne_nil some _, Or.inl rfl, Or.inl ⟨rfl, rfl⟩⟩
  simpa [text] using scanned

end Numeral

private theorem ofText_scanned (text : List Char) (n : Numeral)
    (scanned : Numeral.scan? text = some n)
    (unsigned : n.sign = []) (digit : ∃ c rest, text = c :: rest ∧ c.isDigit = true) :
    Score.ofText (String.ofList text) = n.magnitude.toScore := by
  obtain ⟨c, rest, rfl, digit⟩ := digit
  have positive : ¬ n.isNegative = true := by
    rw [Numeral.isNegative, unsigned]
    decide
  have start : ¬ Text.isBlank c = true := by simp [Text.digit_solid c digit]
  rw [Score.ofText, String.toList_ofList, List.dropWhile_cons_of_neg start, scanned]
  exact if_neg positive

namespace Decimal

private theorem starts_digit (whole rest : List Char) (some : whole ≠ [])
    (digits : ∀ c ∈ whole, c.isDigit = true) :
    ∃ c tail, whole ++ rest = c :: tail ∧ c.isDigit = true := by
  cases whole with
  | nil => exact absurd rfl some
  | cons c whole => exact ⟨c, whole ++ rest, rfl, digits c (by simp)⟩

private theorem pointAt_parts (places n : Nat) (some : 0 < places) :
    ∃ whole fraction, pointAt places n = whole ++ '.' :: fraction ∧ whole ≠ [] ∧
      (∀ c ∈ whole ++ fraction, c.isDigit = true) ∧
      Nat.ofDigitChars 10 (whole ++ fraction) 0 = n ∧ fraction.length = places := by
  have long := Date.le_length_padded (places + 1) n
  have length : ((Date.padded (places + 1) n).drop
      ((Date.padded (places + 1) n).length - places)).length = places := by
    rw [List.length_drop]
    omega
  refine ⟨_, _, if_neg (by omega), ?_, ?_, ?_, length⟩
  · intro empty
    have lengths : ((Date.padded (places + 1) n).take
        ((Date.padded (places + 1) n).length - places)).length = 0 := congrArg List.length empty
    rw [List.length_take] at lengths
    omega
  · rw [List.take_append_drop]
    exact Date.isDigit_padded (places + 1) n
  · rw [List.take_append_drop]
    exact Date.ofDigitChars_padded (places + 1) n

theorem ofText_pointAt (places n : Nat) (some : 0 < places) :
    Score.ofText (String.ofList (pointAt places n)) = toScore ⟨n, -(places : Int)⟩ := by
  obtain ⟨whole, fraction, text, nonempty, digits, value, size⟩ := pointAt_parts places n some
  have scanned := Numeral.scan?_point whole fraction nonempty digits
  have start := starts_digit whole ('.' :: fraction) nonempty fun c member =>
    digits c (List.mem_append_left _ member)
  have exponent : (Numeral.mk [] whole ['.'] fraction [] []).exponent = 0 := rfl
  rw [text, ofText_scanned _ _ scanned rfl start, Numeral.magnitude, exponent, value, size,
    Int.zero_sub]

theorem ofText_positional (d : Decimal) (some : 0 < d.digits) :
    Score.ofText (String.ofList d.positional) = d.toScore := by
  by_cases whole : 0 ≤ d.exponent
  · have all : ∀ c ∈ Nat.toDigits 10 (d.digits * tenTo d.exponent.toNat), c.isDigit = true :=
      fun c member => Nat.isDigit_of_mem_toDigits (by decide) (by decide) member
    have start := starts_digit _ [] Nat.toDigits_ne_nil all
    rw [List.append_nil] at start
    rw [positional, if_pos whole,
      ofText_scanned _ _ (Numeral.scan?_whole _ Nat.toDigits_ne_nil all) rfl start]
    have exponent : (Numeral.mk [] (Nat.toDigits 10 (d.digits * tenTo d.exponent.toNat))
      [] [] [] []).exponent = 0 := rfl
    rw [Numeral.magnitude, exponent, List.append_nil, Nat.ofDigitChars_ten_toDigits]
    have shifted := toScore_shift d.digits d.exponent.toNat 0 some
    rw [Int.zero_add, Int.toNat_of_nonneg whole] at shifted
    exact shifted
  · have places : 0 < (-d.exponent).toNat := by omega
    have exponent : -((-d.exponent).toNat : Int) = d.exponent := by omega
    rw [positional, if_neg whole, ofText_pointAt _ _ places, exponent]

theorem stripZeros_eq (d : Decimal) :
    ∃ n k, d.digits = n * 10 ^ k ∧ d.stripZeros = ⟨n, d.exponent + (k : Nat)⟩ := by
  obtain ⟨zeros, trailing⟩ : ∃ zeros,
    zeros = (Nat.toDigits 10 d.digits).reverse.takeWhile (· == '0') := ⟨_, rfl⟩
  obtain ⟨front, leading⟩ : ∃ front,
    front = (Nat.toDigits 10 d.digits).reverse.dropWhile (· == '0') := ⟨_, rfl⟩
  have split : Nat.toDigits 10 d.digits = front.reverse ++ zeros.reverse := by
    rw [← List.reverse_append, trailing, leading, List.takeWhile_append_dropWhile,
      List.reverse_reverse]
  have same : zeros.reverse = List.replicate zeros.length '0' := by
    rw [List.eq_replicate_iff]
    refine ⟨List.length_reverse, fun c member => ?_⟩
    rw [List.mem_reverse, trailing] at member
    exact beq_iff_eq.mp (List.all_eq_true.mp List.all_takeWhile c member)
  have value : d.digits = Nat.ofDigitChars 10 front.reverse 0 * 10 ^ zeros.length := by
    have digits := Nat.ofDigitChars_ten_toDigits (n := d.digits)
    rw [split, same, Nat.ofDigitChars_append, Nat.ofDigitChars_replicate_zero, Nat.mul_comm]
      at digits
    exact digits.symm
  refine ⟨_, zeros.length, value, ?_⟩
  have quotient : d.digits / 10 ^ zeros.length = Nat.ofDigitChars 10 front.reverse 0 := by
    rw [value, Nat.mul_div_cancel _ (Nat.pow_pos (by decide))]
  rw [stripZeros, ← trailing, tenTo, Nat.pow_eq, quotient]

theorem ofText_stripZeros (d : Decimal) (some : 0 < d.digits) :
    Score.ofText (String.ofList d.stripZeros.positional) = d.toScore := by
  obtain ⟨n, k, value, stripped⟩ := d.stripZeros_eq
  have positive : 0 < n := by
    rw [value] at some
    exact Nat.pos_of_mul_pos_right some
  obtain ⟨digits, exponent⟩ := d
  simp only at value
  rw [stripped, ofText_positional _ positive, value, toScore_shift n k exponent positive]

theorem digits_pos (d : Decimal) (some : d.toScore ≠ .zero) : 0 < d.digits := by
  refine Nat.pos_of_ne_zero fun none => some ?_
  simp [toScore, none]

end Decimal

namespace Score

theorem shortest_eq (tie : Decimal.Tie) (s : Score) (some : s ≠ zero)
    (finite : s.isFinite = true) :
    ∃ d : Decimal, s.shortest tie = d.stripZeros ∧ d.toScore = s := by
  refine ⟨_, rfl, ?_⟩
  cases search : (List.range' 1 17).findSome? fun count =>
      (s.exact.neighbours tie count).find? fun d => d.toScore == s with
  | none =>
    rw [Option.getD_none]
    exact s.toScore_exact some finite
  | some d =>
    rw [Option.getD_some]
    obtain ⟨count, -, found⟩ := List.exists_of_findSome?_eq_some search
    have equal := List.find?_some found
    exact beq_iff_eq.mp equal

/-- A finite score is the score of its own text. -/
theorem ofText_toText (s : Score) (finite : s.isFinite = true) : ofText s.toText = s := by
  by_cases plain : ofText (s.fixed 6) = s
  · rw [toText, if_pos plain, plain]
  · rw [toText, if_neg plain]
    by_cases none : s = zero
    · rw [shortestText, if_pos none, none]
      decide
    · obtain ⟨d, shortest, exact⟩ := s.shortest_eq .up none finite
      have some : 0 < d.digits := d.digits_pos (by rw [exact]; exact none)
      rw [shortestText, if_neg none, if_pos finite, shortest, d.ofText_stripZeros some, exact]

/-- The text of infinity is no number, and reads as zero. -/
theorem ofText_toText_infinite (s : Score) (infinite : ¬s.isFinite = true) :
    ofText s.toText = zero := by
  have some : s ≠ zero := by
    rintro rfl
    exact infinite (by decide)
  have fixed : s.fixed 6 = "inf" := if_neg infinite
  have text : s.toText = "inf" := by
    rw [toText, fixed, shortestText, if_neg some, if_neg infinite, ite_self]
  rw [text]
  decide

/-- Infinity is the one score that its text does not give back. -/
theorem ofText_toText_iff (s : Score) : ofText s.toText = s ↔ s.isFinite = true := by
  refine ⟨fun same => ?_, s.ofText_toText⟩
  by_contra infinite
  rw [s.ofText_toText_infinite infinite] at same
  exact infinite (by rw [← same]; decide)

end Score

end CardFile
