import CardFile.Json.Member
import CardFile.Proofs.JsonText
import CardFile.Proofs.ScoreText
import CardFile.Score.Json

/-!
The numbers that are written as JSON. Whole numbers read back as they are if they fit 32 bits, and
every finite score has a numeral; infinity is written as null, which is no number.
-/
namespace CardFile

private theorem head_toDigits (n : Nat) (positive : 0 < n) :
    (Nat.toDigits 10 n).head? ≠ some '0' := by
  have single : ∀ n < 10, 0 < n → Nat.digitChar n ≠ '0' := by decide
  induction n using Nat.strong_induction_on with
  | _ n ih =>
    by_cases small : n < 10
    · rw [Nat.toDigits_of_lt_base small]
      simpa using single n small positive
    · rw [Nat.toDigits_of_base_le (by decide) (by omega),
        List.head?_append_of_ne_nil _ Nat.toDigits_ne_nil]
      exact ih (n / 10) (by omega) (by omega)

private theorem isDigit_toDigits (n : Nat) : ∀ c ∈ Nat.toDigits 10 n, c.isDigit = true :=
  fun _ member => Nat.isDigit_of_mem_toDigits (by decide) (by decide) member

namespace Numeral

theorem isWritten_ofInt (i : Int) : (ofInt i).IsWritten where
  sign := by
    rw [ofInt]
    dsimp only
    split <;> simp
  whole := ⟨Nat.toDigits_ne_nil, isDigit_toDigits _⟩
  leading := by
    by_cases zero : i.natAbs = 0
    · exact Or.inl (by simp [ofInt, ofNat, zero])
    · exact Or.inr (head_toDigits _ (Nat.pos_of_ne_zero zero))
  fraction := Or.inl ⟨rfl, rfl⟩
  power := Or.inl ⟨rfl, rfl⟩

end Numeral

theorem Json.asInt32_ofInt (i : Int) (low : -0x80000000 ≤ i) (high : i < 0x80000000) :
    (ofInt i).asInt32 = .ok i := by
  have magnitude : (Numeral.ofInt i).magnitude.digits = i.natAbs := by
    simp [Numeral.magnitude, Numeral.ofInt, Numeral.ofNat, Nat.ofDigitChars_ten_toDigits]
  have negative : (Numeral.ofInt i).isNegative = decide (i < 0) := by
    rw [Numeral.isNegative, Numeral.ofInt]
    dsimp only
    split <;> simp_all
  have value : (if i < 0 then -(i.natAbs : Int) else i.natAbs) = i := by
    split <;> omega
  have plain : (decide (i < 0) && i.natAbs == 0) = false := by
    rw [Bool.and_eq_false_iff, decide_eq_false_iff_not, beq_eq_false_iff_ne]
    omega
  have whole : (Numeral.ofInt i).isWhole = true := rfl
  simp only [ofInt, asInt32, whole, magnitude, negative, decide_eq_true_eq, value, plain, low, high]
  rfl

namespace Score

theorem isWritten_numeralOf (d : Decimal) (positive : 0 < d.digits) : (numeralOf d).IsWritten := by
  have digits := isDigit_toDigits d.digits
  have leading := head_toDigits d.digits positive
  have some : Nat.toDigits 10 d.digits ≠ [] := Nat.toDigits_ne_nil
  have zeros (count : Nat) : ∀ c ∈ List.replicate count '0', c.isDigit = true := by
    intro c member
    rw [List.eq_of_mem_replicate member]
    rfl
  unfold numeralOf
  dsimp only
  generalize Nat.toDigits 10 d.digits = text at digits leading some
  have front (count : Nat) : ∀ c ∈ text.take count, c.isDigit = true :=
    fun c member => digits c (List.mem_of_mem_take member)
  have back (count : Nat) : ∀ c ∈ text.drop count, c.isDigit = true :=
    fun c member => digits c (List.mem_of_mem_drop member)
  have first (count : Nat) (positive : 0 < count) : text.take count ≠ [] ∧
      (text.take count).head? ≠ Option.some '0' := by
    obtain ⟨c, text, rfl⟩ := List.exists_cons_of_ne_nil some
    obtain ⟨count, rfl⟩ : ∃ less, count = less + 1 := ⟨count - 1, by omega⟩
    exact ⟨by simp, leading⟩
  split
  · refine ⟨Or.inl rfl, ⟨by simp [some], ?_⟩, Or.inr ?_, Or.inr ⟨rfl, by simp, by simp⟩,
      Or.inl ⟨rfl, rfl⟩⟩
    · exact fun c member => (List.mem_append.mp member).elim (digits c) (zeros _ c)
    · rwa [List.head?_append_of_ne_nil _ some]
  · rename_i whole
    split
    · rename_i pointed
      obtain ⟨filled, leading⟩ := first (d.exponent + text.length).toNat (by omega)
      have split : text.drop (d.exponent + text.length).toNat ≠ [] := by
        intro none
        have length := congrArg List.length none
        rw [List.length_drop, List.length_nil] at length
        omega
      exact ⟨Or.inl rfl, ⟨filled, front _⟩, Or.inr leading, Or.inr ⟨rfl, split, back _⟩,
        Or.inl ⟨rfl, rfl⟩⟩
    · split
      · refine ⟨Or.inl rfl, ⟨by simp, by simp⟩, Or.inl rfl, Or.inr ⟨rfl, by simp [some], ?_⟩,
          Or.inl ⟨rfl, rfl⟩⟩
        exact fun c member => (List.mem_append.mp member).elim (zeros _ c) (digits c)
      · refine ⟨Or.inl rfl, ⟨(first 1 (by decide)).1, front 1⟩, Or.inr (first 1 (by decide)).2, ?_,
          Or.inr ⟨?_, Nat.toDigits_ne_nil, isDigit_toDigits _⟩⟩
        · obtain ⟨c, text, rfl⟩ := List.exists_cons_of_ne_nil some
          cases text with
          | nil => exact Or.inl ⟨rfl, rfl⟩
          | cons c' text => exact Or.inr ⟨rfl, by simp, back 1⟩
        · dsimp only
          split <;> simp

theorem shortest_spec (s : Score) (tie : Decimal.Tie) (some : s ≠ zero)
    (finite : s.isFinite = true) :
    0 < (s.shortest tie).digits ∧ (s.shortest tie).toScore = s := by
  obtain ⟨d, shortest, exact⟩ := s.shortest_eq tie some finite
  obtain ⟨n, k, value, stripped⟩ := d.stripZeros_eq
  have positive : 0 < d.digits := d.digits_pos (by rw [exact]; exact some)
  rw [value] at positive
  have front := Nat.pos_of_mul_pos_right positive
  rw [shortest, stripped, ← Decimal.toScore_shift n k d.exponent front, ← value]
  exact ⟨front, exact⟩

theorem isWritten_toJson (s : Score) : s.toJson.IsWritten := by
  unfold toJson
  split_ifs with none finite
  · exact .number _ ⟨Or.inl rfl, ⟨by simp, by simp⟩, Or.inl rfl, Or.inr ⟨rfl, by simp, by simp⟩,
      Or.inl ⟨rfl, rfl⟩⟩
  · exact .number _ (isWritten_numeralOf _ (s.shortest_spec .even none finite).1)
  · exact .null

/-- Infinity is written as null, and no score is read from that. -/
theorem asScore_infinite (s : Score) (infinite : ¬s.isFinite = true) :
    Json.asScore s.toJson = .error .mismatch := by
  have some : s ≠ zero := by
    rintro rfl
    exact infinite (by decide)
  rw [toJson, if_neg some, if_neg infinite]
  rfl

end Score

end CardFile
