import CardFile.Proofs.Digits
import Mathlib.Data.List.Basic
import Mathlib.Data.List.Induction

/-!
Dates read back from their text. A date is written by its nearest date in range, part by part, so
what comes back is the clamped date; a date in range comes back as it was.
-/
namespace CardFile.Date

private theorem encode_ascii (c : Char) (rest : List Char) (ascii : c.toNat < 0x80) :
    Text.Utf8.encode (c :: rest) = UInt8.ofNat c.toNat :: Text.Utf8.encode rest := by
  have single : String.utf8EncodeChar c = [UInt8.ofNat c.toNat] := by
    rw [String.utf8EncodeChar]
    exact if_pos (by simpa using Nat.le_of_lt_succ ascii)
  rw [Text.Utf8.encode, List.flatMap_cons, single]
  rfl

private theorem encode_digit (c : Char) (rest : List Char) (digit : c.isDigit = true) :
    Text.Utf8.encode (c :: rest) = UInt8.ofNat c.toNat :: Text.Utf8.encode rest :=
  encode_ascii c rest (by have := Text.digit_code c digit; omega)

private theorem octet_digit (c : Char) (digit : c.isDigit = true) :
    ((UInt8.ofNat c.toNat).toNat : Int) - 0x30 = (c.toNat - '0'.toNat : Nat) := by
  obtain ⟨low, high⟩ := Text.digit_code c digit
  have zero : '0'.toNat = 0x30 := rfl
  rw [UInt8.toNat_ofNat', Nat.mod_eq_of_lt (by omega), zero]
  omega

theorem number_digits (digits : List Char) (all : ∀ c ∈ digits, c.isDigit = true) :
    number (Text.Utf8.encode digits) = Nat.ofDigitChars 10 digits 0 := by
  suffices ∀ n : Nat, (Text.Utf8.encode digits).foldl
      (fun (n : Int) b => n * 10 + (b.toNat - 0x30)) n = Nat.ofDigitChars 10 digits n from this 0
  induction digits with
  | nil => exact fun n => rfl
  | cons c digits ih =>
    intro n
    have digit := all c (by simp)
    have next : (n : Int) * 10 + ((UInt8.ofNat c.toNat).toNat - 0x30) =
        (10 * n + (c.toNat - '0'.toNat) : Nat) := by
      rw [octet_digit c digit]
      omega
    rw [encode_digit c digits digit, List.foldl_cons, next,
      ih (fun d member => all d (by simp [member])), Nat.ofDigitChars_cons]

theorem number_concat (octets : List UInt8) (b : UInt8) :
    number (octets ++ [b]) = number octets * 10 + (b.toNat - 0x30) := by
  simp [number]

theorem number_bounds (octets : List UInt8) :
    number octets + 23 ≤ 23 * (10 ^ octets.length : Nat) ∧
      -(23 * (10 ^ octets.length : Nat)) ≤ number octets - 23 := by
  induction octets using List.reverseRecOn with
  | nil => decide
  | append_singleton octets b ih =>
    have octet := b.toNat_lt
    rw [number_concat, List.length_append, List.length_singleton, Nat.pow_succ]
    omega

private theorem encode_append (s t : List Char) :
    Text.Utf8.encode (s ++ t) = Text.Utf8.encode s ++ Text.Utf8.encode t :=
  List.flatMap_append

private theorem encode_dashed (year month day : List Char) :
    Text.Utf8.encode (year ++ '-' :: month ++ '-' :: day) =
      Text.Utf8.encode year ++ 0x2D :: Text.Utf8.encode month ++ 0x2D :: Text.Utf8.encode day := by
  have dash (rest : List Char) : Text.Utf8.encode ('-' :: rest) =
    0x2D :: Text.Utf8.encode rest := encode_ascii '-' rest (by decide)
  rw [encode_append, encode_append, dash, dash]

theorem length_encode_digits (digits : List Char) (all : ∀ c ∈ digits, c.isDigit = true) :
    (Text.Utf8.encode digits).length = digits.length := by
  induction digits with
  | nil => rfl
  | cons c digits ih =>
    rw [encode_digit c digits (all c (by simp)), List.length_cons, List.length_cons,
      ih fun d member => all d (by simp [member])]

private theorem parse_octets (s : String) (year month day : List UInt8)
    (lengths : year.length = 4 ∧ month.length = 2 ∧ day.length = 2)
    (octets : Text.Utf8.encode s.toList = year ++ 0x2D :: month ++ 0x2D :: day ∨
      Text.Utf8.encode s.toList = year ++ month ++ day) :
    parse s = ⟨number year, number month, number day⟩ := by
  obtain ⟨four, two, last⟩ := lengths
  obtain ⟨a, b, c, d, rfl⟩ := List.length_eq_four.mp four
  obtain ⟨e, f, rfl⟩ := List.length_eq_two.mp two
  obtain ⟨g, h, rfl⟩ := List.length_eq_two.mp last
  rcases octets with dashed | compact
  · rw [parse, dashed]
    rfl
  · rw [parse, compact]
    rfl

/-- Digits that spell a date, part by part. -/
structure Spelled (d : Date) (year month day : List Char) : Prop where
  digits : ∀ c ∈ year ++ month ++ day, c.isDigit = true
  lengths : year.length = 4 ∧ month.length = 2 ∧ day.length = 2
  parts : d = ⟨Nat.ofDigitChars 10 year 0, Nat.ofDigitChars 10 month 0, Nat.ofDigitChars 10 day 0⟩

namespace Spelled

variable {d : Date} {year month day : List Char} (spelled : d.Spelled year month day)

include spelled

private theorem all : (∀ c ∈ year, c.isDigit = true) ∧ (∀ c ∈ month, c.isDigit = true) ∧
    ∀ c ∈ day, c.isDigit = true := by
  simpa only [List.forall_mem_append, and_assoc] using spelled.digits

private theorem octets : (Text.Utf8.encode year).length = 4 ∧
    (Text.Utf8.encode month).length = 2 ∧ (Text.Utf8.encode day).length = 2 := by
  obtain ⟨years, months, days⟩ := spelled.all
  rw [length_encode_digits year years, length_encode_digits month months,
    length_encode_digits day days]
  exact spelled.lengths

/-- The digits are read with dashes between the parts and without them. -/
theorem parse_eq (s : String) (text : s.toList = year ++ '-' :: month ++ '-' :: day ∨
    s.toList = year ++ month ++ day) : parse s = d := by
  obtain ⟨years, months, days⟩ := spelled.all
  rw [spelled.parts, ← number_digits year years, ← number_digits month months,
    ← number_digits day days]
  apply parse_octets s _ _ _ spelled.octets
  rcases text with dashed | compact
  · exact Or.inl (by rw [dashed, encode_dashed])
  · exact Or.inr (by rw [compact, encode_append, encode_append])

/-- With its dashes a date takes ten octets. -/
theorem length_encode :
    (Text.Utf8.encode (year ++ '-' :: month ++ '-' :: day)).length = 10 := by
  obtain ⟨years, months, days⟩ := spelled.octets
  rw [encode_dashed]
  simp [years, months, days]

end Spelled

private theorem clampTo_bounds (low high n : Int) (order : low ≤ high) :
    low ≤ clampTo low high n ∧ clampTo low high n ≤ high := by
  rw [clampTo]
  omega

/-- The text of a date spells the nearest date in range. -/
theorem toText_spelled (d : Date) : ∃ year month day,
    d.toText.toList = year ++ '-' :: month ++ '-' :: day ∧ d.clamp.Spelled year month day := by
  have year := clampTo_bounds 1000 9999 d.year (by decide)
  have month := clampTo_bounds 1 12 d.month (by decide)
  have day := clampTo_bounds 1 31 d.day (by decide)
  refine ⟨_, _, _, by rw [toText, String.toList_ofList], ?_, ?_, ?_⟩
  · simp only [List.forall_mem_append]
    exact ⟨⟨isDigit_padded 4 _, isDigit_padded 2 _⟩, isDigit_padded 2 _⟩
  · dsimp only [clamp]
    refine ⟨length_padded 4 _ (by decide) ?_, length_padded 2 _ (by decide) ?_,
      length_padded 2 _ (by decide) ?_⟩ <;> omega
  · rw [ofDigitChars_padded, ofDigitChars_padded, ofDigitChars_padded, clamp, mk.injEq]
    dsimp only
    omega

/-- A date comes back from its text with each part moved into its range. -/
theorem parse_toText (d : Date) : parse d.toText = d.clamp := by
  obtain ⟨year, month, day, text, spelled⟩ := d.toText_spelled
  exact spelled.parse_eq d.toText (Or.inl text)

structure InRange (d : Date) : Prop where
  year : 1000 ≤ d.year ∧ d.year ≤ 9999
  month : 1 ≤ d.month ∧ d.month ≤ 12
  day : 1 ≤ d.day ∧ d.day ≤ 31

theorem inRange_clamp (d : Date) : d.clamp.InRange where
  year := clampTo_bounds 1000 9999 d.year (by decide)
  month := clampTo_bounds 1 12 d.month (by decide)
  day := clampTo_bounds 1 31 d.day (by decide)

theorem clamp_inRange (d : Date) (range : d.InRange) : d.clamp = d := by
  obtain ⟨year, month, day⟩ := range
  rw [clamp, clampTo, clampTo, clampTo, mk.injEq]
  omega

end CardFile.Date
