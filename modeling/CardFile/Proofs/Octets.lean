import CardFile.Octets.QuotedPrintable
import CardFile.Text.Utf8

/-!
Octets that text was turned into give the text back: UTF-8 undoes its own encoding, and so does
quoted-printable, whose written form has no character that a content line cannot hold.
-/
namespace CardFile.Text.Utf8

private theorem octet_value (n : Nat) (bound : n < 0x100) : (UInt8.ofNat n).toNat = n := by
  simp [Nat.mod_eq_of_lt bound]

private theorem scalar (c : Char) :
    c.val.toNat < 0xD800 ∨ (0xDFFF < c.val.toNat ∧ c.val.toNat < 0x110000) :=
  c.valid

private theorem start_one (n : Nat) (bound : n < 0x80) :
    start (UInt8.ofNat n) = ([Char.ofNat n], none) := by
  simp only [start, octet_value n (by omega), bound, if_true]

private theorem start_two (lead : Nat) (low : 2 ≤ lead) (high : lead < 0x20) :
    start (UInt8.ofNat (lead + 0xC0)) = ([], some ⟨lead, 1, 0x80, 0xBF⟩) := by
  simp only [start, octet_value (lead + 0xC0) (by omega)]
  rw [if_neg (by omega), if_neg (by omega), if_pos (by omega), Nat.add_sub_cancel]

private theorem start_three (lead : Nat) (high : lead < 0x10) :
    start (UInt8.ofNat (lead + 0xE0)) =
      ([], some ⟨lead, 2, if lead = 0 then 0xA0 else 0x80, if lead = 0xD then 0x9F else 0xBF⟩) := by
  simp only [start, octet_value (lead + 0xE0) (by omega)]
  rw [if_neg (by omega), if_neg (by omega), if_neg (by omega), if_pos (by omega),
    Nat.add_sub_cancel]
  simp

private theorem start_four (lead : Nat) (high : lead < 5) :
    start (UInt8.ofNat (lead + 0xF0)) =
      ([], some ⟨lead, 3, if lead = 0 then 0x90 else 0x80, if lead = 4 then 0x8F else 0xBF⟩) := by
  simp only [start, octet_value (lead + 0xF0) (by omega)]
  rw [if_neg (by omega), if_neg (by omega), if_neg (by omega), if_neg (by omega),
    if_pos (by omega), Nat.add_sub_cancel]
  simp

private theorem decodeFrom_last (p : Partial) (tail : Nat) (rest : List UInt8)
    (last : p.missing ≤ 1) (bound : tail < 0x40) (low : p.low ≤ tail + 0x80)
    (high : tail + 0x80 ≤ p.high) :
    decodeFrom (some p) (UInt8.ofNat (tail + 0x80) :: rest) =
      Char.ofNat (p.code * 0x40 + tail) :: decodeFrom none rest := by
  simp only [decodeFrom, Partial.next, octet_value (tail + 0x80) (by omega)]
  rw [if_pos ⟨low, high⟩, if_pos last, Nat.add_sub_cancel]
  rfl

private theorem decodeFrom_inner (p : Partial) (tail : Nat) (rest : List UInt8)
    (inner : 1 < p.missing) (bound : tail < 0x40) (low : p.low ≤ tail + 0x80)
    (high : tail + 0x80 ≤ p.high) :
    decodeFrom (some p) (UInt8.ofNat (tail + 0x80) :: rest) =
      decodeFrom (some ⟨p.code * 0x40 + tail, p.missing - 1, 0x80, 0xBF⟩) rest := by
  simp only [decodeFrom, Partial.next, octet_value (tail + 0x80) (by omega)]
  rw [if_pos ⟨low, high⟩, if_neg (by omega), Nat.add_sub_cancel]
  rfl

theorem decodeFrom_char (c : Char) (rest : List UInt8) :
    decodeFrom none (String.utf8EncodeChar c ++ rest) = c :: decodeFrom none rest := by
  have same : Char.ofNat c.val.toNat = c := Char.ofNat_toNat c
  have bounds := scalar c
  rw [String.utf8EncodeChar]
  generalize c.val.toNat = n at same bounds
  split
  · rename_i one
    simp only [List.cons_append, List.nil_append, decodeFrom, start_one n (by omega), same]
  · split
    · rename_i two
      rw [Nat.mod_eq_of_lt (by omega : n / 64 < 0x20)]
      simp only [List.cons_append, List.nil_append]
      rw [decodeFrom, start_two (n / 64) (by omega) (by omega), List.nil_append,
        decodeFrom_last _ _ _ (by simp) (by omega) (by simp) (by simp; omega)]
      rw [show n / 64 * 0x40 + n % 0x40 = n by omega, same]
    · split
      · rename_i three
        rw [Nat.mod_eq_of_lt (by omega : n / 4096 < 0x10)]
        simp only [List.cons_append, List.nil_append]
        -- The bounds of the second octet leave out overlong forms and surrogates.
        rw [decodeFrom, start_three (n / 4096) (by omega), List.nil_append,
          decodeFrom_inner _ _ _ (by simp) (by omega) (by dsimp only; split <;> omega)
            (by dsimp only; split <;> omega),
          decodeFrom_last _ _ _ (by simp) (by omega) (by simp) (by simp; omega)]
        rw [show (n / 4096 * 0x40 + n / 64 % 0x40) * 0x40 + n % 0x40 = n by omega, same]
      · rename_i four
        rw [Nat.mod_eq_of_lt (by omega : n / 262144 < 0x08)]
        simp only [List.cons_append, List.nil_append]
        rw [decodeFrom, start_four (n / 262144) (by omega), List.nil_append,
          decodeFrom_inner _ _ _ (by simp) (by omega) (by dsimp only; split <;> omega)
            (by dsimp only; split <;> omega),
          decodeFrom_inner _ _ _ (by simp) (by omega) (by simp) (by simp; omega),
          decodeFrom_last _ _ _ (by simp) (by omega) (by simp) (by simp; omega)]
        rw [show ((n / 262144 * 0x40 + n / 4096 % 0x40) * 0x40 + n / 64 % 0x40) * 0x40 +
          n % 0x40 = n by omega, same]

/-- Decoding the octets of a text gives the text. -/
theorem decode_encode (s : List Char) : decode (encode s) = s := by
  rw [decode, encode]
  induction s with
  | nil => rfl
  | cons c s ih => rw [List.flatMap_cons, decodeFrom_char, ih]

end CardFile.Text.Utf8

namespace CardFile.QuotedPrintable

private theorem hexDigit_read : ∀ n < 16, Text.isHexDigit (hexDigit n) = true ∧
    Text.hexValue (hexDigit n) = n ∧ (hexDigit n).toNat < 0x7F ∧ 0x30 ≤ (hexDigit n).toNat ∧
    hexDigit n ≠ '=' := by
  decide

private theorem decode_escape (b : UInt8) (rest : List Char) :
    decode (escape b ++ rest) = b :: decode rest := by
  have bound := b.toNat_lt
  obtain ⟨first, high, -⟩ := hexDigit_read (b.toNat / 16) (by omega)
  obtain ⟨second, low, -⟩ := hexDigit_read (b.toNat % 16) (by omega)
  have whole : b.toNat / 16 * 16 + b.toNat % 16 = b.toNat := by omega
  simp [escape, decode, first, second, high, low, whole]

private theorem ascii_toNat (b : UInt8) (ascii : b.toNat < 0x80) :
    (Char.ofNat b.toNat).toNat = b.toNat := by
  rw [Char.ofNat, dif_pos (Or.inl (by omega))]
  rfl

private theorem ascii_other (b : UInt8) (ascii : b.toNat < 0x80) (noEscape : b ≠ 0x3D) :
    Char.ofNat b.toNat ≠ '=' := by
  have value := ascii_toNat b ascii
  intro equal
  apply noEscape
  rw [equal] at value
  exact UInt8.toNat_inj.mp value.symm

private theorem decode_ascii (b : UInt8) (rest : List Char) (ascii : b.toNat < 0x80)
    (noEscape : b ≠ 0x3D) : decode (Char.ofNat b.toNat :: rest) = b :: decode rest := by
  have octets : String.utf8EncodeChar (Char.ofNat b.toNat) = [b] := by
    have small : (Char.ofNat b.toNat).val.toNat = b.toNat := ascii_toNat b ascii
    rw [String.utf8EncodeChar, small, if_pos (by omega)]
    simp
  rw [decode]
  · rw [octets, List.singleton_append]
  · intro _ _ _ equal _
    exact ascii_other b ascii noEscape equal

private theorem plain_bounds (b : UInt8) (plain : isPlain b = true) :
    0x21 ≤ b.toNat ∧ b.toNat ≤ 0x7E ∧ b ≠ 0x3D := by
  simpa [isPlain, UInt8.le_iff_toNat_le, and_assoc] using plain

/-- Octets that stand for themselves, spaces and tabs only where another octet follows. -/
private def IsKept (b : UInt8) : Prop :=
  isPlain b = true ∨ b = 0x20 ∨ b = 0x09

private theorem kept_bounds (b : UInt8) (kept : IsKept b) : b.toNat < 0x80 ∧ b ≠ 0x3D := by
  rcases kept with plain | rfl | rfl
  · obtain ⟨-, high, other⟩ := plain_bounds b plain
    exact ⟨by omega, other⟩
  · decide
  · decide

private theorem encode_cons (b : UInt8) (rest : List UInt8) :
    IsKept b ∧ encode (b :: rest) = Char.ofNat b.toNat :: encode rest ∨
      encode (b :: rest) = escape b ++ encode rest := by
  cases rest with
  | nil =>
    cases plain : isPlain b with
    | true => exact Or.inl ⟨Or.inl plain, by simp [encode, plain]⟩
    | false => exact Or.inr (by simp [encode, plain])
  | cons next rest =>
    rw [encode]
    · split
      · rename_i kept
        exact Or.inl ⟨by simpa [IsKept, or_assoc] using kept, rfl⟩
      · exact Or.inr rfl
    · simp

/-- Decoding undoes encoding, whatever the octets are. -/
theorem decode_encode (octets : List UInt8) : decode (encode octets) = octets := by
  induction octets with
  | nil => rfl
  | cons b rest ih =>
    rcases encode_cons b rest with ⟨kept, split⟩ | split
    · obtain ⟨ascii, other⟩ := kept_bounds b kept
      rw [split, decode_ascii b _ ascii other, ih]
    · rw [split, decode_escape, ih]

/-- Printable ASCII and tabs, which a content line can hold. -/
def IsWritten (c : Char) : Prop :=
  c = '\t' ∨ (0x20 ≤ c.toNat ∧ c.toNat < 0x7F)

private theorem escape_written (b : UInt8) : ∀ c ∈ escape b, IsWritten c := by
  have bound := b.toNat_lt
  obtain ⟨-, -, above, below, -⟩ := hexDigit_read (b.toNat / 16) (by omega)
  obtain ⟨-, -, above', below', -⟩ := hexDigit_read (b.toNat % 16) (by omega)
  simp only [escape, List.mem_cons, List.not_mem_nil, or_false, forall_eq_or_imp, forall_eq]
  exact ⟨Or.inr (by decide), Or.inr ⟨by omega, above⟩, Or.inr ⟨by omega, above'⟩⟩

private theorem ascii_written (b : UInt8) (kept : IsKept b) :
    IsWritten (Char.ofNat b.toNat) := by
  rcases kept with plain | rfl | rfl
  · obtain ⟨low, high, -⟩ := plain_bounds b plain
    have value := ascii_toNat b (by omega)
    exact Or.inr ⟨by omega, by omega⟩
  · exact Or.inr (by decide)
  · exact Or.inl (by decide)

theorem encode_written (octets : List UInt8) : ∀ c ∈ encode octets, IsWritten c := by
  induction octets with
  | nil => simp [encode]
  | cons b rest ih =>
    intro c member
    rcases encode_cons b rest with ⟨kept, split⟩ | split
    · rw [split] at member
      rcases List.mem_cons.mp member with rfl | other
      · exact ascii_written b kept
      · exact ih c other
    · rw [split] at member
      exact (List.mem_append.mp member).elim (escape_written b c) (ih c)

private theorem encode_ends (octets : List UInt8) (some : octets ≠ []) :
    ∃ b, encode [b] <:+ encode octets := by
  induction octets with
  | nil => exact absurd rfl some
  | cons b rest ih =>
    cases rest with
    | nil => exact ⟨b, List.suffix_rfl⟩
    | cons next rest =>
      obtain ⟨c, ends⟩ := ih (by simp)
      refine ⟨c, ends.trans ?_⟩
      rcases encode_cons b (next :: rest) with ⟨-, split⟩ | split <;> rw [split]
      · exact List.suffix_cons _ _
      · exact List.suffix_append _ _

private theorem encode_single_last (b : UInt8) :
    ∃ c, (encode [b]).getLast? = some c ∧ c ≠ ' ' ∧ c ≠ '\t' ∧ c ≠ '=' := by
  have solid (c : Char) (low : 0x21 ≤ c.toNat) : c ≠ ' ' ∧ c ≠ '\t' := by
    constructor <;> rintro rfl <;> simp at low
  rw [encode]
  split
  · rename_i plain
    obtain ⟨low, high, other⟩ := plain_bounds b plain
    have value := ascii_toNat b (by omega)
    obtain ⟨noSpace, noTab⟩ := solid (Char.ofNat b.toNat) (by omega)
    exact ⟨_, rfl, noSpace, noTab, ascii_other b (by omega) other⟩
  · obtain ⟨-, -, -, low, other⟩ := hexDigit_read (b.toNat % 16) (by omega)
    obtain ⟨noSpace, noTab⟩ := solid (hexDigit (b.toNat % 16)) (by omega)
    exact ⟨_, rfl, noSpace, noTab, other⟩

/-- The written form does not end in a blank, which a reader could take off, or in `=`, which would
be a soft line break. -/
theorem encode_last (octets : List UInt8) :
    ∀ c ∈ (encode octets).getLast?, c ≠ ' ' ∧ c ≠ '\t' ∧ c ≠ '=' := by
  by_cases some : octets = []
  · simp [some, encode]
  · obtain ⟨b, front, split⟩ := encode_ends octets some
    obtain ⟨d, last, solid⟩ := encode_single_last b
    intro c final
    rw [← split, List.getLast?_append, last, Option.some_or] at final
    obtain rfl := Option.mem_some.mp final
    exact solid

/-- Each `=` of a text has two hexadecimal digits after it. -/
def EscapesOnly (text : List Char) : Prop :=
  ∀ front rest, text = front ++ '=' :: rest →
    ∃ high low tail, rest = high :: low :: tail ∧ Text.isHexDigit high = true ∧
      Text.isHexDigit low = true

private theorem escapesOnly_cons (c : Char) (text : List Char) (other : c ≠ '=')
    (escapes : EscapesOnly text) : EscapesOnly (c :: text) := by
  intro front rest split
  cases front with
  | nil => exact absurd (List.cons.inj split).1 other
  | cons d front => exact escapes front rest (List.cons.inj split).2

private theorem escapesOnly_escape (b : UInt8) (text : List Char) (escapes : EscapesOnly text) :
    EscapesOnly (escape b ++ text) := by
  have bound := b.toNat_lt
  obtain ⟨first, -, -, -, noHigh⟩ := hexDigit_read (b.toNat / 16) (by omega)
  obtain ⟨second, -, -, -, noLow⟩ := hexDigit_read (b.toNat % 16) (by omega)
  have digits := escapesOnly_cons _ _ noHigh (escapesOnly_cons _ _ noLow escapes)
  intro front rest split
  cases front with
  | nil =>
    obtain rfl := (List.cons.inj split).2
    exact ⟨_, _, text, rfl, first, second⟩
  | cons d front => exact digits front rest (List.cons.inj split).2

theorem encode_escapes (octets : List UInt8) : EscapesOnly (encode octets) := by
  induction octets with
  | nil => exact fun front rest split => by simp [encode] at split
  | cons b rest ih =>
    rcases encode_cons b rest with ⟨kept, split⟩ | split
    · obtain ⟨ascii, other⟩ := kept_bounds b kept
      rw [split]
      exact escapesOnly_cons _ _ (ascii_other b ascii other) ih
    · rw [split]
      exact escapesOnly_escape b _ ih

end CardFile.QuotedPrintable
