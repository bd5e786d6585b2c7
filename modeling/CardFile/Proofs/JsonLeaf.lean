import CardFile.Json.Reader
import CardFile.Json.Writer
import CardFile.Proofs.ScoreText

/-!
Strings and numbers of JSON read back. Every character has a written form, as itself or as an
escape, that reads as its code point; and a numeral is read to its end, unless what follows it would
go on with it.
-/
namespace CardFile

namespace Json

private theorem unit?_control (code : Nat) (control : code < 0x20) :
    unit? '0' '0' (Nat.digitChar (code / 16)) (Nat.digitChar (code % 16)) = some code := by
  revert code
  decide

private theorem readCodes_escaped (c : Char) (rest : List Char) :
    readCodes (escapeChar c ++ rest) = consCode c.toNat (readCodes rest) := by
  unfold escapeChar
  split_ifs
  iterate 7
    subst c
    rfl
  · rename_i control
    simp only [List.cons_append, List.nil_append, readCodes, unit?_control c.toNat control]
  · rename_i noQuote noSlash _ _ _ _ _ printed
    rw [List.singleton_append, readCodes]
    · rw [if_neg (by simp [noSlash, printed])]
    · exact noQuote
    · exact fun _ _ _ _ _ slash => absurd slash noSlash
    · exact fun _ _ slash => absurd slash noSlash

theorem readCodes_written (s rest : List Char) :
    readCodes (s.flatMap escapeChar ++ '"' :: rest) = some (s.map Char.toNat, rest) := by
  induction s with
  | nil => rfl
  | cons c s ih =>
    rw [List.flatMap_cons, List.append_assoc, readCodes_escaped, ih]
    rfl

private theorem char_unpaired (c : Char) :
    Text.isLeadSurrogate c.toNat = false ∧ Text.isTrailSurrogate c.toNat = false := by
  have valid : c.toNat < 0xD800 ∨ 0xDFFF < c.toNat ∧ c.toNat < 0x110000 := c.valid
  simp only [Text.isLeadSurrogate, Text.isTrailSurrogate, Bool.and_eq_false_iff,
    decide_eq_false_iff_not]
  omega

theorem joinCodes?_chars (s : List Char) : Text.joinCodes? (s.map Char.toNat) = some s := by
  induction s with
  | nil => rfl
  | cons c s ih =>
    obtain ⟨noLead, noTrail⟩ := char_unpaired c
    cases s with
    | nil => simp [Text.joinCodes?, noLead, noTrail]
    | cons d s =>
      rw [List.map_cons] at ih
      simp [Text.joinCodes?, noLead, noTrail, ih]

theorem member_written (name : String) (value : Json) :
    member (name.toList.map Char.toNat) value = (name, value) := by
  simp [member, joinCodes?_chars]

theorem readLeaf_string (s : String) (rest : List Char) :
    readLeaf (writeString s ++ rest) = (.string s, rest) := by
  simp [writeString, readLeaf, readCodes_written, joinCodes?_chars]

end Json

namespace Numeral

/-- A numeral as JSON is written: an exponent has a small mark, and a sign. -/
structure IsWritten (n : Numeral) : Prop where
  sign : n.sign = [] ∨ n.sign = ['-']
  whole : n.whole ≠ [] ∧ ∀ c ∈ n.whole, c.isDigit = true
  leading : n.whole = ['0'] ∨ n.whole.head? ≠ some '0'
  fraction : n.point = [] ∧ n.fraction = [] ∨
    n.point = ['.'] ∧ n.fraction ≠ [] ∧ ∀ c ∈ n.fraction, c.isDigit = true
  power : n.mark = [] ∧ n.power = [] ∨
    (n.mark = ['e', '+'] ∨ n.mark = ['e', '-']) ∧ n.power ≠ [] ∧ ∀ c ∈ n.power, c.isDigit = true

theorem IsWritten.decimal {n : Numeral} (written : n.IsWritten) : n.IsDecimal where
  sign := written.sign.imp_right Or.inr
  digits := by
    intro c member
    rcases List.mem_append.mp member with whole | fraction
    · exact written.whole.2 c whole
    · rcases written.fraction with ⟨-, none⟩ | ⟨-, -, digits⟩
      · rw [none] at fraction
        cases fraction
      · exact digits c fraction
  filled := List.append_ne_nil_of_left_ne_nil written.whole.1 _
  point := written.fraction.symm.imp_left And.left
  power := by
    refine written.power.imp_right fun ⟨mark, power⟩ => ⟨?_, power⟩
    rcases mark with mark | mark
    · exact ⟨'e', ['+'], mark, Or.inl rfl, Or.inr (Or.inl rfl)⟩
    · exact ⟨'e', ['-'], mark, Or.inl rfl, Or.inr (Or.inr rfl)⟩

end Numeral

namespace Json

private theorem isNumber_written (n : Numeral) (written : n.IsWritten) : isNumber n = true := by
  have sign : n.sign ≠ ['+'] := by rcases written.sign with sign | sign <;> simp [sign]
  have leading : n.whole = ['0'] ∨ ¬n.whole = [] ∧ ¬n.whole.head? = some '0' :=
    written.leading.imp_right fun leading => ⟨written.whole.1, leading⟩
  have fraction : n.point = [] ∨ n.fraction ≠ [] :=
    written.fraction.imp And.left fun fraction => fraction.2.1
  simp [isNumber, sign, leading, fraction]

theorem readNumber_written (n : Numeral) (written : n.IsWritten) (rest : List Char)
    (stop : Numeral.IsEnd rest) : readNumber (n.text ++ rest) = some (n, rest) := by
  rw [readNumber, n.scan?_text written.decimal rest stop]
  dsimp only
  rw [List.drop_left, isNumber_written n written]
  cases rest with
  | nil => rfl
  | cons c rest =>
    obtain ⟨-, -, small, capital⟩ := stop c rfl
    simp [small, capital]

theorem text_head (n : Numeral) (written : n.IsWritten) :
    ∃ c s, n.text = c :: s ∧ (c.isDigit = true ∨ c = '-') := by
  obtain ⟨some, digits⟩ := written.whole
  rcases written.sign with sign | sign
  · obtain ⟨c, s, whole⟩ := List.exists_cons_of_ne_nil some
    refine ⟨c, s ++ n.point ++ n.fraction ++ n.mark ++ n.power, by simp [Numeral.text, sign, whole],
      Or.inl (digits c (by simp [whole]))⟩
  · exact ⟨'-', _, by simp [Numeral.text, sign]; rfl, Or.inr rfl⟩

theorem readLeaf_number (n : Numeral) (written : n.IsWritten) (rest : List Char)
    (stop : Numeral.IsEnd rest) : readLeaf (n.text ++ rest) = (.number n, rest) := by
  have read := readNumber_written n written rest stop
  obtain ⟨c, s, text, first⟩ := text_head n written
  rw [text, List.cons_append] at read ⊢
  have noLetter : c ≠ 'n' ∧ c ≠ 't' ∧ c ≠ 'f' ∧ c ≠ '"' := by
    refine ⟨?_, ?_, ?_, ?_⟩ <;> rintro rfl <;> simp at first
  obtain ⟨noNull, noTrue, noFalse, noQuote⟩ := noLetter
  rw [readLeaf, read]
  · exact fun _ same => noNull (List.cons.inj same).1
  · exact fun _ same => noTrue (List.cons.inj same).1
  · exact fun _ same => noFalse (List.cons.inj same).1
  · exact fun _ same => noQuote (List.cons.inj same).1

end Json

end CardFile
