import CardFile.Proofs.Date

/-!
Dates in words of 32 bits. Reading a date adds up octets that may be anything, yet no step of it
leaves the words; and what is written and read again is the nearest date in range, after which
nothing more happens to it.
-/
namespace CardFile.Date

def word? (n : Int) : Option Int :=
  if -0x80000000 ≤ n ∧ n < 0x80000000 then some n else none

def wordNumber? (octets : List UInt8) : Option Int :=
  octets.foldlM (fun n b => do
    let shifted ← word? (n * 10)
    let digit ← word? (b.toNat - 0x30)
    word? (shifted + digit)) 0

def wordDate? (year month day : List UInt8) : Option Date := do
  let year ← wordNumber? year
  let month ← wordNumber? month
  let day ← wordNumber? day
  some ⟨year, month, day⟩

/-- Reads a date in words; `none` if a step overflows. -/
def wordParse? (s : String) : Option Date :=
  match Text.Utf8.encode s.toList with
  | [a, b, c, d, _, e, f, _, g, h] => wordDate? [a, b, c, d] [e, f] [g, h]
  | [a, b, c, d, e, f, g, h] => wordDate? [a, b, c, d] [e, f] [g, h]
  | _ => some ⟨0, 0, 0⟩

private theorem word?_fits (n : Int) (low : -0x80000000 ≤ n) (high : n < 0x80000000) :
    word? n = some n :=
  if_pos ⟨low, high⟩

private theorem wordNumber?_few (octets : List UInt8) (few : octets.length ≤ 4) :
    wordNumber? octets = some (number octets) := by
  induction octets using List.reverseRecOn with
  | nil => rfl
  | append_singleton octets b ih =>
    rw [List.length_append, List.length_singleton] at few
    -- The number so far has three octets at most, which leaves room for the next.
    obtain ⟨high, low⟩ := number_bounds octets
    have power : 10 ^ octets.length ≤ 10 ^ 3 := Nat.pow_le_pow_right (by decide) (by omega)
    have octet := b.toNat_lt
    have shifted := word?_fits (number octets * 10) (by omega) (by omega)
    have digit := word?_fits (b.toNat - 0x30) (by omega) (by omega)
    have sum := word?_fits (number octets * 10 + (b.toNat - 0x30)) (by omega) (by omega)
    have front := ih (by omega)
    rw [wordNumber?] at front ⊢
    rw [List.foldlM_append, front, number_concat]
    simp [shifted, digit, sum]

private theorem wordDate?_few (year month day : List UInt8) (years : year.length ≤ 4)
    (months : month.length ≤ 4) (days : day.length ≤ 4) :
    wordDate? year month day = some ⟨number year, number month, number day⟩ := by
  rw [wordDate?, wordNumber?_few year years, wordNumber?_few month months,
    wordNumber?_few day days]
  rfl

/-- Words of 32 bits are enough to read a date, whatever text it is read from. -/
theorem wordParse?_eq (s : String) : wordParse? s = some (parse s) := by
  rw [wordParse?]
  split
  · rename_i octets
    rw [parse, octets]
    exact wordDate?_few _ _ _ (by simp) (by simp) (by simp)
  · rename_i octets
    rw [parse, octets]
    exact wordDate?_few _ _ _ (by simp) (by simp) (by simp)
  · rename_i noDashed noCompact
    rw [parse]
    split
    · rename_i octets
      exact absurd octets (noDashed _ _ _ _ _ _ _ _ _ _)
    · rename_i octets
      exact absurd octets (noCompact _ _ _ _ _ _ _ _)
    · rfl

def withoutDashes (s : String) : String :=
  String.ofList (s.toList.filter (· != '-'))

private theorem withoutDashes_spelled {d : Date} {year month day : List Char}
    (spelled : d.Spelled year month day) (s : String)
    (text : s.toList = year ++ '-' :: month ++ '-' :: day) :
    (withoutDashes s).toList = year ++ month ++ day := by
  have kept : (year ++ month ++ day).filter (· != '-') = year ++ month ++ day := by
    rw [List.filter_eq_self]
    intro c member
    have digit := spelled.digits c member
    rw [bne_iff_ne]
    rintro rfl
    exact absurd digit (by decide)
  rw [withoutDashes, String.toList_ofList, text, ← kept]
  simp [List.filter_append]

/-- A date is written in ten octets, and comes back from them, with the dashes or without, with
each part moved into its range. Reading any text stays within words of 32 bits, and once the date
that was read has been written and read again, doing so again changes nothing. -/
theorem toText_clamps :
    (∀ d : Date, (Text.Utf8.encode d.toText.toList).length = 10 ∧
      parse d.toText =
        ⟨max 1000 (min 9999 d.year), max 1 (min 12 d.month), max 1 (min 31 d.day)⟩ ∧
      parse (withoutDashes d.toText) =
        ⟨max 1000 (min 9999 d.year), max 1 (min 12 d.month), max 1 (min 31 d.day)⟩) ∧
    ∀ s : String, wordParse? s = some (parse s) ∧
      parse (parse (parse s).toText).toText = parse (parse s).toText := by
  constructor
  · intro d
    obtain ⟨year, month, day, text, spelled⟩ := d.toText_spelled
    refine ⟨?_, spelled.parse_eq d.toText (Or.inl text), ?_⟩
    · rw [text]
      exact spelled.length_encode
    · exact spelled.parse_eq _ (Or.inr (withoutDashes_spelled spelled _ text))
  · intro s
    refine ⟨wordParse?_eq s, ?_⟩
    rw [parse_toText, parse_toText, clamp_inRange _ (parse s).inRange_clamp]

end CardFile.Date
