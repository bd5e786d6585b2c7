import CardFile.Proofs.NumeralScan

/-!
Reading the number that a text starts with. What is handed on to be read is the longest front that
is a number, after any blanks; a reader that takes all numbers never refuses it, so zero is the
outcome of a refusal in no case. Scores are read in this way.
-/
namespace CardFile.Score

def leading? (text : String) : Option (List Char) :=
  (Numeral.scan? (text.toList.dropWhile Text.isBlank)).map Numeral.text

/-- What a reader of numbers makes of the number that a text starts with. It is zero where there is
none, and would be where the reader refuses it. -/
def readLeading {α : Type} (read : List Char → Option α) (zero : α) (text : String) : α :=
  match leading? text with
  | some number => (read number).getD zero
  | none => zero

/-- The score of a text that is a number from its start to its end. -/
def ofNumber? (number : List Char) : Option Score :=
  match Numeral.scan? number with
  | some n =>
    if n.text = number then some (if n.isNegative then zero else n.magnitude.toScore) else none
  | none => none

private theorem ofNumber?_text (n : Numeral) (decimal : n.IsDecimal) :
    ofNumber? n.text = some (if n.isNegative then zero else n.magnitude.toScore) := by
  rw [ofNumber?, Numeral.scan?_text_self n decimal]
  exact if_pos rfl

theorem isSome_ofNumber?_iff (number : List Char) :
    (ofNumber? number).isSome = true ↔ Numeral.IsNumber number := by
  constructor
  · intro read
    rw [ofNumber?] at read
    split at read
    · rename_i n scanned
      split at read
      · rename_i whole
        exact ⟨n, (Numeral.scan?_sound number n scanned).1, whole⟩
      · cases read
    · cases read
  · rintro ⟨n, decimal, rfl⟩
    rw [ofNumber?_text n decimal]
    rfl

theorem ofText_eq_readLeading (text : String) : ofText text = readLeading ofNumber? zero text := by
  rw [ofText, readLeading, leading?]
  cases scanned : Numeral.scan? (text.toList.dropWhile Text.isBlank) with
  | none => rfl
  | some n =>
    have decimal := (Numeral.scan?_sound _ n scanned).1
    rw [Option.map_some]
    dsimp only
    rw [ofNumber?_text n decimal, Option.getD_some]

/-- The number that is read is the longest front of the text that is one, leading blanks apart, and
there is none exactly where no front is a number. A reader that takes every number is never refused
by it, and what it reads is the outcome; scores are read by such a reader. -/
theorem readLeading_longest {α : Type} (read : List Char → Option α) (zero : α)
    (accepts : ∀ number, Numeral.IsNumber number → (read number).isSome = true) (text : String) :
    (∀ front, leading? text = some front ↔
      Numeral.IsLongest (text.toList.dropWhile Text.isBlank) front) ∧
    (leading? text = none ↔
      ∀ front, front <+: text.toList.dropWhile Text.isBlank → ¬Numeral.IsNumber front) ∧
    (leading? text = none → readLeading read zero text = zero) ∧
    (∀ front, leading? text = some front → read front = some (readLeading read zero text)) ∧
    ofText text = readLeading ofNumber? .zero text ∧
    ∀ number, (ofNumber? number).isSome = true ↔ Numeral.IsNumber number := by
  refine ⟨Numeral.map_scan?_eq_some_iff _, ?_, ?_, ?_, ofText_eq_readLeading text,
    isSome_ofNumber?_iff⟩
  · rw [leading?, Option.map_eq_none_iff, Numeral.scan?_eq_none_iff]
  · intro none
    rw [readLeading, none]
  · intro front found
    have number := ((Numeral.map_scan?_eq_some_iff _ front).mp found).number
    obtain ⟨value, taken⟩ := Option.isSome_iff_exists.mp (accepts front number)
    rw [readLeading, found]
    dsimp only
    rw [taken, Option.getD_some]

theorem readLeading_longest_gram :
    (∀ number, Numeral.IsNumber number → (ofNumber? number).isSome = true) ∧
    leading? "\u00a0\t+1.E-3e+g" = some "+1.E-3".toList ∧
    Numeral.IsLongest "+1.E-3e+g".toList "+1.E-3".toList ∧
    ofNumber? "+1.E-3".toList = some (ofText "\u00a0\t+1.E-3e+g") := by
  have accepts := fun number => (isSome_ofNumber?_iff number).mpr
  have found : leading? "\u00a0\t+1.E-3e+g" = some "+1.E-3".toList := by decide +kernel
  have start : "\u00a0\t+1.E-3e+g".toList.dropWhile Text.isBlank = "+1.E-3e+g".toList := by
    decide +kernel
  obtain ⟨longest, -, -, read, score, -⟩ :=
    readLeading_longest ofNumber? .zero accepts "\u00a0\t+1.E-3e+g"
  rw [score, ← start]
  exact ⟨accepts, found, (longest _).mp found, read _ found⟩

example : leading? "-.e5" = none := by decide +kernel

end CardFile.Score
