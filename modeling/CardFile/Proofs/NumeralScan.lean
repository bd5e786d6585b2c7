import CardFile.Score.Decimal
import Mathlib.Data.List.TakeWhile

/-!
The numbers that texts start with. A scan takes the longest front of a text that is a number, and
fails only where no front is one. So a reader of whole numbers is never handed anything else, and a
reader that takes all of them makes the result what it reads.
-/
namespace CardFile

namespace Numeral

def IsSign (sign : List Char) : Prop :=
  sign = [] ∨ sign = ['+'] ∨ sign = ['-']

def IsMark (mark : List Char) : Prop :=
  ∃ e sign, mark = e :: sign ∧ (e = 'e' ∨ e = 'E') ∧ IsSign sign

/-- The parts of a number: a digit at least before or after the point, none after it if the point is
not there, and an exponent with digits or none at all. -/
structure IsDecimal (n : Numeral) : Prop where
  sign : IsSign n.sign
  digits : ∀ c ∈ n.whole ++ n.fraction, c.isDigit = true
  filled : n.whole ++ n.fraction ≠ []
  point : n.point = ['.'] ∨ n.point = [] ∧ n.fraction = []
  power : n.mark = [] ∧ n.power = [] ∨
    IsMark n.mark ∧ n.power ≠ [] ∧ ∀ c ∈ n.power, c.isDigit = true

/-- A text that is a number from its start to its end. -/
def IsNumber (text : List Char) : Prop :=
  ∃ n : Numeral, n.IsDecimal ∧ n.text = text

/-- The longest front of a text that is a number. -/
structure IsLongest (text front : List Char) : Prop where
  start : front <+: text
  number : IsNumber front
  longest : ∀ other, other <+: text → IsNumber other → other.length ≤ front.length

/-- No numeral goes on with this text. -/
def IsEnd (rest : List Char) : Prop :=
  ∀ c ∈ rest.head?, c.isDigit = false ∧ c ≠ '.' ∧ c ≠ 'e' ∧ c ≠ 'E'

section Taking

private theorem digit_not_sign (c : Char) (digit : c.isDigit = true) : ¬(c = '+' ∨ c = '-') := by
  rintro (rfl | rfl) <;> exact absurd digit (by decide)

theorem takeSign_sign (sign body : List Char) (signed : IsSign sign)
    (start : ∀ c ∈ body.head?, ¬(c = '+' ∨ c = '-')) : takeSign (sign ++ body) = (sign, body) := by
  rcases signed with rfl | rfl | rfl
  · cases body with
    | nil => rfl
    | cons c body => exact if_neg (start c rfl)
  · rfl
  · rfl

theorem takeDigits_digits (digits rest : List Char) (all : ∀ c ∈ digits, c.isDigit = true) :
    takeDigits (digits ++ rest) = (digits ++ (takeDigits rest).1, (takeDigits rest).2) := by
  rw [takeDigits, List.takeWhile_append_of_pos all, List.dropWhile_append_of_pos all, takeDigits]

theorem takeDigits_stop (rest : List Char) (stop : ∀ c ∈ rest.head?, c.isDigit = false) :
    takeDigits rest = ([], rest) := by
  cases rest with
  | nil => rfl
  | cons c rest => simp [takeDigits, stop c rfl]

theorem takeDigits_append (digits rest : List Char) (all : ∀ c ∈ digits, c.isDigit = true)
    (stop : ∀ c ∈ rest.head?, c.isDigit = false) :
    takeDigits (digits ++ rest) = (digits, rest) := by
  rw [takeDigits_digits digits rest all, takeDigits_stop rest stop, List.append_nil]

theorem takeFraction_stop (rest : List Char) (stop : ∀ c ∈ rest.head?, c ≠ '.') :
    takeFraction rest = ([], [], rest) := by
  cases rest with
  | nil => rfl
  | cons c rest => exact if_neg (stop c rfl)

theorem takeExponent_stop (rest : List Char) (stop : ∀ c ∈ rest.head?, c ≠ 'e' ∧ c ≠ 'E') :
    takeExponent rest = ([], []) := by
  cases rest with
  | nil => rfl
  | cons c rest =>
    obtain ⟨small, capital⟩ := stop c rfl
    simp [takeExponent, small, capital]

theorem takeExponent_mark (mark power rest : List Char) (marked : IsMark mark)
    (some : power ≠ []) (digits : ∀ c ∈ power, c.isDigit = true) :
    takeExponent (mark ++ (power ++ rest)) = (mark, power ++ (takeDigits rest).1) := by
  obtain ⟨e, sign, rfl, letter, signed⟩ := marked
  have start : ∀ c ∈ (power ++ rest).head?, ¬(c = '+' ∨ c = '-') := by
    obtain ⟨d, power, rfl⟩ := List.exists_cons_of_ne_nil some
    rintro c ⟨⟩
    exact digit_not_sign d (digits d (by simp))
  simp only [takeExponent, List.cons_append, takeSign_sign sign _ signed start,
    takeDigits_digits power rest digits]
  rw [if_pos ⟨letter, by simp [some]⟩]

end Taking

section Taken

variable (s : List Char)

theorem takeSign_spec : IsSign (takeSign s).1 ∧ (takeSign s).1 ++ (takeSign s).2 = s := by
  cases s with
  | nil => exact ⟨Or.inl rfl, rfl⟩
  | cons c s =>
    rw [takeSign]
    split
    · rename_i sign
      exact ⟨Or.inr (by simpa using sign), rfl⟩
    · exact ⟨Or.inl rfl, rfl⟩

theorem takeDigits_spec : (∀ c ∈ (takeDigits s).1, c.isDigit = true) ∧
    (takeDigits s).1 ++ (takeDigits s).2 = s :=
  ⟨fun _ => List.mem_takeWhile_imp, List.takeWhile_append_dropWhile⟩

theorem takeFraction_spec :
    ((takeFraction s).1 = ['.'] ∨ (takeFraction s).1 = [] ∧ (takeFraction s).2.1 = []) ∧
    (∀ c ∈ (takeFraction s).2.1, c.isDigit = true) ∧
    (takeFraction s).1 ++ ((takeFraction s).2.1 ++ (takeFraction s).2.2) = s := by
  cases s with
  | nil => exact ⟨Or.inr ⟨rfl, rfl⟩, by simp [takeFraction], rfl⟩
  | cons c s =>
    rw [takeFraction]
    split
    · rename_i point
      obtain ⟨digits, whole⟩ := takeDigits_spec s
      exact ⟨Or.inl rfl, digits, by simp [whole, point]⟩
    · exact ⟨Or.inr ⟨rfl, rfl⟩, by simp, rfl⟩

theorem takeExponent_spec :
    ((takeExponent s).1 = [] ∧ (takeExponent s).2 = [] ∨
      IsMark (takeExponent s).1 ∧ (takeExponent s).2 ≠ [] ∧
        ∀ c ∈ (takeExponent s).2, c.isDigit = true) ∧
    (takeExponent s).1 ++ (takeExponent s).2 <+: s := by
  cases s with
  | nil => exact ⟨Or.inl ⟨rfl, rfl⟩, List.nil_prefix⟩
  | cons e s =>
    obtain ⟨signed, body⟩ := takeSign_spec s
    obtain ⟨digits, whole⟩ := takeDigits_spec (takeSign s).2
    rw [takeExponent]
    dsimp only
    split
    · rename_i exponent
      refine ⟨Or.inr ⟨⟨e, _, rfl, exponent.1, signed⟩, exponent.2, digits⟩, ?_⟩
      refine ⟨(takeDigits (takeSign s).2).2, ?_⟩
      rw [List.cons_append, List.cons_append, List.append_assoc, whole, body]
    · exact ⟨Or.inl ⟨rfl, rfl⟩, List.nil_prefix⟩

end Taken

theorem scan?_eq_some_iff (s : List Char) (n : Numeral) : scan? s = some n ↔
    ∃ a b c, takeSign s = (n.sign, a) ∧ takeDigits a = (n.whole, b) ∧
      takeFraction b = (n.point, n.fraction, c) ∧ takeExponent c = (n.mark, n.power) ∧
      n.whole ++ n.fraction ≠ [] := by
  rw [scan?]
  constructor
  · intro scanned
    dsimp only at scanned
    split at scanned
    · cases scanned
    · rename_i filled
      obtain rfl := Option.some.inj scanned
      exact ⟨_, _, _, rfl, rfl, rfl, rfl, by simpa using filled⟩
  · rintro ⟨a, b, c, sign, whole, fraction, power, filled⟩
    simp only [sign, whole, fraction, power]
    rw [if_neg (by simpa using filled)]

theorem scan?_sound (s : List Char) (n : Numeral) (scanned : scan? s = some n) :
    n.IsDecimal ∧ n.text <+: s := by
  obtain ⟨a, b, c, sign, whole, fraction, power, filled⟩ := (scan?_eq_some_iff s n).mp scanned
  obtain ⟨signed, sEq⟩ := takeSign_spec s
  obtain ⟨wholes, aEq⟩ := takeDigits_spec a
  obtain ⟨point, fractions, bEq⟩ := takeFraction_spec b
  obtain ⟨powers, tail, cEq⟩ := takeExponent_spec c
  rw [sign] at signed sEq
  rw [whole] at wholes aEq
  rw [fraction] at point fractions bEq
  rw [power] at powers cEq
  refine ⟨⟨signed, ?_, filled, point, powers⟩, tail, ?_⟩
  · exact fun d member => (List.mem_append.mp member).elim (wholes d) (fractions d)
  · rw [← sEq, ← aEq, ← bEq, ← cEq]
    simp [text]

section Front

variable (n : Numeral)

private theorem text_append (rest : List Char) : n.text ++ rest =
    n.sign ++ (n.whole ++ (n.point ++ (n.fraction ++ (n.mark ++ (n.power ++ rest))))) := by
  simp [text]

private theorem mark_stops (tail : List Char) (marked : IsMark n.mark) :
    ∀ c ∈ (n.mark ++ tail).head?, c.isDigit = false ∧ c ≠ '.' := by
  obtain ⟨e, sign, mark, rfl | rfl, -⟩ := marked <;> rw [mark] <;> rintro c ⟨⟩ <;> decide

variable (decimal : n.IsDecimal)

include decimal

private theorem wholes : ∀ c ∈ n.whole, c.isDigit = true :=
  fun c member => decimal.digits c (List.mem_append_left _ member)

private theorem fractions : ∀ c ∈ n.fraction, c.isDigit = true :=
  fun c member => decimal.digits c (List.mem_append_right _ member)

private theorem takeSign_text (tail : List Char) :
    takeSign (n.sign ++ (n.whole ++ (n.point ++ (n.fraction ++ tail)))) =
      (n.sign, n.whole ++ (n.point ++ (n.fraction ++ tail))) := by
  apply takeSign_sign _ _ decimal.sign
  cases whole : n.whole with
  | cons d others =>
    rintro c ⟨⟩
    exact digit_not_sign d (wholes n decimal d (by simp [whole]))
  | nil =>
    rcases decimal.point with point | ⟨-, fraction⟩
    · rw [point]
      rintro c ⟨⟩
      decide
    · exact absurd (by rw [whole, fraction]; rfl) decimal.filled

private theorem take_mantissa (tail : List Char)
    (stop : ∀ c ∈ tail.head?, c.isDigit = false ∧ c ≠ '.') :
    takeDigits (n.whole ++ (n.point ++ (n.fraction ++ tail))) =
      (n.whole, n.point ++ (n.fraction ++ tail)) ∧
    takeFraction (n.point ++ (n.fraction ++ tail)) = (n.point, n.fraction, tail) := by
  have ends := fun c first => (stop c first).1
  rcases decimal.point with point | ⟨point, fraction⟩
  · rw [point]
    refine ⟨takeDigits_append _ _ (wholes n decimal) (by simp), ?_⟩
    exact congrArg (Prod.mk ['.']) (takeDigits_append _ tail (fractions n decimal) ends)
  · rw [point, fraction]
    exact ⟨takeDigits_append _ tail (wholes n decimal) ends,
      takeFraction_stop tail fun c first => (stop c first).2⟩

/-- A number is scanned as it is where nothing goes on with it. -/
theorem scan?_text (rest : List Char) (ends : IsEnd rest) : scan? (n.text ++ rest) = some n := by
  have sign := takeSign_text n decimal (n.mark ++ (n.power ++ rest))
  obtain ⟨exponent, stop⟩ : takeExponent (n.mark ++ (n.power ++ rest)) = (n.mark, n.power) ∧
      ∀ c ∈ (n.mark ++ (n.power ++ rest)).head?, c.isDigit = false ∧ c ≠ '.' := by
    rcases decimal.power with ⟨mark, power⟩ | ⟨marked, some, powers⟩
    · rw [mark, power]
      exact ⟨takeExponent_stop rest fun c first => (ends c first).2.2,
        fun c first => ⟨(ends c first).1, (ends c first).2.1⟩⟩
    · rw [takeExponent_mark n.mark n.power rest marked some powers,
        takeDigits_stop rest fun c first => (ends c first).1, List.append_nil]
      exact ⟨rfl, mark_stops n _ marked⟩
  obtain ⟨whole, fraction⟩ := take_mantissa n decimal _ stop
  rw [text_append, scan?_eq_some_iff]
  exact ⟨_, _, _, sign, whole, fraction, exponent, decimal.filled⟩

theorem scan?_text_self : scan? n.text = some n := by
  have scanned := scan?_text n decimal [] (by simp [IsEnd])
  rwa [List.append_nil] at scanned

private theorem scan?_whole_front (rest : List Char) (point : n.point = [])
    (mark : n.mark = []) (power : n.power = []) :
    ∃ m, scan? (n.text ++ rest) = some m ∧ n.text <+: m.text := by
  have fraction : n.fraction = [] := by
    rcases decimal.point with other | ⟨-, fraction⟩
    · rw [point] at other
      cases other
    · exact fraction
  have filled := decimal.filled
  have sign := takeSign_text n decimal rest
  have whole := takeDigits_digits n.whole rest (wholes n decimal)
  rw [point, fraction] at sign
  rw [fraction, List.append_nil] at filled
  obtain ⟨point', fraction', left, points⟩ :
      ∃ p f left, takeFraction (takeDigits rest).2 = (p, f, left) := ⟨_, _, _, rfl⟩
  obtain ⟨mark', power', exponent⟩ : ∃ k w, takeExponent left = (k, w) := ⟨_, _, rfl⟩
  refine ⟨⟨n.sign, n.whole ++ (takeDigits rest).1, point', fraction', mark', power'⟩, ?_, ?_⟩
  · rw [text_append, point, fraction, mark, power, scan?_eq_some_iff]
    exact ⟨_, _, left, sign, whole, points, exponent, by simp [filled]⟩
  · exact ⟨(takeDigits rest).1 ++ point' ++ fraction' ++ mark' ++ power',
      by simp [text, point, fraction, mark, power]⟩

private theorem scan?_point_front (rest : List Char) (point : n.point = ['.'])
    (mark : n.mark = []) (power : n.power = []) :
    ∃ m, scan? (n.text ++ rest) = some m ∧ n.text <+: m.text := by
  have filled := decimal.filled
  have sign := takeSign_text n decimal rest
  have whole := takeDigits_append n.whole ('.' :: (n.fraction ++ rest)) (wholes n decimal) (by simp)
  have taken := takeDigits_digits n.fraction rest (fractions n decimal)
  have fraction := congrArg (Prod.mk ['.']) taken
  rw [point] at sign
  obtain ⟨mark', power', exponent⟩ : ∃ k w, takeExponent (takeDigits rest).2 = (k, w) :=
    ⟨_, _, rfl⟩
  refine ⟨⟨n.sign, n.whole, ['.'], n.fraction ++ (takeDigits rest).1, mark', power'⟩, ?_, ?_⟩
  · rw [text_append, point, mark, power, scan?_eq_some_iff]
    refine ⟨_, _, _, sign, whole, fraction, exponent, ?_⟩
    rw [← List.append_assoc]
    exact List.append_ne_nil_of_left_ne_nil filled _
  · exact ⟨(takeDigits rest).1 ++ mark' ++ power', by simp [text, point, mark, power]⟩

private theorem scan?_power_front (rest : List Char) (marked : IsMark n.mark) (some : n.power ≠ [])
    (powers : ∀ c ∈ n.power, c.isDigit = true) :
    ∃ m, scan? (n.text ++ rest) = .some m ∧ n.text <+: m.text := by
  have sign := takeSign_text n decimal (n.mark ++ (n.power ++ rest))
  obtain ⟨whole, fraction⟩ := take_mantissa n decimal _ (mark_stops n _ marked)
  have exponent := takeExponent_mark n.mark n.power rest marked some powers
  refine ⟨{ n with power := n.power ++ (takeDigits rest).1 }, ?_, ?_⟩
  · rw [text_append, scan?_eq_some_iff]
    exact ⟨_, _, _, sign, whole, fraction, exponent, decimal.filled⟩
  · exact ⟨(takeDigits rest).1, by simp [text]⟩

/-- A text that starts with a number is scanned at least to the end of the number. -/
theorem scan?_front (rest : List Char) :
    ∃ m, scan? (n.text ++ rest) = some m ∧ n.text <+: m.text := by
  -- The rest goes on with the part that the number ends in: the digits of an exponent, or those
  -- after a point or before one; what stands before that part is scanned as it is.
  rcases decimal.power with ⟨mark, power⟩ | ⟨marked, some, powers⟩
  · rcases decimal.point with point | ⟨point, -⟩
    · exact scan?_point_front n decimal rest point mark power
    · exact scan?_whole_front n decimal rest point mark power
  · exact scan?_power_front n decimal rest marked some powers

end Front

theorem scan?_of_isNumber (s front : List Char) (start : front <+: s) (number : IsNumber front) :
    ∃ n, scan? s = some n ∧ front <+: n.text := by
  obtain ⟨rest, rfl⟩ := start
  obtain ⟨n, decimal, rfl⟩ := number
  exact scan?_front n decimal rest

/-- A scan fails exactly where no front of the text is a number. -/
theorem scan?_eq_none_iff (s : List Char) :
    scan? s = none ↔ ∀ front, front <+: s → ¬IsNumber front := by
  constructor
  · intro failed front start number
    obtain ⟨n, scanned, -⟩ := scan?_of_isNumber s front start number
    rw [failed] at scanned
    cases scanned
  · intro none
    cases scanned : scan? s with
    | none => rfl
    | some n =>
      obtain ⟨decimal, start⟩ := scan?_sound s n scanned
      exact absurd ⟨n, decimal, rfl⟩ (none n.text start)

/-- What is scanned is the longest front of the text that is a number. -/
theorem map_scan?_eq_some_iff (s front : List Char) :
    (scan? s).map text = some front ↔ IsLongest s front := by
  rw [Option.map_eq_some_iff]
  constructor
  · rintro ⟨n, scanned, rfl⟩
    obtain ⟨decimal, start⟩ := scan?_sound s n scanned
    refine ⟨start, ⟨n, decimal, rfl⟩, fun other begins number => ?_⟩
    obtain ⟨m, again, within⟩ := scan?_of_isNumber s other begins number
    obtain rfl := Option.some.inj (scanned.symm.trans again)
    exact within.length_le
  · rintro ⟨start, number, longest⟩
    obtain ⟨n, scanned, within⟩ := scan?_of_isNumber s front start number
    obtain ⟨decimal, begins⟩ := scan?_sound s n scanned
    have length := longest n.text begins ⟨n, decimal, rfl⟩
    exact ⟨n, scanned, (within.eq_of_length_le length).symm⟩

end Numeral

end CardFile
