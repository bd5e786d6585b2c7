import CardFile.Json.Basic

/-!
The scores that JSON numbers stand for. A number is read in one pass: its digits are gathered in a
word of 64 bits, and the word is then multiplied or divided by a power of ten. The word, the power
and the result are each rounded, so that the score may differ in its last place from the one nearest
to the number.
-/
namespace CardFile

namespace Score

def mul (a b : Score) : Score :=
  ofQuotient (a.units * b.units) (unitsPerOne * unitsPerOne)

def div (a b : Score) : Score :=
  ofQuotient a.units b.units

def ofNat (n : Nat) : Score :=
  ofQuotient n 1

def tenTo (power : Nat) : Score :=
  Decimal.toScore ⟨1, power⟩

def largestStep : Nat := 308

/-- Multiplies by a power of ten; `none` if that leads beyond the finite scores. -/
def scaledUp? (s : Score) (power : Nat) : Option Score :=
  if s = zero then some zero
  else if largestStep < power then none
  else
    let product := s.mul (tenTo power)
    if product.isFinite then some product else none

/-- Divides by a power of ten, in two steps if it is too large for one. Nothing that fits a word is
left of a quotient that would take three. -/
def scaledDown (s : Score) (power : Nat) : Score :=
  if power ≤ largestStep then s.div (tenTo power)
  else if power ≤ 2 * largestStep then
    (s.div (tenTo largestStep)).div (tenTo (power - largestStep))
  else zero

end Score

namespace Numeral

/-- Adds digits to a word until one comes with which it would no longer fit 64 bits, and gives the
digits that are left. -/
def gather (word : Nat) : List Char → Nat × List Char
  | [] => (word, [])
  | c :: r =>
    let longer := word * 10 + (c.toNat - 0x30)
    if longer < 1 <<< 64 then gather longer r else (word, c :: r)

/-- The digits that fit a word. Of those left over, the ones before the point count as zeros and
the ones after it are dropped. -/
def gathered (n : Numeral) : Decimal :=
  let (word, zeros) := gather 0 n.whole
  let (word, dropped) := gather word n.fraction
  ⟨word, n.exponent + zeros.length - (n.fraction.length - dropped.length)⟩

def score? (n : Numeral) : Option Score :=
  let d := n.gathered
  if 0 ≤ d.exponent then (Score.ofNat d.digits).scaledUp? d.exponent.toNat
  else some ((Score.ofNat d.digits).scaledDown (-d.exponent).toNat)

end Numeral

end CardFile
