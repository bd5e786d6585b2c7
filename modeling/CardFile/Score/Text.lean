import CardFile.Score.Decimal

/-!
Scores as text: with a fixed number of decimals, or by the fewest digits that read back as the same
score. Both are computed from the exact decimal expansion of the score.
-/
namespace CardFile

namespace Decimal

def pointAt (places n : Nat) : List Char :=
  let digits := Nat.toDigits 10 n
  let digits := List.replicate (places + 1 - digits.length) '0' ++ digits
  let whole := digits.take (digits.length - places)
  if places = 0 then whole else whole ++ '.' :: digits.drop (digits.length - places)

def positional (d : Decimal) : List Char :=
  if 0 ≤ d.exponent then Nat.toDigits 10 (d.digits * tenTo d.exponent.toNat)
  else pointAt (-d.exponent).toNat d.digits

inductive Tie
  | up
  | even

def Tie.goesUp : Tie → Nat → Bool
  | up, _ => true
  | even, low => low % 2 == 1

/-- The decimal numbers of `count` digits on either side of `d`, the nearer first. -/
def neighbours (tie : Tie) (count : Nat) (d : Decimal) : List Decimal :=
  let dropped := digitCount d.digits - count
  let low := d.digits / tenTo dropped
  let twice := 2 * (d.digits % tenTo dropped)
  let exponent := d.exponent + dropped
  if tenTo dropped < twice ∨ (twice = tenTo dropped ∧ tie.goesUp low) then
    [⟨low + 1, exponent⟩, ⟨low, exponent⟩]
  else [⟨low, exponent⟩, ⟨low + 1, exponent⟩]

def stripZeros (d : Decimal) : Decimal :=
  let zeros := ((Nat.toDigits 10 d.digits).reverse.takeWhile (· == '0')).length
  ⟨d.digits / tenTo zeros, d.exponent + zeros⟩

end Decimal

namespace Score

def exact (s : Score) : Decimal :=
  ⟨s.units * Nat.pow 5 1074, -1074⟩

/-- The decimal of the fewest digits that reads back as a finite score, the nearest of them. -/
def shortest (tie : Decimal.Tie) (s : Score) : Decimal :=
  let exact := s.exact
  let found := (List.range' 1 17).findSome? fun count =>
    (exact.neighbours tie count).find? fun d => d.toScore == s
  (found.getD exact).stripZeros

/-- A score with a fixed number of decimals, a half rounded to the even neighbour. -/
def fixed (places : Nat) (s : Score) : String :=
  if s.isFinite then
    String.ofList (Decimal.pointAt places
      (roundedQuotient (s.units * Decimal.tenTo places) unitsPerOne))
  else "inf"

def shortestText (s : Score) : String :=
  if s = zero then "0"
  else if s.isFinite then String.ofList (s.shortest .up).positional
  else "inf"

/-- A score as cards carry it: with six decimals if they read back as the same score, and by the
fewest digits that do otherwise. -/
def toText (s : Score) : String :=
  if ofText (s.fixed 6) = s then s.fixed 6 else s.shortestText

end Score

end CardFile
