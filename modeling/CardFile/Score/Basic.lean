/-!
Use scores: the numbers zero and up that a binary floating-point word of 64 bits can hold, and
infinity. A score is its place in their order, so that every score is written in one way only, and
arithmetic on it is exact arithmetic on natural numbers.
-/
namespace CardFile

def Score.infinityCode : Nat := 2047 <<< 52

structure Score where
  code : Nat
  code_le : code ≤ Score.infinityCode
  deriving DecidableEq

/-- The quotient of two numbers, rounded to the nearest natural number, halves to the even one. -/
def roundedQuotient (n d : Nat) : Nat :=
  let q := n / d
  let twice := 2 * (n % d)
  if d < twice ∨ (twice = d ∧ q % 2 = 1) then q + 1 else q

namespace Score

def ofCode (code : Nat) : Score :=
  ⟨min code infinityCode, Nat.min_le_right code infinityCode⟩

def zero : Score := ofCode 0
def infinity : Score := ofCode infinityCode

def isFinite (s : Score) : Bool :=
  s.code < infinityCode

/-- All finite scores are multiples of one unit, and this many units are 1. -/
def unitsPerOne : Nat := 1 <<< 1074

/-- The value of a finite score in units. Places are one unit apart up to `2 ^ 53` units, and the
distance doubles each time the value does. -/
def units (s : Score) : Nat :=
  if s.code < 1 <<< 53 then s.code
  else (1 <<< 52 + s.code % 1 <<< 52) <<< (s.code / 1 <<< 52 - 1)

/-- The score nearest to the quotient of two numbers; of two that are equally near, the one whose
place is even. Quotients beyond the largest score are infinite. -/
def ofQuotient (n d : Nat) : Score :=
  let doublings := (n * unitsPerOne / d).log2 - 52
  ofCode (doublings <<< 52 + roundedQuotient (n * unitsPerOne) (d <<< doublings))

def toFloat (s : Score) : Float :=
  Float.ofBits s.code.toUInt64

/-- A machine number as a score. What is negative or no number at all counts as zero. -/
def ofFloat (x : Float) : Score :=
  if 0 < x then ofCode x.toBits.toNat else zero

end Score

end CardFile
