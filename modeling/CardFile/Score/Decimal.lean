import CardFile.Score.Basic
import CardFile.Text.Blank

/-!
Decimal numbers as text, and the scores nearest to them. A text is read as far as it looks like a
number; what follows is ignored.
-/
namespace CardFile

/-- The number `digits * 10 ^ exponent`. -/
structure Decimal where
  digits : Nat
  exponent : Int
  deriving DecidableEq

namespace Decimal

def tenTo (power : Nat) : Nat :=
  Nat.pow 10 power

def digitCount (n : Nat) : Nat :=
  (Nat.toDigits 10 n).length

/-- The score nearest to a decimal number. Those with more than 310 digits before the point, or
more than 330 zeros after it, are settled by their size alone. -/
def toScore (d : Decimal) : Score :=
  let size := d.exponent + digitCount d.digits
  if d.digits = 0 then .zero
  else if 310 < size then .infinity
  else if size < -330 then .zero
  else if 0 ≤ d.exponent then .ofQuotient (d.digits * tenTo d.exponent.toNat) 1
  else .ofQuotient d.digits (tenTo (-d.exponent).toNat)

end Decimal

/-- The written form of a number in its parts. The mark of an exponent includes its sign. -/
structure Numeral where
  sign : List Char
  whole : List Char
  point : List Char
  fraction : List Char
  mark : List Char
  power : List Char

namespace Numeral

def text (n : Numeral) : List Char :=
  n.sign ++ n.whole ++ n.point ++ n.fraction ++ n.mark ++ n.power

def takeDigits (s : List Char) : List Char × List Char :=
  (s.takeWhile Char.isDigit, s.dropWhile Char.isDigit)

def takeSign : List Char → List Char × List Char
  | c :: r => if c = '+' ∨ c = '-' then ([c], r) else ([], c :: r)
  | [] => ([], [])

def takeFraction : List Char → List Char × List Char × List Char
  | c :: r => if c = '.' then (['.'], takeDigits r) else ([], [], c :: r)
  | [] => ([], [], [])

/-- Splits off the mark and digits of an exponent. Without a digit there is no exponent. -/
def takeExponent : List Char → List Char × List Char
  | e :: r =>
    let (sign, r) := takeSign r
    let power := (takeDigits r).1
    if (e = 'e' ∨ e = 'E') ∧ power ≠ [] then (e :: sign, power) else ([], [])
  | [] => ([], [])

/-- The longest numeral at the start of a text. It needs a digit before or after the point. -/
def scan? (s : List Char) : Option Numeral :=
  let (sign, s) := takeSign s
  let (whole, s) := takeDigits s
  let (point, fraction, s) := takeFraction s
  let (mark, power) := takeExponent s
  if whole.isEmpty && fraction.isEmpty then none
  else some ⟨sign, whole, point, fraction, mark, power⟩

def isNegative (n : Numeral) : Bool :=
  n.sign == ['-']

def exponent (n : Numeral) : Int :=
  if n.mark.contains '-' then -(Nat.ofDigitChars 10 n.power 0) else Nat.ofDigitChars 10 n.power 0

def magnitude (n : Numeral) : Decimal :=
  ⟨Nat.ofDigitChars 10 (n.whole ++ n.fraction) 0, n.exponent - n.fraction.length⟩

end Numeral

/-- The score that a text starts with, after any blanks. What is negative, or no number, is zero. -/
def Score.ofText (s : String) : Score :=
  match Numeral.scan? (s.toList.dropWhile Text.isBlank) with
  | some n => if n.isNegative then .zero else n.magnitude.toScore
  | none => .zero

end CardFile
