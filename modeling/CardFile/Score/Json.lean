import CardFile.Json.Basic
import CardFile.Score.Text

/-!
Scores as JSON numbers: the fewest digits that read back, always with a fraction or an exponent.
The exponent is used below `1e-5` and from `1e16` on. JSON has no infinity; it becomes null.
-/
namespace CardFile.Score

/-- A decimal whose digits do not end in zero, in the form of JSON. -/
def numeralOf (d : Decimal) : Numeral :=
  let digits := Nat.toDigits 10 d.digits
  let size := d.exponent + digits.length
  if 0 ≤ d.exponent ∧ size ≤ 16 then
    ⟨[], digits ++ List.replicate d.exponent.toNat '0', ['.'], ['0'], [], []⟩
  else if 0 < size ∧ size ≤ 16 then
    ⟨[], digits.take size.toNat, ['.'], digits.drop size.toNat, [], []⟩
  else if -5 < size ∧ size ≤ 0 then
    ⟨[], ['0'], ['.'], List.replicate (-size).toNat '0' ++ digits, [], []⟩
  else
    { sign := []
      whole := digits.take 1
      point := if digits.length = 1 then [] else ['.']
      fraction := digits.drop 1
      mark := if size < 1 then ['e', '-'] else ['e', '+']
      power := Nat.toDigits 10 (size - 1).natAbs }

def toJson (s : Score) : Json :=
  if s = zero then .number ⟨[], ['0'], ['.'], ['0'], [], []⟩
  else if s.isFinite then .number (numeralOf (s.shortest .even))
  else .null

end CardFile.Score
