import CardFile.Score.Decimal

/-!
JSON values. Members of an object keep their order and may repeat a name. A value read from a text
that is not JSON ends in `broken` at the place where the text goes wrong. A string that names half
of a surrogate pair is `unpaired`, and the value of a member with such a name is `nameless`.
-/
namespace CardFile

inductive Json
  | null
  | bool (b : Bool)
  | number (n : Numeral)
  | string (s : String)
  | array (items : List Json)
  | object (members : List (String × Json))
  /-- A string that no characters stand for. It can be passed over but not read. -/
  | unpaired
  /-- The value of a member whose name no characters stand for. -/
  | nameless (value : Json)
  | broken

def Numeral.ofNat (n : Nat) : Numeral :=
  ⟨[], Nat.toDigits 10 n, [], [], [], []⟩

def Numeral.ofInt (i : Int) : Numeral :=
  { ofNat i.natAbs with sign := if i < 0 then ['-'] else [] }

def Numeral.isWhole (n : Numeral) : Bool :=
  n.point.isEmpty && n.mark.isEmpty

namespace Json

def ofInt (i : Int) : Json :=
  .number (.ofInt i)

mutual

def isBroken : Json → Bool
  | broken => true
  | array items => anyBroken items
  | object members => anyMemberBroken members
  | nameless value => isBroken value
  | _ => false

def anyBroken : List Json → Bool
  | [] => false
  | j :: rest => isBroken j || anyBroken rest

def anyMemberBroken : List (String × Json) → Bool
  | [] => false
  | (_, j) :: rest => isBroken j || anyMemberBroken rest

end

end Json

end CardFile
