/-!
Surrogates: the sixteen-bit units that stand for a character in pairs only.
-/
namespace CardFile.Text

def isLeadSurrogate (unit : Nat) : Bool :=
  0xD800 ≤ unit && unit < 0xDC00

def isTrailSurrogate (unit : Nat) : Bool :=
  0xDC00 ≤ unit && unit < 0xE000

def joinSurrogates (lead trail : Nat) : Char :=
  Char.ofNat (0x10000 + (lead - 0xD800) * 0x400 + (trail - 0xDC00))

/-- The characters of code points among which each surrogate must be one of a pair. -/
def joinCodes? : List Nat → Option (List Char)
  | [] => some []
  | [u] => if isLeadSurrogate u || isTrailSurrogate u then none else some [Char.ofNat u]
  | u :: v :: r =>
    if isLeadSurrogate u then
      if isTrailSurrogate v then (joinCodes? r).map (joinSurrogates u v :: ·) else none
    else if isTrailSurrogate u then none
    else (joinCodes? (v :: r)).map (Char.ofNat u :: ·)

end CardFile.Text
