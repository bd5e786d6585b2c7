import CardFile.Text.Ascii

/-!
Base64 with the standard alphabet. Only the canonical form is accepted: padded to a multiple of
four digits, with the unused bits of the last digit zero. ASCII blanks may stand anywhere.
-/
namespace CardFile.Base64

def digit? (c : Char) : Option Nat :=
  if 'A' ≤ c ∧ c ≤ 'Z' then some (c.toNat - 0x41)
  else if 'a' ≤ c ∧ c ≤ 'z' then some (c.toNat - 0x61 + 26)
  else if c.isDigit then some (c.toNat - 0x30 + 52)
  else if c = '+' then some 62
  else if c = '/' then some 63
  else none

def lastOne? (a b : Char) : Option (List UInt8) := do
  let a ← digit? a
  let b ← digit? b
  if b % 16 = 0 then some [UInt8.ofNat (a * 4 + b / 16)] else none

def lastTwo? (a b c : Char) : Option (List UInt8) := do
  let a ← digit? a
  let b ← digit? b
  let c ← digit? c
  if c % 4 = 0 then
    some [UInt8.ofNat (a * 4 + b / 16), UInt8.ofNat (b % 16 * 16 + c / 4)]
  else none

def three? (a b c d : Char) : Option (List UInt8) := do
  let a ← digit? a
  let b ← digit? b
  let c ← digit? c
  let d ← digit? d
  some [UInt8.ofNat (a * 4 + b / 16), UInt8.ofNat (b % 16 * 16 + c / 4),
    UInt8.ofNat (c % 4 * 64 + d)]

def decodeGroups? : List Char → Option (List UInt8)
  | [] => some []
  | [a, b, '=', '='] => lastOne? a b
  | [a, b, c, '='] => lastTwo? a b c
  | a :: b :: c :: d :: rest => do
    let first ← three? a b c d
    let more ← decodeGroups? rest
    some (first ++ more)
  | _ => none

def decode? (s : List Char) : Option (List UInt8) :=
  decodeGroups? (s.filter fun c => !Text.isAsciiBlank c)

end CardFile.Base64
