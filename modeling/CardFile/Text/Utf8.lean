/-!
UTF-8. Decoding never fails: each malformed sequence, cut where it first goes wrong, gives one
replacement character. Decoding undoes encoding.
-/
namespace CardFile.Text.Utf8

def encode (s : List Char) : List UInt8 :=
  s.flatMap String.utf8EncodeChar

def replacement : Char := '\uFFFD'

/-- A sequence under way: its code point so far, how many octets are missing, and the bounds of
the next one. -/
structure Partial where
  code : Nat
  missing : Nat
  low : Nat
  high : Nat

/-- What an octet gives at the start of a sequence. The bounds exclude overlong forms, surrogates
and code points above U+10FFFF. -/
def start (b : UInt8) : List Char × Option Partial :=
  let n := b.toNat
  if n < 0x80 then ([Char.ofNat n], none)
  else if n < 0xC2 then ([replacement], none)
  else if n < 0xE0 then ([], some ⟨n - 0xC0, 1, 0x80, 0xBF⟩)
  else if n < 0xF0 then
    ([], some ⟨n - 0xE0, 2, if n = 0xE0 then 0xA0 else 0x80, if n = 0xED then 0x9F else 0xBF⟩)
  else if n < 0xF5 then
    ([], some ⟨n - 0xF0, 3, if n = 0xF0 then 0x90 else 0x80, if n = 0xF4 then 0x8F else 0xBF⟩)
  else ([replacement], none)

/-- What an octet gives inside a sequence. One that does not belong there ends the sequence and
starts another. -/
def Partial.next (p : Partial) (b : UInt8) : List Char × Option Partial :=
  let n := b.toNat
  if p.low ≤ n ∧ n ≤ p.high then
    let code := p.code * 0x40 + (n - 0x80)
    if p.missing ≤ 1 then ([Char.ofNat code], none)
    else ([], some ⟨code, p.missing - 1, 0x80, 0xBF⟩)
  else (replacement :: (start b).1, (start b).2)

def decodeFrom : Option Partial → List UInt8 → List Char
  | none, [] => []
  | some _, [] => [replacement]
  | none, b :: rest => (start b).1 ++ decodeFrom (start b).2 rest
  | some p, b :: rest => (p.next b).1 ++ decodeFrom (p.next b).2 rest

def decode (octets : List UInt8) : List Char :=
  decodeFrom none octets

end CardFile.Text.Utf8
