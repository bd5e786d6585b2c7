import CardFile.Text.Ascii

/-!
Quoted-printable: octets as printable ASCII, with `=` and two hexadecimal digits for the rest.
Soft line breaks are not part of it; the reader of documents joins them before it decodes.
-/
namespace CardFile.QuotedPrintable

def hexDigit (n : Nat) : Char :=
  if n < 10 then Char.ofNat (0x30 + n) else Char.ofNat (0x37 + n)

def escape (b : UInt8) : List Char :=
  ['=', hexDigit (b.toNat / 16), hexDigit (b.toNat % 16)]

/-- Printable ASCII other than `=` stands for itself wherever it is. -/
def isPlain (b : UInt8) : Bool :=
  0x21 ≤ b && b ≤ 0x7E && b != 0x3D

/-- Spaces and tabs stand for themselves except at the end. -/
def encode : List UInt8 → List Char
  | [] => []
  | [b] => if isPlain b then [Char.ofNat b.toNat] else escape b
  | b :: rest =>
    (if isPlain b || b == 0x20 || b == 0x09 then [Char.ofNat b.toNat] else escape b) ++ encode rest

/-- A `=` without two hexadecimal digits after it stands for itself, and so does every other
character, by its UTF-8 octets. -/
def decode : List Char → List UInt8
  | [] => []
  | '=' :: a :: b :: r =>
    if Text.isHexDigit a && Text.isHexDigit b then
      UInt8.ofNat (Text.hexValue a * 16 + Text.hexValue b) :: decode r
    else 0x3D :: decode (a :: b :: r)
  | c :: r => String.utf8EncodeChar c ++ decode r

end CardFile.QuotedPrintable
