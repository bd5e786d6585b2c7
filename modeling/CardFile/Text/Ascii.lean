/-!
The ASCII view of text: letter case that only ASCII letters have, control characters, and the
lines of a text. Full Unicode case is in `Lower`.
-/
namespace CardFile.Text

/-- Equal when the case of ASCII letters is disregarded; other letters must be the same. -/
def sameLetters (a b : List Char) : Bool :=
  a.map Char.toLower == b.map Char.toLower

def isAsciiBlank (c : Char) : Bool :=
  c == ' ' || c == '\t' || c == '\n' || c == '\x0C' || c == '\r'

def isControl (c : Char) : Bool :=
  c.toNat < 0x20 || (0x7F ≤ c.toNat && c.toNat < 0xA0)

def isHexDigit (c : Char) : Bool :=
  c.isDigit || ('a' ≤ c && c ≤ 'f') || ('A' ≤ c && c ≤ 'F')

/-- The value of an ASCII hexadecimal digit of either case, and `0` for any other character. -/
def hexValue (c : Char) : Nat :=
  if c.isDigit then c.toNat - 0x30
  else if 'a' ≤ c && c ≤ 'f' then c.toNat - 0x57
  else if 'A' ≤ c && c ≤ 'F' then c.toNat - 0x37
  else 0

def dropCarriageReturn (line : List Char) : List Char :=
  if line.getLast? = some '\r' then line.dropLast else line

/-- The lines of a text. A line ends at LF or CRLF, and only a last line that is not empty may
lack its end. -/
def lines (s : List Char) : List (List Char) :=
  let segments := s.splitOn '\n'
  segments.dropLast.map dropCarriageReturn ++
    (segments.getLast?.toList.filter fun last => !last.isEmpty)

end CardFile.Text

namespace CardFile

def sameIgnoringCase (a b : String) : Bool :=
  Text.sameLetters a.toList b.toList

end CardFile
