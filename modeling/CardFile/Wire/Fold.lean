import CardFile.Text.Ascii
import CardFile.Text.Blank

/-!
Folding. On the wire a long line is cut into physical lines, each continuation starting with one
blank; unfolding takes the cuts out again. What remains, without its blank lines, is the list of
logical lines that a document is read from.
-/
namespace CardFile.Wire

/-- Removes each line break that a space or tab follows, together with that character. Other line
breaks become LF. A break is LF or CRLF; a CR alone is an ordinary character. -/
def unfold : List Char → List Char
  | [] => []
  | '\r' :: '\n' :: ' ' :: r => unfold r
  | '\r' :: '\n' :: '\t' :: r => unfold r
  | '\r' :: '\n' :: r => '\n' :: unfold r
  | '\n' :: ' ' :: r => unfold r
  | '\n' :: '\t' :: r => unfold r
  | c :: r => c :: unfold r

/-- The lines of unfolded text that are not blank, as written. -/
def contentLines (text : List Char) : List (List Char) :=
  (Text.lines text).filter fun line => !line.all Text.isBlank

def logicalLines (text : List Char) : List (List Char) :=
  contentLines (unfold text)

/-- The most octets of a physical line, its break not counted. -/
def lineLimit : Nat := 75

/-- Writes the rest of a line where `room` octets are left on the physical line. -/
def foldInto (room : Nat) : List Char → List Char
  | [] => ['\r', '\n']
  | c :: r =>
    if c.utf8Size ≤ room then c :: foldInto (room - c.utf8Size) r
    else '\r' :: '\n' :: ' ' :: c :: foldInto (lineLimit - 1 - c.utf8Size) r

/-- Writes a line as CRLF-terminated physical lines, cut between characters only. -/
def fold (line : List Char) : List Char :=
  foldInto lineLimit line

end CardFile.Wire
