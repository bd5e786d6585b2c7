/-!
Blank characters, and the trimming and word splitting that rest on them. A blank is a character
of Unicode's White_Space property; line breaks are blanks like any other.
-/
namespace CardFile.Text

/-- The twenty-five characters of White_Space. -/
def isBlank (c : Char) : Bool :=
  let n := c.toNat
  (0x09 ≤ n && n ≤ 0x0D) || n == 0x20 || n == 0x85 || n == 0xA0 || n == 0x1680 ||
  (0x2000 ≤ n && n ≤ 0x200A) || n == 0x2028 || n == 0x2029 || n == 0x202F || n == 0x205F ||
  n == 0x3000

def dropWhileEnd (p : Char → Bool) (s : List Char) : List Char :=
  (s.reverse.dropWhile p).reverse

def trim (s : List Char) : List Char :=
  dropWhileEnd isBlank (s.dropWhile isBlank)

def words (s : List Char) : List (List Char) :=
  (s.splitOnP isBlank).filter fun w => !w.isEmpty

/-- Cuts at the first `sep`, which belongs to neither part. -/
def cut (sep : Char) : List Char → Option (List Char × List Char)
  | [] => none
  | c :: r => if c = sep then some ([], r) else (cut sep r).map fun (a, b) => (c :: a, b)

end CardFile.Text

namespace CardFile

def trimmed (s : String) : String :=
  String.ofList (Text.trim s.toList)

def isAllBlank (s : String) : Bool :=
  s.toList.all Text.isBlank

end CardFile
