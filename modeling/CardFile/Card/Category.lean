import CardFile.Text.Blank
import CardFile.Wire.Structured

/-!
The categories of a card as one text: joined by commas, with a backslash before each comma or
backslash of an entry. Reading adds entries to a list that holds no entry twice.
-/
namespace CardFile.Category

def escape : List Char → List Char
  | [] => []
  | c :: r => if c = '\\' ∨ c = ',' then '\\' :: c :: escape r else c :: escape r

def join (list : List String) : String :=
  String.ofList ([','].intercalate (list.map fun entry => escape entry.toList))

/-- The segments of a text. A backslash makes the next character an ordinary one; at the end of
the text it is left out. -/
def segments : List Char → List (List Char)
  | [] => [[]]
  | ['\\'] => [[]]
  | '\\' :: c :: r => Wire.consFirst c (segments r)
  | ',' :: r => [] :: segments r
  | c :: r => Wire.consFirst c (segments r)

def add (list : List String) (entry : String) : List String :=
  let entry := trimmed entry
  if entry.isEmpty || list.contains entry then list else list ++ [entry]

def addAll (list : List String) (text : String) : List String :=
  (segments text.toList).foldl (fun list segment => add list (String.ofList segment)) list

end CardFile.Category
