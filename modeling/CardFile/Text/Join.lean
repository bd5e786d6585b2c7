import CardFile.Text.Blank

/-!
Joining strings when some of them may be missing or empty, and the words of a string.
-/
namespace CardFile

def filled : Option String → Option String
  | some s => if s.isEmpty then none else some s
  | none => none

def joinFilled (separator : String) (parts : List (Option String)) : String :=
  separator.intercalate (parts.filterMap filled)

def joinNonEmpty (separator : String) (parts : List String) : Option String :=
  filled (some (joinFilled separator (parts.map some)))

def wordsOf (s : String) : List String :=
  (Text.words s.toList).map String.ofList

end CardFile
