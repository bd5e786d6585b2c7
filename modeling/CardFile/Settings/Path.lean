/-!
Paths into a configuration. A path is written as the keys of tables with points between them; places
in a list follow its key in brackets and are counted from 0.
-/
namespace CardFile.Settings

inductive Step
  | key (name : String)
  | item (place : Nat)

abbrev Path := List Step

def isKeyChar (c : Char) : Bool :=
  c.isAlphanum || c == '-' || c == '_'

/-- Reads an opening bracket and a place; the closing bracket has been cut off. -/
def item? : List Char → Option Step
  | '[' :: digits =>
    if !digits.isEmpty && digits.all Char.isDigit then some (.item (Nat.ofDigitChars 10 digits 0))
    else none
  | _ => none

def level? (s : List Char) : Option Path := do
  let name := s.takeWhile isKeyChar
  let groups := (s.dropWhile isKeyChar).splitOn ']'
  if name.isEmpty || groups.getLast? != some [] then none
  else
    let items ← groups.dropLast.mapM item?
    some (.key (String.ofList name) :: items)

/-- The path that a text writes. A text that writes none is one key. -/
def Path.ofText (s : List Char) : Path :=
  match (s.splitOn '.').mapM level? with
  | some levels => levels.flatten
  | none => [.key (String.ofList s)]

end CardFile.Settings
