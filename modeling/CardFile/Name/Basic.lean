import CardFile.Text.Join

/-!
Personal names in five components. A component that is absent and one that is empty are told apart,
though neither shows in the forms in which a name is displayed.
-/
namespace CardFile

structure Name where
  honorific : Option String := none
  given : Option String := none
  additional : Option String := none
  family : Option String := none
  suffix : Option String := none
  deriving DecidableEq

namespace Name

def components (n : Name) : List (Option String) :=
  [n.honorific, n.given, n.additional, n.family, n.suffix]

def hasComponents (n : Name) : Bool :=
  n.components.any Option.isSome

def display (n : Name) : String :=
  joinFilled " " n.components

def isEmpty (n : Name) : Bool :=
  n.display.isEmpty

def fileAs (n : Name) : String :=
  joinFilled ", " [n.family, n.given]

end Name

end CardFile
