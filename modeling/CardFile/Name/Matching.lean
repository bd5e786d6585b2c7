import CardFile.Name.Basic
import CardFile.Text.Lower

/-!
Whether a query names a person. Words match if they are equal up to case or if they are forms of
one given name; a query matches if two of its words can be aligned with words of the name.
-/
namespace CardFile.Name

/-- Canonical given names, each with one of its nicknames. -/
def nicknames : List (String × String) := [
  ("jon", "john"), ("jon", "jonathan"), ("daniel", "dan"), ("joseph", "joe"), ("robert", "rob"),
  ("robert", "bob"), ("richard", "rich"), ("richard", "dick"), ("william", "will"),
  ("william", "bill"), ("anthony", "tony"), ("steven", "steve"), ("michael", "mike"),
  ("douglas", "doug"), ("sidney", "sid"), ("eric", "erik"), ("chris", "christopher"),
  ("chris", "christine"), ("chris", "christy"), ("elizabeth", "liz"), ("jeff", "geoff"),
  ("jeff", "jeffrey"), ("jeff", "geoffrey"), ("jim", "james"), ("abigal", "abby"),
  ("amanda", "amy"), ("amanda", "manda"), ("di", "diana"), ("di", "diane"), ("maxine", "max"),
  ("rebecca", "becca"), ("rebecca", "becky"), ("jennifer", "jen"), ("jennifer", "jenny")]

def canonical (word : String) : String :=
  let lower := String.ofList (Text.lower word.toList)
  ((nicknames.find? fun (_, nickname) => nickname == lower).map (·.1)).getD lower

def wordsMatch (a b : String) : Bool :=
  canonical a == canonical b

/-- The position of the first word that matches, or the number of words if there is none. -/
def seek (words : List String) (word : String) : Nat :=
  words.findIdx (wordsMatch · word)

/-- Walks along a query and a name together. Each step looks ahead for the next word of either in
the other and takes the nearer of the two; the result counts the steps. It is `none` once neither
of the next words is found. -/
def align : List String → List String → Option Nat
  | [], _ => some 0
  | _ :: _, [] => some 0
  | q :: qs, n :: ns =>
    let i := seek (q :: qs) n
    let j := seek (n :: ns) q
    if qs.length < i ∧ ns.length < j then none
    else if i < j then (align (qs.drop i) ns).map (· + 1)
    else if j < i then (align qs (ns.drop j)).map (· + 1)
    else (align (qs.drop i) (ns.drop j)).map (· + 1)
termination_by query name => query.length + name.length
decreasing_by all_goals simp only [List.length_drop, List.length_cons]; omega

def matchesQuery (n : Name) (query : String) : Bool :=
  match align (wordsOf query) (wordsOf n.display) with
  | some count => 2 ≤ count
  | none => false

end CardFile.Name
