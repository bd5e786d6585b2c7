import CardFile.Address.Basic
import CardFile.Card.Category
import CardFile.Date
import CardFile.Name.Basic
import CardFile.Name.Matching
import CardFile.Name.Western
import CardFile.Email
import CardFile.Score.Decay

/-!
Contact cards, what can be asked of one, and the changes that keep its parts together. Text that is
absent and text that is empty are told apart throughout.
-/
namespace CardFile

structure Phone where
  flags : PhoneFlags
  number : String
  deriving DecidableEq

/-- A value that an application keeps on a card, under a key and with a type of its own. -/
structure Arbitrary where
  key : Option String := none
  valueType : Option String := none
  value : Option String := none
  deriving DecidableEq

structure Card where
  id : String := ""
  fileAs : Option String := none
  fullName : Option String := none
  name : Option Name := none
  addresses : List Address := []
  addressLabels : List AddressLabel := []
  phones : List Phone := []
  emails : List String := []
  birthDate : Option Date := none
  url : Option String := none
  org : Option String := none
  orgUnit : Option String := none
  office : Option String := none
  title : Option String := none
  role : Option String := none
  manager : Option String := none
  assistant : Option String := none
  nickname : Option String := none
  spouse : Option String := none
  anniversary : Option Date := none
  mailer : Option String := none
  freeBusyUrl : Option String := none
  note : Option String := none
  relatedContacts : Option String := none
  /-- Absent until the list is first made; a list that is empty still counts as there. -/
  categories : Option (List String) := none
  arbitrary : List Arbitrary := []
  lastUse : Option Date := none
  useScore : Score := .zero
  wantsHtml : Option Bool := none
  isMailingList : Bool := false
  listShowAddresses : Bool := false
  deriving DecidableEq

namespace Card

def fullNameText (c : Card) : String :=
  c.fullName.getD ""

def fileAsText (c : Card) : String :=
  c.fileAs.getD ""

def nameOrEmpty (c : Card) : Name :=
  c.name.getD {}

def nameMatches (c : Card) (query : String) : Bool :=
  c.nameOrEmpty.matchesQuery query

def emailMatches (c : Card) (query : String) : Bool :=
  c.emails.any (Email.sameMailbox · query)

def setFullName (c : Card) (fullName : String) : Card :=
  { c with fullName := some fullName, name := some (Name.parse fullName) }

/-- Sets the structured name. A full name or file-as that is missing is made from it. -/
def setName (c : Card) (name : Name) : Card :=
  { c with
    name := some name
    fullName := some (c.fullName.getD name.display)
    fileAs := some (c.fileAs.getD name.fileAs) }

def withCategoryList (c : Card) : Card :=
  { c with categories := some (c.categories.getD []) }

def pushCategory (c : Card) (entry : String) : Card :=
  { c with categories := some (c.categories.getD [] ++ [entry]) }

def setCategories (c : Card) (text : String) : Card :=
  { c with categories := some (Category.addAll [] text) }

def categoriesText (c : Card) : Option String :=
  c.categories.map fun list => ", ".intercalate list

def freeEmptyLists (c : Card) : Card :=
  if c.categories = some [] then { c with categories := none } else c

def effectiveScore? (c : Card) (today : Date) : Option Score :=
  c.useScore.effective? c.lastUse today

def touch (c : Card) (today : Date) : Card :=
  { c with useScore := Score.afterUse (c.effectiveScore? today), lastUse := some today }

end Card

end CardFile
