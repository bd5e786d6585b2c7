import CardFile.FlagSet
import CardFile.Text.Join

/-!
Postal addresses in components, and the free-text labels that stand for them.
-/
namespace CardFile

structure Address where
  po : Option String := none
  ext : Option String := none
  street : Option String := none
  city : Option String := none
  region : Option String := none
  code : Option String := none
  country : Option String := none
  flags : AddressFlags := .empty
  deriving DecidableEq

structure AddressLabel where
  flags : AddressFlags
  text : String
  deriving DecidableEq

namespace Address

def isEmpty (a : Address) : Bool :=
  [a.po, a.ext, a.street, a.city, a.region, a.code, a.country].all fun c => (filled c).isNone

/-- The address in up to four lines: box and street, extension, locality, country. What is empty
leaves no trace. -/
def display (a : Address) : String :=
  joinFilled "\n" [
    some (joinFilled " " [a.po, a.street]),
    a.ext,
    some (joinFilled ", " [a.city, some (joinFilled " " [a.region, a.code])]),
    a.country]

def toLabel (a : Address) : AddressLabel :=
  ⟨a.flags, a.display⟩

end Address

end CardFile
