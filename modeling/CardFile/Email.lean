import CardFile.Text.Ascii
import CardFile.Text.Blank

/-!
Whether two e-mail addresses name one mailbox. The local parts must be equal, and one domain may
be a subdomain of the other; the case of ASCII letters does not matter in either.
-/
namespace CardFile.Email

/-- The local part and the domain of an address, cut at its first `@`. -/
def split (address : List Char) : List Char × Option (List Char) :=
  match Text.cut '@' address with
  | some (localPart, domain) => (localPart, some domain)
  | none => (address, none)

def isSubdomain (domain parent : List Char) : Bool :=
  ('.' :: parent).isSuffixOf domain

def domainsMatch (a b : List Char) : Bool :=
  a == b || isSubdomain a b || isSubdomain b a

def sameMailbox (a b : String) : Bool :=
  let (localA, domainA) := split (a.toList.map Char.toLower)
  let (localB, domainB) := split (b.toList.map Char.toLower)
  localA == localB &&
    match domainA, domainB with
    | none, none => true
    | some domainA, some domainB => domainsMatch domainA domainB
    | _, _ => false

end CardFile.Email
