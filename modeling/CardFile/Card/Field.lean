/-!
The fields of a card that have a property of their own, and the names of those properties.
-/
namespace CardFile

inductive Field
  | fullName
  | fileAs
  | name
  | birthDate
  | email
  | phone
  | address
  | addressLabel
  | url
  | org
  | office
  | title
  | role
  | manager
  | assistant
  | nickname
  | spouse
  | anniversary
  | mailer
  | freeBusyUrl
  | note
  | relatedContacts
  | categories
  | wantsHtml
  | arbitrary
  | id
  | lastUse
  | useScore
  | list
  | listShowAddresses
  deriving DecidableEq

namespace Field

def property : Field → String
  | fullName => "FN"
  | fileAs => "X-EVOLUTION-FILE-AS"
  | name => "N"
  | birthDate => "BDAY"
  | email => "EMAIL"
  | phone => "TEL"
  | address => "ADR"
  | addressLabel => "LABEL"
  | url => "URL"
  | org => "ORG"
  | office => "X-EVOLUTION-OFFICE"
  | title => "TITLE"
  | role => "ROLE"
  | manager => "X-EVOLUTION-MANAGER"
  | assistant => "X-EVOLUTION-ASSISTANT"
  | nickname => "NICKNAME"
  | spouse => "X-EVOLUTION-SPOUSE"
  | anniversary => "X-EVOLUTION-ANNIVERSARY"
  | mailer => "MAILER"
  | freeBusyUrl => "FBURL"
  | note => "NOTE"
  | relatedContacts => "X-EVOLUTION-RELATED_CONTACTS"
  | categories => "CATEGORIES"
  | wantsHtml => "X-MOZILLA-HTML"
  | arbitrary => "X-EVOLUTION-ARBITRARY"
  | id => "UID"
  | lastUse => "X-EVOLUTION-LAST-USE"
  | useScore => "X-EVOLUTION-USE-SCORE"
  | list => "X-EVOLUTION-LIST"
  | listShowAddresses => "X-EVOLUTION-LIST-SHOW_ADDRESSES"

def all : List Field :=
  [fullName, fileAs, name, birthDate, email, phone, address, addressLabel, url, org, office, title,
    role, manager, assistant, nickname, spouse, anniversary, mailer, freeBusyUrl, note,
    relatedContacts, categories, wantsHtml, arbitrary, id, lastUse, useScore, list,
    listShowAddresses]

/-- The field of a property; the case of the name is significant. -/
def ofProperty? (propertyName : String) : Option Field :=
  all.find? fun f => f.property == propertyName

end Field

end CardFile
