import CardFile.Card.Basic
import CardFile.Card.Field
import CardFile.Score.Decimal
import CardFile.Wire.Document

/-!
Reading cards. Each property of a record goes to the field of its name: a field that can repeat
collects them all, any other keeps the last. What the record leaves out of the name is then filled
in from the rest.
-/
namespace CardFile

def Property.textOrEmpty (p : Property) : String :=
  p.text?.getD ""

def Attribute.textOrEmpty (a : Attribute) : String :=
  a.text?.getD ""

def Property.componentText? (p : Property) (name : String) : Option String :=
  (p.attribute? name).map Attribute.textOrEmpty

def Name.ofProperty (p : Property) : Name where
  honorific := p.componentText? "PRE"
  given := p.componentText? "G"
  additional := p.componentText? "ADD"
  family := p.componentText? "F"
  suffix := p.componentText? "SUF"

def Address.ofProperty (p : Property) : Address where
  po := p.componentText? "PO"
  ext := p.componentText? "EXT"
  street := p.componentText? "STREET"
  city := p.componentText? "L"
  region := p.componentText? "R"
  code := p.componentText? "PC"
  country := p.componentText? "C"
  flags := .ofAttributes p.attributes

/-- An attribute gives the type of a value if it is called so, and otherwise its key. -/
def Arbitrary.takeAttribute (entry : Arbitrary) (a : Attribute) : Arbitrary :=
  if sameIgnoringCase a.name "TYPE" then { entry with valueType := some a.textOrEmpty }
  else { entry with key := some a.name }

def Arbitrary.ofProperty (p : Property) : Arbitrary :=
  { p.attributes.foldl takeAttribute {} with value := some p.textOrEmpty }

/-- `true` or `false` in any case; anything else is no answer. -/
def Property.truth? (p : Property) : Option Bool :=
  p.text?.bind fun text =>
    if sameIgnoringCase text "true" then some true
    else if sameIgnoringCase text "false" then some false
    else none

def Property.date? (p : Property) : Option Date :=
  p.text?.map Date.parse

namespace Card

/-- Puts a property into its field. Without a value, a date, a truth value or a category list
leaves the field as it is. -/
def put (c : Card) (field : Field) (p : Property) : Card :=
  match field with
  | .fullName => { c with fullName := some p.textOrEmpty }
  | .fileAs => { c with fileAs := some p.textOrEmpty }
  | .name => { c with name := some (.ofProperty p) }
  | .birthDate => { c with birthDate := p.date? <|> c.birthDate }
  | .email => { c with emails := c.emails ++ [p.textOrEmpty] }
  | .phone => { c with phones := c.phones ++ [⟨.ofAttributes p.attributes, p.textOrEmpty⟩] }
  | .address => { c with addresses := c.addresses ++ [.ofProperty p] }
  | .addressLabel =>
    { c with addressLabels := c.addressLabels ++ [⟨.ofAttributes p.attributes, p.textOrEmpty⟩] }
  | .url => { c with url := some p.textOrEmpty }
  | .org => { c with org := p.componentText? "ORGNAME", orgUnit := p.componentText? "OUN" }
  | .office => { c with office := some p.textOrEmpty }
  | .title => { c with title := some p.textOrEmpty }
  | .role => { c with role := some p.textOrEmpty }
  | .manager => { c with manager := some p.textOrEmpty }
  | .assistant => { c with assistant := some p.textOrEmpty }
  | .nickname => { c with nickname := some p.textOrEmpty }
  | .spouse => { c with spouse := some p.textOrEmpty }
  | .anniversary => { c with anniversary := p.date? <|> c.anniversary }
  | .mailer => { c with mailer := some p.textOrEmpty }
  | .freeBusyUrl => { c with freeBusyUrl := some p.textOrEmpty }
  | .note => { c with note := some p.textOrEmpty }
  | .relatedContacts => { c with relatedContacts := some p.textOrEmpty }
  | .categories =>
    match p.text? with
    | some text => { c with categories := some (Category.addAll (c.categories.getD []) text) }
    | none => c
  | .wantsHtml => { c with wantsHtml := p.truth? <|> c.wantsHtml }
  | .arbitrary => { c with arbitrary := c.arbitrary ++ [.ofProperty p] }
  | .id => { c with id := p.textOrEmpty }
  | .lastUse => { c with lastUse := p.date? <|> c.lastUse }
  | .useScore => { c with useScore := .ofText p.textOrEmpty }
  | .list => { c with isMailingList := p.truth?.getD c.isMailingList }
  | .listShowAddresses => { c with listShowAddresses := p.truth?.getD c.listShowAddresses }

def take (c : Card) (p : Property) : Card :=
  match Field.ofProperty? p.name with
  | some field => c.put field p
  | none => c

/-- Fills in the full name, the structured name and the file-as where they are missing. Only a
mailing list shows addresses. -/
def complete (parseName : String → Name) (c : Card) : Card :=
  let fullName := c.fullName.getD ""
  let name := c.name.getD (parseName fullName)
  { c with
    fullName := some fullName
    name := some name
    fileAs := some (c.fileAs.getD name.fileAs)
    listShowAddresses := c.listShowAddresses && c.isMailingList }

def ofRecordWith (parseName : String → Name) (r : Record) : Card :=
  (r.properties.foldl take {}).complete parseName

def ofRecord (r : Record) : Card :=
  ofRecordWith Name.parse r

def loadStrict (text : String) : Except Wire.Unclosed (List Card) :=
  (Wire.parse text).map fun records => records.map ofRecord

def load (text : String) : List Card :=
  match loadStrict text with
  | .ok cards => cards
  | .error _ => []

def blank : Card :=
  ofRecord ⟨Wire.vcard, []⟩

def first (text : String) : Card :=
  (load text).headD blank

inductive LoadFault
  | unreadable (e : Wire.Unclosed)
  | noCards

def LoadFault.message : LoadFault → String
  | unreadable e => "Parse error: " ++ e.report
  | noCards => "no vCard found in input"

def firstStrict (text : String) : Except LoadFault Card :=
  match loadStrict text with
  | .ok (c :: _) => .ok c
  | .ok [] => .error .noCards
  | .error e => .error (.unreadable e)

end Card

end CardFile
