import CardFile.Card.Decode
import CardFile.Score.Text
import CardFile.Wire.Writer

/-!
Writing cards. The properties of a card come in a fixed order, so that a card is always written in
the same way. Text that is present is written even if it is empty; what is absent is not.
-/
namespace CardFile

def componentAttributes (components : List (String × Option String)) : List Attribute :=
  components.filterMap fun (name, text?) => text?.map (Attribute.ofText name)

def Name.toProperty (n : Name) : Property where
  name := Field.name.property
  attributes := componentAttributes [("F", n.family), ("G", n.given), ("ADD", n.additional),
    ("PRE", n.honorific), ("SUF", n.suffix)]

def Address.toProperty (a : Address) : Property where
  name := Field.address.property
  attributes := a.flags.toMarkers ++ componentAttributes [("PO", a.po), ("EXT", a.ext),
    ("STREET", a.street), ("L", a.city), ("R", a.region), ("PC", a.code), ("C", a.country)]

def AddressLabel.toProperty (l : AddressLabel) : Property :=
  { Property.ofText Field.addressLabel.property l.text with attributes := l.flags.toMarkers }

def Phone.toProperty (p : Phone) : Property :=
  { Property.ofText Field.phone.property p.number with attributes := p.flags.toMarkers }

def Arbitrary.toProperty (a : Arbitrary) : Property where
  name := Field.arbitrary.property
  value := a.value.map .text
  attributes := (a.valueType.map (Attribute.ofText "TYPE")).toList ++
    (a.key.map Attribute.marker).toList

namespace Card

def emailProperty (address : String) : Property :=
  { Property.ofText Field.email.property address with attributes := [.marker "INTERNET"] }

def orgProperties (org orgUnit : Option String) : List Property :=
  if org.isSome || orgUnit.isSome then
    [{ name := Field.org.property
       attributes := componentAttributes [("ORGNAME", org), ("OUN", orgUnit)] }]
  else []

def textProperties (field : Field) (text? : Option String) : List Property :=
  (text?.map (Property.ofText field.property)).toList

def dateProperties (field : Field) (date? : Option Date) : List Property :=
  textProperties field (date?.map Date.toText)

def truthText (b : Bool) : String :=
  if b then "TRUE" else "FALSE"

def scoreProperties (s : Score) : List Property :=
  if s = .zero then [] else [.ofText Field.useScore.property s.toText]

def listProperties (isMailingList showAddresses : Bool) : List Property :=
  if isMailingList then
    [.ofText Field.list.property (truthText true),
      .ofText Field.listShowAddresses.property (truthText showAddresses)]
  else []

def properties (c : Card) : List Property :=
  textProperties .fileAs c.fileAs ++
  textProperties .fullName c.fullName ++
  (c.name.map Name.toProperty).toList ++
  c.addresses.map Address.toProperty ++
  c.addressLabels.map AddressLabel.toProperty ++
  c.phones.map Phone.toProperty ++
  c.emails.map emailProperty ++
  dateProperties .birthDate c.birthDate ++
  textProperties .url c.url ++
  orgProperties c.org c.orgUnit ++
  textProperties .office c.office ++
  textProperties .title c.title ++
  textProperties .role c.role ++
  textProperties .manager c.manager ++
  textProperties .assistant c.assistant ++
  textProperties .nickname c.nickname ++
  textProperties .spouse c.spouse ++
  dateProperties .anniversary c.anniversary ++
  textProperties .mailer c.mailer ++
  textProperties .freeBusyUrl c.freeBusyUrl ++
  textProperties .note c.note ++
  dateProperties .lastUse c.lastUse ++
  scoreProperties c.useScore ++
  textProperties .relatedContacts c.relatedContacts ++
  textProperties .categories (c.categories.map Category.join) ++
  textProperties .wantsHtml (c.wantsHtml.map truthText) ++
  listProperties c.isMailingList c.listShowAddresses ++
  c.arbitrary.map Arbitrary.toProperty ++
  [.ofText Field.id.property c.id]

def toRecord (c : Card) : Record :=
  ⟨Wire.vcard, c.properties⟩

def renderAll (cards : List Card) : String :=
  Wire.render (cards.map toRecord)

def render (c : Card) : String :=
  renderAll [c]

/-- The card that comes of writing a card into a record and reading it again. -/
def duplicate (c : Card) : Card :=
  ofRecord c.toRecord

end Card

end CardFile
