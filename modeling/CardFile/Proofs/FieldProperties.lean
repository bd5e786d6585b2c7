import CardFile.Proofs.Components
import CardFile.Proofs.FlagSet
import CardFile.Proofs.Property

/-!
The properties of a card, field by field. Every one of them can be written, as long as the keys of
the arbitrary entries can: a key is the name of a parameter, and stands on the line as it is.
-/
namespace CardFile

namespace Field

def writingOrder : List Field :=
  [fileAs, fullName, name, address, addressLabel, phone, email, birthDate, url, org, office, title,
    role, manager, assistant, nickname, spouse, anniversary, mailer, freeBusyUrl, note, lastUse,
    useScore, relatedContacts, categories, wantsHtml, list, listShowAddresses, arbitrary, id]

theorem property_isName (f : Field) : Wire.isName f.property.toList = true ∧
    f.property.toList.map Char.toUpper = f.property.toList ∧
    Wire.isBoundaryName f.property.toList = false := by
  cases f <;> decide

theorem ofProperty?_property (f : Field) : ofProperty? f.property = some f := by
  cases f <;> decide

end Field

namespace Card

def propertiesOf (c : Card) : Field → List Property
  | .fullName => textProperties .fullName c.fullName
  | .fileAs => textProperties .fileAs c.fileAs
  | .name => (c.name.map Name.toProperty).toList
  | .birthDate => dateProperties .birthDate c.birthDate
  | .email => c.emails.map emailProperty
  | .phone => c.phones.map Phone.toProperty
  | .address => c.addresses.map Address.toProperty
  | .addressLabel => c.addressLabels.map AddressLabel.toProperty
  | .url => textProperties .url c.url
  | .org => orgProperties c.org c.orgUnit
  | .office => textProperties .office c.office
  | .title => textProperties .title c.title
  | .role => textProperties .role c.role
  | .manager => textProperties .manager c.manager
  | .assistant => textProperties .assistant c.assistant
  | .nickname => textProperties .nickname c.nickname
  | .spouse => textProperties .spouse c.spouse
  | .anniversary => dateProperties .anniversary c.anniversary
  | .mailer => textProperties .mailer c.mailer
  | .freeBusyUrl => textProperties .freeBusyUrl c.freeBusyUrl
  | .note => textProperties .note c.note
  | .relatedContacts => textProperties .relatedContacts c.relatedContacts
  | .categories => textProperties .categories (c.categories.map Category.join)
  | .wantsHtml => textProperties .wantsHtml (c.wantsHtml.map truthText)
  | .arbitrary => c.arbitrary.map Arbitrary.toProperty
  | .id => [.ofText Field.id.property c.id]
  | .lastUse => dateProperties .lastUse c.lastUse
  | .useScore => scoreProperties c.useScore
  | .list => if c.isMailingList then [.ofText Field.list.property (truthText true)] else []
  | .listShowAddresses =>
    if c.isMailingList then
      [.ofText Field.listShowAddresses.property (truthText c.listShowAddresses)]
    else []

theorem properties_eq (c : Card) : c.properties = Field.writingOrder.flatMap c.propertiesOf := by
  have list : listProperties c.isMailingList c.listShowAddresses =
      c.propertiesOf .list ++ c.propertiesOf .listShowAddresses := by
    rw [listProperties, propertiesOf, propertiesOf]
    split <;> rfl
  unfold properties
  simp only [list, Field.writingOrder, List.flatMap_cons, List.flatMap_nil, List.append_nil,
    List.append_assoc]
  rfl

end Card

structure Attribute.IsFlag (a : Attribute) : Prop where
  marker : a.value = none
  named : Wire.isName a.name.toList = true
  plain : Wire.Transfer.ofLabel a.name = .identity

namespace Card

/-- The shapes of a card's properties: a text with flags, components with flags, or an arbitrary
entry. -/
inductive Shape (c : Card) (f : Field) : Property → Prop
  | text (s : String) (flags : List Attribute) (flat : Wire.schema? f.property = none)
    (named : ∀ a ∈ flags, a.IsFlag) :
    Shape c f { Property.ofText f.property s with attributes := flags }
  | components (flags : List Attribute) (parts : List (String × Option String))
    (schema : Wire.schema? f.property = some (parts.map Prod.fst))
    (named : ∀ a ∈ flags, a.IsFlag) (apart : ∀ a ∈ flags, a.name ∉ parts.map Prod.fst) :
    Shape c f { name := f.property, attributes := flags ++ componentAttributes parts }
  | arbitrary (a : Arbitrary) (member : a ∈ c.arbitrary) (field : f = .arbitrary) :
    Shape c f a.toProperty

private theorem toMarkers_name {table : FlagTable} (flags : FlagSet table) (a : Attribute)
    (member : a ∈ flags.toMarkers) : ∃ name ∈ table.names, .marker name = a := by
  obtain ⟨name, bit, entry, -, marker⟩ := (FlagSet.mem_toMarkers flags a).mp member
  exact ⟨name, List.fst_mem_of_mem_zipIdx entry, marker⟩

private theorem isFlag_toMarkers {table : FlagTable} (flags : FlagSet table)
    (names : ∀ name ∈ table.names, Wire.isName name.toList = true ∧
      Wire.Transfer.ofLabel name = .identity) : ∀ a ∈ flags.toMarkers, a.IsFlag := by
  intro a member
  obtain ⟨name, present, rfl⟩ := toMarkers_name flags a member
  exact ⟨rfl, (names name present).1, (names name present).2⟩

private theorem isFlag_phone (flags : PhoneFlags) : ∀ a ∈ flags.toMarkers, a.IsFlag :=
  isFlag_toMarkers flags (by decide)

theorem isFlag_address (flags : AddressFlags) : ∀ a ∈ flags.toMarkers, a.IsFlag :=
  isFlag_toMarkers flags (by decide)

private theorem isFlag_internet : (Attribute.marker "INTERNET").IsFlag :=
  ⟨rfl, by decide, by decide⟩

private theorem shape_name (c : Card) (n : Name) : Shape c .name n.toProperty :=
  .components [] n.parts rfl (by simp) (by simp)

private theorem shape_address (c : Card) (a : Address) : Shape c .address a.toProperty :=
  .components a.flags.toMarkers a.parts rfl (isFlag_address a.flags) a.flags_apart

private theorem shape_org (c : Card) :
    ∀ p ∈ orgProperties c.org c.orgUnit, Shape c .org p := by
  intro p member
  rw [orgProperties] at member
  split at member
  · obtain rfl := List.mem_singleton.mp member
    exact .components [] [("ORGNAME", c.org), ("OUN", c.orgUnit)] rfl (by simp) (by simp)
  · simp at member

private theorem shape_text (c : Card) (f : Field) (text? : Option String)
    (flat : Wire.schema? f.property = none) : ∀ p ∈ textProperties f text?, Shape c f p := by
  intro p member
  cases text? with
  | none => simp [textProperties] at member
  | some s =>
    obtain rfl : p = .ofText f.property s := by simpa [textProperties] using member
    exact .text s [] flat (by simp)

private theorem shape_optional (c : Card) (f : Field) (flat : Wire.schema? f.property = none)
    (condition : Bool) (s : String) :
    ∀ p ∈ if condition then [Property.ofText f.property s] else [], Shape c f p := by
  intro p member
  split at member
  · obtain rfl := List.mem_singleton.mp member
    exact .text s [] flat (by simp)
  · simp at member

theorem shape_propertiesOf (c : Card) (f : Field) : ∀ p ∈ c.propertiesOf f, Shape c f p := by
  intro p member
  cases f with
  | name =>
    obtain ⟨n, -, rfl⟩ : ∃ n, c.name = some n ∧ n.toProperty = p := by
      simpa [propertiesOf] using member
    exact shape_name c n
  | address =>
    obtain ⟨a, -, rfl⟩ := List.mem_map.mp member
    exact shape_address c a
  | addressLabel =>
    obtain ⟨l, -, rfl⟩ := List.mem_map.mp member
    exact .text l.text l.flags.toMarkers rfl (isFlag_address l.flags)
  | phone =>
    obtain ⟨n, -, rfl⟩ := List.mem_map.mp member
    exact .text n.number n.flags.toMarkers rfl (isFlag_phone n.flags)
  | email =>
    obtain ⟨address, -, rfl⟩ := List.mem_map.mp member
    exact .text address _ rfl (by simpa using isFlag_internet)
  | org => exact shape_org c p member
  | useScore =>
    rw [propertiesOf, scoreProperties] at member
    split at member
    · simp at member
    · obtain rfl := List.mem_singleton.mp member
      exact .text c.useScore.toText [] rfl (by simp)
  | list => exact shape_optional c .list rfl _ _ p member
  | listShowAddresses => exact shape_optional c .listShowAddresses rfl _ _ p member
  | arbitrary =>
    obtain ⟨a, present, rfl⟩ := List.mem_map.mp member
    exact .arbitrary a present rfl
  | id =>
    obtain rfl := List.mem_singleton.mp member
    exact .text c.id [] rfl (by simp)
  | _ => exact shape_text c _ _ (by decide) p member

end Card

theorem Attribute.IsFlag.writable {a : Attribute} (flag : a.IsFlag) : a.Writable where
  name := Wire.isName_writable _ flag.named
  ordinary := by
    have unvalued : a.toParameter.value = none := by
      simp [Attribute.toParameter, Attribute.text?, flag.marker]
    exact ⟨fun _ => flag.plain, fun valued => absurd unvalued valued⟩

namespace Arbitrary

/-- An entry whose key, if it has one, can be written as the name of a parameter. -/
def Keyed (a : Arbitrary) : Prop :=
  ∀ key ∈ a.key, (Attribute.marker key).Writable

private theorem writable_attributes (a : Arbitrary) (keyed : a.Keyed) :
    ∀ b ∈ a.toProperty.attributes, b.Writable := by
  intro b member
  rcases List.mem_append.mp member with type | key
  · obtain ⟨text, -, rfl⟩ : ∃ text, a.valueType = some text ∧ Attribute.ofText "TYPE" text = b := by
      simpa using type
    have type : Wire.isName "TYPE".toList = true := by decide
    have ordinary : sameIgnoringCase "TYPE" "ENCODING" = false ∧
        sameIgnoringCase "TYPE" "CHARSET" = false := by decide
    exact ⟨Wire.isName_writable _ type, fun unvalued => (Option.some_ne_none _ unvalued).elim,
      fun _ => ordinary⟩
  · obtain ⟨name, present, rfl⟩ : ∃ name, a.key = some name ∧ Attribute.marker name = b := by
      simpa using key
    exact keyed name present

end Arbitrary

namespace Card

variable {c : Card} {f : Field} {p : Property}

theorem Shape.name (shape : Shape c f p) : p.name = f.property := by
  cases shape with
  | text => rfl
  | components => rfl
  | arbitrary _ _ field =>
    subst field
    rfl

theorem Shape.named (shape : Shape c f p) : Wire.Property.Named p := by
  obtain ⟨named, capitals, inside⟩ := f.property_isName
  rw [← shape.name] at named capitals inside
  refine ⟨⟨?_, named, capitals, ?_⟩, inside⟩
  · cases shape <;> simp [Property.ofText, Arbitrary.toProperty]
  · cases shape <;> simp [Property.ofText, Arbitrary.toProperty, Wire.Sendable]

/-- The properties of a card can be written if its keys can. -/
theorem Shape.writable (shape : Shape c f p) (keyed : ∀ a ∈ c.arbitrary, a.Keyed) :
    Wire.Property.Writable p := by
  refine ⟨shape.named, ?_, ?_⟩
  · intro a member
    obtain ⟨present, apart⟩ := List.mem_filter.mp member
    cases shape with
    | text s flags _ named => exact (named a present).writable
    | components flags parts schema named =>
      rcases List.mem_append.mp present with flag | part
      · exact (named a flag).writable
      · apply absurd (componentAttributes_name parts a part)
        intro own
        simp [Wire.Property.components, schema, own] at apart
    | arbitrary entry stored => exact entry.writable_attributes (keyed entry stored) a present
  · rw [shape.name]
    cases shape with
    | text _ _ flat => exact fun structured => absurd flat structured
    | components => exact fun _ => rfl
    | arbitrary _ _ field =>
      subst field
      exact fun structured => absurd rfl structured

end Card

end CardFile
