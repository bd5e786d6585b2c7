import CardFile.Proofs.Category
import CardFile.Proofs.Components
import CardFile.Proofs.Date
import CardFile.Proofs.FieldProperties

/-!
The card that its own properties give back. Each field is read from the properties that it is
written as, so the card is settled field by field: dates come back in range, flags without the bits
that have no name, and categories trimmed and without repetition.
-/
namespace CardFile

def AddressLabel.known (l : AddressLabel) : AddressLabel :=
  { l with flags := l.flags.known }

def Phone.known (p : Phone) : Phone :=
  { p with flags := p.flags.known }

def Score.recovered (s : Score) : Score :=
  if s = .zero then .zero else .ofText s.toText

namespace Arbitrary

/-- An entry as it is read from the property that it is written as. A key that passes for a type
replaces the type. -/
def recovered (a : Arbitrary) : Arbitrary where
  key := a.key.filter fun key => !sameIgnoringCase key "TYPE"
  valueType := if a.key.any (sameIgnoringCase · "TYPE") then some "" else a.valueType
  value := some (a.value.getD "")

private theorem takeAttribute_type (entry : Arbitrary) (s : String) :
    entry.takeAttribute (.ofText "TYPE" s) = { entry with valueType := some s } := by
  have type : sameIgnoringCase "TYPE" "TYPE" = true := by decide
  exact if_pos type

private theorem takeAttribute_marker (entry : Arbitrary) (key : String) :
    entry.takeAttribute (.marker key) = if sameIgnoringCase key "TYPE" then
      { entry with valueType := some "" } else { entry with key := some key } :=
  rfl

theorem ofProperty_toProperty (a : Arbitrary) : ofProperty a.toProperty = a.recovered := by
  have text : a.toProperty.textOrEmpty = a.value.getD "" := by
    cases value : a.value <;>
      simp [toProperty, Property.textOrEmpty, Property.text?, value, Value.toText]
  rw [ofProperty, text, recovered, toProperty]
  cases a.valueType with
  | none =>
    cases a.key with
    | none => rfl
    | some key => cases passes : sameIgnoringCase key "TYPE" <;>
        simp [takeAttribute_marker, Option.filter, passes]
  | some type =>
    cases a.key with
    | none => simp [takeAttribute_type]
    | some key => cases passes : sameIgnoringCase key "TYPE" <;>
        simp [takeAttribute_type, takeAttribute_marker, Option.filter, passes]

end Arbitrary

namespace Card

/-- A card into which a field of another card has been read from its properties. -/
def restore (c d : Card) : Field → Card
  | .fullName => { d with fullName := c.fullName <|> d.fullName }
  | .fileAs => { d with fileAs := c.fileAs <|> d.fileAs }
  | .name => { d with name := c.name <|> d.name }
  | .birthDate => { d with birthDate := c.birthDate.map Date.clamp <|> d.birthDate }
  | .email => { d with emails := d.emails ++ c.emails }
  | .phone => { d with phones := d.phones ++ c.phones.map Phone.known }
  | .address => { d with addresses := d.addresses ++ c.addresses.map Address.known }
  | .addressLabel =>
    { d with addressLabels := d.addressLabels ++ c.addressLabels.map AddressLabel.known }
  | .url => { d with url := c.url <|> d.url }
  | .org =>
    { d with
      org := if c.org.isSome || c.orgUnit.isSome then c.org else d.org
      orgUnit := if c.org.isSome || c.orgUnit.isSome then c.orgUnit else d.orgUnit }
  | .office => { d with office := c.office <|> d.office }
  | .title => { d with title := c.title <|> d.title }
  | .role => { d with role := c.role <|> d.role }
  | .manager => { d with manager := c.manager <|> d.manager }
  | .assistant => { d with assistant := c.assistant <|> d.assistant }
  | .nickname => { d with nickname := c.nickname <|> d.nickname }
  | .spouse => { d with spouse := c.spouse <|> d.spouse }
  | .anniversary => { d with anniversary := c.anniversary.map Date.clamp <|> d.anniversary }
  | .mailer => { d with mailer := c.mailer <|> d.mailer }
  | .freeBusyUrl => { d with freeBusyUrl := c.freeBusyUrl <|> d.freeBusyUrl }
  | .note => { d with note := c.note <|> d.note }
  | .relatedContacts => { d with relatedContacts := c.relatedContacts <|> d.relatedContacts }
  | .categories =>
    { d with
      categories :=
        (c.categories.map fun list => list.foldl Category.add (d.categories.getD [])) <|>
          d.categories }
  | .wantsHtml => { d with wantsHtml := c.wantsHtml <|> d.wantsHtml }
  | .arbitrary => { d with arbitrary := d.arbitrary ++ c.arbitrary.map Arbitrary.recovered }
  | .id => { d with id := c.id }
  | .lastUse => { d with lastUse := c.lastUse.map Date.clamp <|> d.lastUse }
  | .useScore =>
    { d with useScore := if c.useScore = .zero then d.useScore else c.useScore.recovered }
  | .list => { d with isMailingList := c.isMailingList || d.isMailingList }
  | .listShowAddresses =>
    { d with
      listShowAddresses := if c.isMailingList then c.listShowAddresses else d.listShowAddresses }

theorem take_put (d : Card) (f : Field) (p : Property) (name : p.name = f.property) :
    d.take p = d.put f p := by
  rw [take, name, f.ofProperty?_property]

private theorem textOrEmpty_ofText (name text : String) :
    (Property.ofText name text).textOrEmpty = text :=
  rfl

private theorem foldl_text (d : Card) (f : Field) (text? : Option String) :
    (textProperties f text?).foldl take d =
      match text? with
      | some s => d.put f (.ofText f.property s)
      | none => d := by
  cases text? with
  | none => rfl
  | some s => exact take_put d f _ rfl

private theorem foldl_date (d : Card) (f : Field) (date? : Option Date) :
    (dateProperties f date?).foldl take d =
      match date? with
      | some date => d.put f (.ofText f.property date.toText)
      | none => d := by
  rw [dateProperties, foldl_text]
  cases date? <;> rfl

private theorem date?_toText (name : String) (date : Date) :
    (Property.ofText name date.toText).date? = some date.clamp := by
  rw [← Date.parse_toText]
  rfl

private theorem truth?_truthText (name : String) (b : Bool) :
    (Property.ofText name (truthText b)).truth? = some b := by
  cases b <;> rfl

/-- A list of entries is read back if each entry is, `add` being how a list of them is added. -/
theorem foldl_entries {α β : Type} (toProperty : α → Property) (read : α → β)
    (add : Card → List β → Card) (entries : List α) (d : Card)
    (one : ∀ d entry, take d (toProperty entry) = add d [read entry])
    (none : ∀ d, add d [] = d) (more : ∀ d xs ys, add (add d xs) ys = add d (xs ++ ys)) :
    (entries.map toProperty).foldl take d = add d (entries.map read) := by
  induction entries generalizing d with
  | nil => rw [List.map_nil, List.map_nil, none, List.foldl_nil]
  | cons entry entries ih =>
    rw [List.map_cons, List.foldl_cons, one, ih, more]
    rfl

private theorem ofAttributes_markers {table : FlagTable} (distinct : table.Distinct)
    (f : FlagSet table) : FlagSet.ofAttributes f.toMarkers = f.known := by
  have := FlagSet.ofAttributes_toMarkers distinct f [] (by simp)
  rwa [List.append_nil] at this

private theorem foldl_phones (phones : List Phone) (d : Card) :
    (phones.map Phone.toProperty).foldl take d =
      { d with phones := d.phones ++ phones.map Phone.known } := by
  refine foldl_entries Phone.toProperty Phone.known
    (fun d xs => { d with phones := d.phones ++ xs }) phones d ?_ (by simp) (by simp)
  intro d phone
  have flags : FlagSet.ofAttributes phone.toProperty.attributes = phone.flags.known :=
    ofAttributes_markers phoneTable_distinct phone.flags
  rw [take_put d .phone _ rfl, put, flags]
  rfl

private theorem foldl_labels (labels : List AddressLabel) (d : Card) :
    (labels.map AddressLabel.toProperty).foldl take d =
      { d with addressLabels := d.addressLabels ++ labels.map AddressLabel.known } := by
  refine foldl_entries AddressLabel.toProperty AddressLabel.known
    (fun d xs => { d with addressLabels := d.addressLabels ++ xs }) labels d ?_ (by simp) (by simp)
  intro d label
  have flags : FlagSet.ofAttributes label.toProperty.attributes = label.flags.known :=
    ofAttributes_markers addressTable_distinct label.flags
  rw [take_put d .addressLabel _ rfl, put, flags]
  rfl

private theorem foldl_addresses (addresses : List Address) (d : Card) :
    (addresses.map Address.toProperty).foldl take d =
      { d with addresses := d.addresses ++ addresses.map Address.known } := by
  refine foldl_entries Address.toProperty Address.known
    (fun d xs => { d with addresses := d.addresses ++ xs }) addresses d ?_ (by simp) (by simp)
  intro d address
  rw [take_put d .address _ rfl, put, address.ofProperty_toProperty]

private theorem foldl_emails (emails : List String) (d : Card) :
    (emails.map emailProperty).foldl take d = { d with emails := d.emails ++ emails } := by
  have read := foldl_entries emailProperty (fun email => email)
    (fun d xs => { d with emails := d.emails ++ xs }) emails d
    (fun d email => take_put d .email (emailProperty email) rfl) (by simp) (by simp)
  rwa [List.map_id'] at read

private theorem foldl_arbitrary (entries : List Arbitrary) (d : Card) :
    (entries.map Arbitrary.toProperty).foldl take d =
      { d with arbitrary := d.arbitrary ++ entries.map Arbitrary.recovered } := by
  refine foldl_entries Arbitrary.toProperty Arbitrary.recovered
    (fun d xs => { d with arbitrary := d.arbitrary ++ xs }) entries d ?_ (by simp) (by simp)
  intro d entry
  rw [take_put d .arbitrary _ rfl, put, entry.ofProperty_toProperty]

def orgProperty (org orgUnit : Option String) : Property where
  name := Field.org.property
  attributes := componentAttributes [("ORGNAME", org), ("OUN", orgUnit)]

theorem take_orgProperty (d : Card) (org orgUnit : Option String) :
    d.take (orgProperty org orgUnit) = { d with org, orgUnit } := by
  have part := componentText?_part (orgProperty org orgUnit) [] [("ORGNAME", org), ("OUN", orgUnit)]
    rfl (by simp) (by simp)
  rw [take_put d .org _ rfl, put, part "ORGNAME" org (by simp), part "OUN" orgUnit (by simp)]

theorem orgProperties_eq (org orgUnit : Option String) : orgProperties org orgUnit =
    if org.isSome || orgUnit.isSome then [orgProperty org orgUnit] else [] :=
  rfl

private theorem foldl_org (org orgUnit : Option String) (d : Card) :
    (orgProperties org orgUnit).foldl take d =
      { d with
        org := if org.isSome || orgUnit.isSome then org else d.org
        orgUnit := if org.isSome || orgUnit.isSome then orgUnit else d.orgUnit } := by
  rw [orgProperties_eq]
  split
  · rw [List.foldl_cons, List.foldl_nil, take_orgProperty]
  · rfl

private theorem foldl_name (name? : Option Name) (d : Card) :
    (name?.map Name.toProperty).toList.foldl take d = { d with name := name? <|> d.name } := by
  cases name? with
  | none => rfl
  | some n =>
    rw [Option.map_some, Option.toList_some, List.foldl_cons, List.foldl_nil,
      take_put d .name _ rfl, put, n.ofProperty_toProperty]
    rfl

private theorem foldl_score (s : Score) (d : Card) : (scoreProperties s).foldl take d =
    { d with useScore := if s = .zero then d.useScore else s.recovered } := by
  by_cases zero : s = .zero
  · rw [scoreProperties, if_pos zero, if_pos zero]
    rfl
  · have recovered : s.recovered = .ofText s.toText := if_neg zero
    rw [scoreProperties, if_neg zero, if_neg zero, List.foldl_cons, List.foldl_nil,
      take_put d .useScore _ rfl, put, textOrEmpty_ofText, recovered]

private theorem foldl_condition (f : Field) (condition : Bool) (s : String) (d : Card) :
    (if condition then [Property.ofText f.property s] else []).foldl take d =
      if condition then d.put f (.ofText f.property s) else d := by
  cases condition with
  | true => exact take_put d f _ rfl
  | false => rfl

private theorem foldl_categories (list? : Option (List String)) (d : Card) :
    (textProperties .categories (list?.map Category.join)).foldl take d =
      { d with
        categories := (list?.map fun list => list.foldl Category.add (d.categories.getD [])) <|>
          d.categories } := by
  rw [foldl_text]
  cases list? with
  | none => rfl
  | some list =>
    have text : (Property.ofText Field.categories.property (Category.join list)).text? =
      some (Category.join list) := rfl
    simp [put, text, Category.addAll_join]

/-- Each field is read back from the properties that it is written as. -/
theorem foldl_propertiesOf (c d : Card) (f : Field) :
    (c.propertiesOf f).foldl take d = c.restore d f := by
  cases f with
  | name => exact foldl_name c.name d
  | address => exact foldl_addresses c.addresses d
  | addressLabel => exact foldl_labels c.addressLabels d
  | phone => exact foldl_phones c.phones d
  | email => exact foldl_emails c.emails d
  | org => exact foldl_org c.org c.orgUnit d
  | arbitrary => exact foldl_arbitrary c.arbitrary d
  | id => exact take_put d .id (.ofText Field.id.property c.id) rfl
  | useScore => exact foldl_score c.useScore d
  | categories => exact foldl_categories c.categories d
  | list =>
    rw [propertiesOf, foldl_condition, restore, put, truth?_truthText]
    cases c.isMailingList <;> rfl
  | listShowAddresses =>
    rw [propertiesOf, foldl_condition, restore, put, truth?_truthText]
    cases c.isMailingList <;> rfl
  | wantsHtml =>
    rw [propertiesOf, foldl_text, restore]
    cases c.wantsHtml <;> simp [put, truth?_truthText]
  | birthDate =>
    rw [propertiesOf, foldl_date, restore]
    cases c.birthDate <;> simp [put, date?_toText]
  | anniversary =>
    rw [propertiesOf, foldl_date, restore]
    cases c.anniversary <;> simp [put, date?_toText]
  | lastUse =>
    rw [propertiesOf, foldl_date, restore]
    cases c.lastUse <;> simp [put, date?_toText]
  | _ =>
    rw [propertiesOf, foldl_text, restore]
    split
    · rename_i s present
      simp [put, present]
      rfl
    · rename_i absent
      simp [absent]

/-- What a card's own properties give back of it. -/
def recovered (c : Card) : Card :=
  { c with
    addresses := c.addresses.map Address.known
    addressLabels := c.addressLabels.map AddressLabel.known
    phones := c.phones.map Phone.known
    birthDate := c.birthDate.map Date.clamp
    anniversary := c.anniversary.map Date.clamp
    categories := c.categories.map fun list => list.foldl Category.add []
    arbitrary := c.arbitrary.map Arbitrary.recovered
    lastUse := c.lastUse.map Date.clamp
    useScore := c.useScore.recovered
    listShowAddresses := c.listShowAddresses && c.isMailingList }

theorem foldl_properties (c : Card) : c.properties.foldl take {} = c.recovered := by
  rw [properties_eq, List.foldl_flatMap]
  simp only [foldl_propertiesOf]
  simp only [Field.writingOrder, List.foldl_cons, List.foldl_nil, restore, recovered]
  have useScore : (if c.useScore = .zero then .zero else c.useScore.recovered) =
      c.useScore.recovered := by
    rw [Score.recovered]
    split <;> rfl
  have shown : (if c.isMailingList then c.listShowAddresses else false) =
      (c.listShowAddresses && c.isMailingList) := by
    cases c.isMailingList <;> simp
  simp [useScore, shown]
  exact ⟨fun org _ => org.symm, fun _ orgUnit => orgUnit.symm⟩

theorem duplicate_eq (c : Card) : c.duplicate = c.recovered.complete Name.parse :=
  congrArg (complete Name.parse) c.foldl_properties

end Card

end CardFile
