import CardFile.Card.Decode

/-!
The order of properties. Each field of a card is read from the properties of its own name and from
nothing else, so properties that go to different fields may stand in any order, with any others
between them. What is filled in afterwards is filled in from the whole card.
-/
namespace CardFile.Card

def only (c : Card) : Field → Card
  | .fullName => { fullName := c.fullName }
  | .fileAs => { fileAs := c.fileAs }
  | .name => { name := c.name }
  | .birthDate => { birthDate := c.birthDate }
  | .email => { emails := c.emails }
  | .phone => { phones := c.phones }
  | .address => { addresses := c.addresses }
  | .addressLabel => { addressLabels := c.addressLabels }
  | .url => { url := c.url }
  | .org => { org := c.org, orgUnit := c.orgUnit }
  | .office => { office := c.office }
  | .title => { title := c.title }
  | .role => { role := c.role }
  | .manager => { manager := c.manager }
  | .assistant => { assistant := c.assistant }
  | .nickname => { nickname := c.nickname }
  | .spouse => { spouse := c.spouse }
  | .anniversary => { anniversary := c.anniversary }
  | .mailer => { mailer := c.mailer }
  | .freeBusyUrl => { freeBusyUrl := c.freeBusyUrl }
  | .note => { note := c.note }
  | .relatedContacts => { relatedContacts := c.relatedContacts }
  | .categories => { categories := c.categories }
  | .wantsHtml => { wantsHtml := c.wantsHtml }
  | .arbitrary => { arbitrary := c.arbitrary }
  | .id => { id := c.id }
  | .lastUse => { lastUse := c.lastUse }
  | .useScore => { useScore := c.useScore }
  | .list => { isMailingList := c.isMailingList }
  | .listShowAddresses => { listShowAddresses := c.listShowAddresses }

/-- Cards that agree in each field are the same. -/
theorem eq_of_only (c d : Card) (same : ∀ f, c.only f = d.only f) : c = d := by
  have part {α : Type} (f : Field) (read : Card → α) : read (c.only f) = read (d.only f) :=
    congrArg read (same f)
  rw [mk.injEq]
  exact ⟨part .id id, part .fileAs fileAs, part .fullName fullName, part .name name,
    part .address addresses, part .addressLabel addressLabels, part .phone phones,
    part .email emails, part .birthDate birthDate, part .url url, part .org org,
    part .org orgUnit, part .office office, part .title title, part .role role,
    part .manager manager, part .assistant assistant, part .nickname nickname,
    part .spouse spouse, part .anniversary anniversary, part .mailer mailer,
    part .freeBusyUrl freeBusyUrl, part .note note, part .relatedContacts relatedContacts,
    part .categories categories, part .arbitrary arbitrary, part .lastUse lastUse,
    part .useScore useScore, part .wantsHtml wantsHtml, part .list isMailingList,
    part .listShowAddresses listShowAddresses⟩

/-- A property acts on its field by what the field holds. -/
theorem only_put (c : Card) (f : Field) (p : Property) :
    (c.put f p).only f = (c.only f).put f p := by
  cases f with
  | categories =>
    rw [put, put]
    cases p.text? <;> rfl
  | _ => rfl

/-- A property leaves the other fields as they are. -/
theorem only_put_other (c : Card) (f g : Field) (p : Property) (apart : g ≠ f) :
    (c.put g p).only f = c.only f := by
  cases g with
  | categories =>
    rw [put]
    split
    · cases f <;> first | rfl | contradiction
    · rfl
  | _ => cases f <;> first | rfl | contradiction

/-- Each field is read from the properties of its name alone. -/
theorem only_foldl (c : Card) (ps : List Property) (f : Field) :
    (ps.foldl take c).only f =
      (ps.filter fun p => Field.ofProperty? p.name = some f).foldl take (c.only f) := by
  induction ps generalizing c with
  | nil => rfl
  | cons p ps ih =>
    rw [List.foldl_cons, ih]
    by_cases own : Field.ofProperty? p.name = some f
    · have taken : (c.take p).only f = (c.only f).take p := by
        rw [take, take, own]
        exact only_put c f p
      rw [List.filter_cons_of_pos (by simpa using own), List.foldl_cons, taken]
    · have kept : (c.take p).only f = c.only f := by
        rw [take]
        split
        · rename_i g found
          exact only_put_other c f g p fun equal => own (equal ▸ found)
        · rfl
      rw [List.filter_cons_of_neg (by simpa using own), kept]

/-- The card of a record does not depend on how the properties of different fields stand to each
other, nor on properties of no field: it is settled by the order that the properties of each field
have among themselves, however full names are split. -/
theorem ofRecordWith_reordered (parseName : String → Name) (r₁ r₂ : Record)
    (same : ∀ f, r₁.properties.filter (fun p => Field.ofProperty? p.name = some f) =
      r₂.properties.filter fun p => Field.ofProperty? p.name = some f) :
    ofRecordWith parseName r₁ = ofRecordWith parseName r₂ := by
  have fields : r₁.properties.foldl take {} = r₂.properties.foldl take {} :=
    eq_of_only _ _ fun f => by rw [only_foldl, only_foldl, same f]
  rw [ofRecordWith, ofRecordWith, fields]

def scattered : Record where
  name := Wire.vcard
  properties := [.ofText "CATEGORIES" "a,b", .ofText "X-EVOLUTION-LIST-SHOW_ADDRESSES" "TRUE",
    .ofText "TEL" "1", .ofText "X-UNKNOWN" "v", .ofText "CATEGORIES" "b,c", .ofText "FN" "Cher",
    .ofText "TEL" "2", .ofText "X-EVOLUTION-LIST" "TRUE"]

def gathered : Record where
  name := Wire.vcard
  properties := [.ofText "X-EVOLUTION-LIST" "TRUE", .ofText "FN" "Cher", .ofText "TEL" "1",
    .ofText "TEL" "2", .ofText "CATEGORIES" "a,b", .ofText "CATEGORIES" "b,c",
    .ofText "X-EVOLUTION-LIST-SHOW_ADDRESSES" "TRUE", .ofText "fn" "v"]

theorem ofRecordWith_reordered_scattered :
    (∀ f, scattered.properties.filter (fun p => Field.ofProperty? p.name = some f) =
      gathered.properties.filter fun p => Field.ofProperty? p.name = some f) ∧
    ofRecordWith (fun fullName => { family := some fullName }) scattered =
      ofRecordWith (fun fullName => { family := some fullName }) gathered := by
  have same : ∀ f, scattered.properties.filter (fun p => Field.ofProperty? p.name = some f) =
      gathered.properties.filter fun p => Field.ofProperty? p.name = some f := by
    intro f
    cases f <;> decide
  exact ⟨same, ofRecordWith_reordered _ scattered gathered same⟩

end CardFile.Card
