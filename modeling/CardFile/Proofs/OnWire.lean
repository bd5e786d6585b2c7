import CardFile.Proofs.PlainText
import CardFile.Proofs.Recovered
import CardFile.Proofs.Words

/-!
Cards through text. Between a card and its lines nothing is lost but what a line cannot hold: empty
components, which are written as missing ones are, and the control characters in the type of an
arbitrary entry.
-/
namespace CardFile

def Name.onWire (n : Name) : Name where
  honorific := filled n.honorific
  given := filled n.given
  additional := filled n.additional
  family := filled n.family
  suffix := filled n.suffix

def Address.onWire (a : Address) : Address where
  po := filled a.po
  ext := filled a.ext
  street := filled a.street
  city := filled a.city
  region := filled a.region
  code := filled a.code
  country := filled a.country
  flags := a.flags

def Arbitrary.onWire (a : Arbitrary) : Arbitrary :=
  { a with valueType := a.valueType.map fun s => String.ofList (Wire.keptValue s.toList) }

/-- A card as its lines hold it. -/
def Card.onWire (c : Card) : Card :=
  { c with
    name := c.name.map Name.onWire
    addresses := c.addresses.map Address.onWire
    org := filled c.org
    orgUnit := filled c.orgUnit
    arbitrary := c.arbitrary.map Arbitrary.onWire }

namespace Wire.Property

theorem reread_flat (p : CardFile.Property) (flat : schema? p.name = none) :
    reread p = { group := p.group, name := p.name
                 value := some ((p.value.map received).getD (.text ""))
                 attributes := p.attributes.map keptAttribute } := by
  have none : components p = [] := by simp [components, flat]
  simp [reread, flat, sentValue, hasComponents, parameters, presentComponents, none]

theorem textOrEmpty_reread (p : CardFile.Property) (flat : schema? p.name = none) :
    (reread p).textOrEmpty = p.textOrEmpty := by
  rw [reread_flat p flat]
  cases value : p.value with
  | none => simp [Property.textOrEmpty, Property.text?, value, Value.toText]
  | some v => simp [Property.textOrEmpty, Property.text?, value, toText_received]

private theorem flags_kept (flags : List Attribute) (named : ∀ a ∈ flags, a.IsFlag) :
    flags.map keptAttribute = flags := by
  refine (List.map_congr_left fun a member => ?_).trans flags.map_id
  obtain ⟨name, value⟩ := a
  obtain rfl : value = none := (named _ member).marker
  rfl

theorem reread_text (name s : String) (flags : List Attribute) (flat : schema? name = none)
    (named : ∀ a ∈ flags, a.IsFlag) :
    (reread { CardFile.Property.ofText name s with attributes := flags }).plain =
      CardFile.Property.plain { CardFile.Property.ofText name s with attributes := flags } := by
  have sent := toText_transferValue s.toList
  rw [String.ofList_toList] at sent
  rw [reread_flat _ flat, flags_kept flags named]
  change CardFile.Property.plain ⟨none, name, some (transferValue s.toList), flags⟩ =
    CardFile.Property.plain ⟨none, name, some (.text s), flags⟩
  rw [CardFile.Property.plain, CardFile.Property.text?, Option.map_some, sent]
  rfl

section Components

variable (name : String) (flags : List Attribute) (parts : List (String × Option String))
variable (schema : schema? name = some (parts.map Prod.fst))
variable (apart : ∀ a ∈ flags, a.name ∉ parts.map Prod.fst)

include schema apart

theorem parameters_flags :
    parameters { name, attributes := flags ++ componentAttributes parts } = flags := by
  have own : components { name, attributes := flags ++ componentAttributes parts } =
    parts.map Prod.fst := by simp [components, schema]
  rw [parameters, own, List.filter_append]
  have none : (componentAttributes parts).filter
      (fun a => !(parts.map Prod.fst).contains a.name) = [] := by
    apply List.filter_eq_nil_iff.mpr
    intro a member
    simpa using componentAttributes_name parts a member
  have all : flags.filter (fun a => !(parts.map Prod.fst).contains a.name) = flags := by
    apply List.filter_eq_self.mpr
    intro a member
    simpa using apart a member
  rw [none, all, List.append_nil]

private theorem presentComponents_parts (distinct : (parts.map Prod.fst).Nodup) :
    presentComponents { name, attributes := flags ++ componentAttributes parts } =
      componentAttributes (parts.map (Prod.map id filled)) := by
  have own : components { name, attributes := flags ++ componentAttributes parts } =
    parts.map Prod.fst := by simp [components, schema]
  have filledParts : componentAttributes (parts.map (Prod.map id filled)) =
      parts.filterMap fun part => (filled part.2).map (Attribute.ofText part.1) := by
    rw [componentAttributes, List.filterMap_map]
    rfl
  rw [presentComponents, own, filledParts, List.filterMap_map]
  apply List.filterMap_congr
  rintro ⟨part, text?⟩ member
  have text := component_part { name, attributes := flags ++ componentAttributes parts } flags parts
    rfl distinct apart part text? member
  simp only [Function.comp, text]
  cases text? with
  | none => rfl
  | some s => cases empty : s.isEmpty <;> simp [filled, empty]

/-- Components come back from their line without those that are empty. -/
theorem reread_components (distinct : (parts.map Prod.fst).Nodup)
    (named : ∀ a ∈ flags, a.IsFlag) :
    reread { name, attributes := flags ++ componentAttributes parts } =
      { name, attributes := flags ++
        componentAttributes (parts.map (Prod.map id filled)) } := by
  rw [reread, parameters_flags name flags parts schema apart, flags_kept flags named,
    presentComponents_parts name flags parts schema apart distinct]
  simp [schema]

end Components

end Wire.Property

open Wire.Property (reread)

theorem Name.reread_toProperty (n : Name) : reread n.toProperty = n.onWire.toProperty :=
  Wire.Property.reread_components "N" [] n.parts rfl (by simp) (by simp [parts]) (by simp)

theorem Address.reread_toProperty (a : Address) : reread a.toProperty = a.onWire.toProperty :=
  Wire.Property.reread_components "ADR" a.flags.toMarkers a.parts rfl a.flags_apart
    (by simp [parts]) (Card.isFlag_address a.flags)

theorem Arbitrary.ofProperty_reread (a : Arbitrary) :
    ofProperty (reread a.toProperty) = a.onWire.recovered := by
  have text : (reread a.toProperty).textOrEmpty = a.onWire.toProperty.textOrEmpty :=
    Wire.Property.textOrEmpty_reread _ rfl
  have attributes : (reread a.toProperty).attributes = a.onWire.toProperty.attributes := by
    rw [Wire.Property.reread_flat _ rfl]
    obtain ⟨key, valueType, value⟩ := a
    cases valueType <;> cases key <;> rfl
  rw [← ofProperty_toProperty, ofProperty, text, attributes, ofProperty]

namespace Card

private theorem take_reread (c d : Card) (f : Field) (flat : Wire.schema? f.property = none)
    (other : f ≠ .arbitrary) : ∀ p ∈ c.propertiesOf f, d.take (reread p) = d.take p := by
  intro p member
  cases c.shape_propertiesOf f p member with
  | text s flags _ named => exact take_congr d _ _ (Wire.Property.reread_text _ s flags flat named)
  | components _ parts schema => simp [flat] at schema
  | arbitrary _ _ field => exact absurd field other

private theorem foldl_reread (ps : List Property)
    (same : ∀ p ∈ ps, ∀ d : Card, d.take (reread p) = d.take p) (d : Card) :
    (ps.map reread).foldl take d = ps.foldl take d := by
  induction ps generalizing d with
  | nil => rfl
  | cons p ps ih =>
    rw [List.map_cons, List.foldl_cons, same p (by simp), List.foldl_cons,
      ih fun q member => same q (by simp [member])]

private theorem foldl_flat (c d : Card) (f : Field) (flat : Wire.schema? f.property = none)
    (other : f ≠ .arbitrary) :
    ((c.propertiesOf f).map reread).foldl take d = c.restore d f := by
  rw [foldl_reread _ fun p member d => take_reread c d f flat other p member, foldl_propertiesOf]

private theorem reread_orgProperty (org orgUnit : Option String) :
    reread (orgProperty org orgUnit) = orgProperty (filled org) (filled orgUnit) :=
  Wire.Property.reread_components Field.org.property [] [("ORGNAME", org), ("OUN", orgUnit)] rfl
    (by simp) (by simp) (by simp)

private theorem foldl_org_lines (c d : Card) (org : d.org = none) (orgUnit : d.orgUnit = none) :
    ((c.propertiesOf .org).map reread).foldl take d = c.onWire.restore d .org := by
  have chosen (x y : Option String) : (if x.isSome || y.isSome then x else none) = x ∧
      (if x.isSome || y.isSome then y else none) = y := by
    cases x <;> cases y <;> simp
  rw [propertiesOf, orgProperties_eq, restore, org, orgUnit, (chosen _ _).1, (chosen _ _).2]
  split
  · rw [List.map_singleton, reread_orgProperty, List.foldl_cons, List.foldl_nil, take_orgProperty]
    rfl
  · rename_i absent
    obtain ⟨noOrg, noUnit⟩ : c.org = none ∧ c.orgUnit = none := by simpa using absent
    rw [onWire, noOrg, noUnit]
    cases d
    cases org
    cases orgUnit
    rfl

private theorem foldl_arbitrary_lines (c d : Card) :
    ((c.propertiesOf .arbitrary).map reread).foldl take d = c.onWire.restore d .arbitrary := by
  rw [propertiesOf, List.map_map, restore]
  have line (d : Card) (a : Arbitrary) : d.take (reread a.toProperty) =
      { d with arbitrary := d.arbitrary ++ [a.onWire.recovered] } := by
    have name : (reread a.toProperty).name = Field.arbitrary.property := rfl
    rw [take_put d .arbitrary _ name, put, a.ofProperty_reread]
  have lines := foldl_entries (reread ∘ Arbitrary.toProperty) (fun a => a.onWire.recovered)
    (fun d xs => { d with arbitrary := d.arbitrary ++ xs }) c.arbitrary d line (by simp) (by simp)
  rw [lines, onWire, List.map_map]
  rfl

/-- Each field is read from its lines as what the lines hold of it. An organisation of empty units
is written, and read as one that is missing. -/
theorem foldl_lines (c d : Card) (f : Field) (fresh : f = .org → d.org = none ∧ d.orgUnit = none) :
    ((c.propertiesOf f).map reread).foldl take d = c.onWire.restore d f := by
  cases f with
  | name =>
    have lines : (c.propertiesOf .name).map reread = c.onWire.propertiesOf .name := by
      cases name : c.name <;> simp [propertiesOf, onWire, name, Name.reread_toProperty]
    rw [lines, foldl_propertiesOf]
  | address =>
    have lines : (c.propertiesOf .address).map reread = c.onWire.propertiesOf .address := by
      simp [propertiesOf, onWire, Address.reread_toProperty]
    rw [lines, foldl_propertiesOf]
  | org => exact foldl_org_lines c d (fresh rfl).1 (fresh rfl).2
  | arbitrary => exact foldl_arbitrary_lines c d
  | _ => exact foldl_flat c d _ rfl (by simp)

private theorem restore_org (c d : Card) (f : Field) (other : f ≠ .org) :
    (c.restore d f).org = d.org ∧ (c.restore d f).orgUnit = d.orgUnit := by
  cases f <;> first | exact ⟨rfl, rfl⟩ | exact absurd rfl other

private theorem foldl_fields (c : Card) (fields : List Field) (distinct : fields.Nodup) (d : Card)
    (fresh : .org ∈ fields → d.org = none ∧ d.orgUnit = none) :
    (fields.flatMap fun f => (c.propertiesOf f).map reread).foldl take d =
      fields.foldl (c.onWire.restore) d := by
  induction fields generalizing d with
  | nil => rfl
  | cons f fields ih =>
    obtain ⟨absent, others⟩ := List.nodup_cons.mp distinct
    rw [List.flatMap_cons, List.foldl_append, List.foldl_cons, ih others]
    · rw [foldl_lines c d f]
      rintro rfl
      exact fresh (by simp)
    · intro later
      have other : f ≠ .org := by
        rintro rfl
        exact absent later
      rw [foldl_lines c d f fun same => absurd same other, (restore_org c.onWire d f other).1,
        (restore_org c.onWire d f other).2]
      exact fresh (by simp [later])

theorem foldl_reread_properties (c : Card) :
    (c.properties.map reread).foldl take {} = c.onWire.recovered := by
  rw [← foldl_properties, properties_eq, properties_eq, List.map_flatMap,
    foldl_fields c _ (by decide) {} fun _ => ⟨rfl, rfl⟩, List.foldl_flatMap]
  simp only [foldl_propertiesOf]

private theorem field_unversioned (f : Field) : (f.property == "VERSION") = false := by
  cases f <;> decide

theorem shape_properties (c : Card) : ∀ p ∈ c.properties, ∃ f, Shape c f p := by
  intro p member
  rw [properties_eq] at member
  obtain ⟨f, -, member⟩ := List.mem_flatMap.mp member
  exact ⟨f, c.shape_propertiesOf f p member⟩

theorem versioned_properties (c : Card) :
    Wire.versioned c.properties = Wire.versionProperty :: c.properties := by
  rw [Wire.versioned, if_neg]
  rw [Bool.not_eq_true, List.any_eq_false]
  intro p member
  obtain ⟨f, shape⟩ := c.shape_properties p member
  rw [shape.name, field_unversioned]
  exact Bool.false_ne_true

theorem renderAll_blocks (cs : List Card) : renderAll cs = String.ofList
    (((cs.map fun c => Wire.versionProperty :: c.properties).flatMap fun ps =>
      Wire.block (ps.map Wire.Property.line)).flatMap Wire.fold) := by
  have record (c : Card) : Wire.recordLines c.toRecord =
      Wire.block ((Wire.versionProperty :: c.properties).map Wire.Property.line) := by
    rw [toRecord, Wire.recordLines_block, versioned_properties]
  rw [renderAll, Wire.render, List.flatMap_map, List.flatMap_map]
  simp only [record]

private theorem take_version (d : Card) : d.take (reread Wire.versionProperty) = d := by
  have unknown : Field.ofProperty? "VERSION" = none := by decide
  have name : (reread Wire.versionProperty).name = "VERSION" := rfl
  rw [take, name, unknown]

/-- Cards that are written and read come back as duplicates of what the lines hold of them, if
their keys can be written. -/
theorem loadStrict_renderAll (cs : List Card) (keyed : ∀ c ∈ cs, ∀ a ∈ c.arbitrary, a.Keyed) :
    loadStrict (renderAll cs) = .ok (cs.map fun c => c.onWire.duplicate) := by
  have parsed := Wire.parse_render (cs.map properties) fun ps member p present => by
    obtain ⟨c, stored, rfl⟩ := List.mem_map.mp member
    obtain ⟨f, shape⟩ := c.shape_properties p present
    exact shape.writable (keyed c stored)
  rw [List.map_map] at parsed
  rw [loadStrict, renderAll]
  change (Wire.parse (Wire.render (cs.map (Record.mk Wire.vcard ∘ properties)))).map _ = _
  rw [parsed, Except.map, List.map_map, List.map_map]
  refine congrArg _ (List.map_congr_left fun c _ => ?_)
  rw [Function.comp, Function.comp, ofRecord, ofRecordWith, versioned_properties, List.map_cons,
    List.foldl_cons, take_version, foldl_reread_properties, duplicate_eq]

end Card

end CardFile
