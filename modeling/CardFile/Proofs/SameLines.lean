import CardFile.Proofs.OnWire

/-!
Lines that come out the same when a card is written as its lines hold it. An empty component leaves
no trace on a line beside others, and a control character in a type none at all; only a structured
value all of whose components are empty is written in another way than one without components.
-/
namespace CardFile

namespace Wire

private theorem needsQuotes_keptValue (s : List Char) :
    needsQuotes (keptValue s) = needsQuotes s := by
  rw [needsQuotes, needsQuotes, keptValue, List.any_filter]
  congr 1
  funext c
  by_cases special : c = '"' ∨ c = ':' ∨ c = ';' ∨ c = ','
  · rcases special with rfl | rfl | rfl | rfl <;> decide
  · simp only [not_or] at special
    simp [special]

private theorem keptValue_cons (c : Char) (s : List Char)
    (kept : Text.isControl c = false ∨ c = '\n') :
    keptValue (c :: s) = c :: keptValue s := by
  apply List.filter_cons_of_pos
  rcases kept with plain | rfl
  · simp [plain]
  · rfl

private theorem escapeValue_keptValue (s : List Char) :
    escapeValue (keptValue s) = escapeValue s := by
  fun_induction escapeValue s with
  | case1 => rfl
  | case2 rest ih => rw [keptValue_cons _ rest (by decide), escapeValue, ih]
  | case3 rest ih => rw [keptValue_cons _ rest (by decide), escapeValue, ih]
  | case4 rest ih => rw [keptValue_cons _ rest (by decide), escapeValue, ih]
  | case5 c rest _ noFeed _ control ih =>
    have dropped : keptValue (c :: rest) = keptValue rest := by
      apply List.filter_cons_of_neg
      simpa [control] using noFeed
    rw [dropped, ih]
  | case6 c rest caret feed quote control ih =>
    rw [keptValue_cons c rest (Or.inl (by simpa using control)), escapeValue, ih, if_neg control]
    all_goals assumption

theorem writeValue_keptValue (s : List Char) : writeValue (keptValue s) = writeValue s := by
  rw [writeValue, writeValue, needsQuotes_keptValue, escapeValue_keptValue]

end Wire

/-- Components of which one is not empty, unless there are none. -/
def Steady (components : List (Option String)) : Prop :=
  (∃ text? ∈ components, text? ≠ none) → ∃ text? ∈ components, filled text? ≠ none

private theorem names_filled (parts : List (String × Option String)) :
    (parts.map (Prod.map id filled)).map Prod.fst = parts.map Prod.fst := by
  simp

namespace Wire.Property

section Components

variable (name : String) (flags : List Attribute) (parts : List (String × Option String))
variable (schema : schema? name = some (parts.map Prod.fst))
variable (apart : ∀ a ∈ flags, a.name ∉ parts.map Prod.fst)

include schema apart

private theorem hasComponents_parts :
    hasComponents { name, attributes := flags ++ componentAttributes parts } = true ↔
      ∃ text? ∈ parts.map Prod.snd, text? ≠ none := by
  have own : components { name, attributes := flags ++ componentAttributes parts } =
    parts.map Prod.fst := by simp [components, schema]
  rw [hasComponents, own, List.any_eq_true]
  constructor
  · rintro ⟨a, member, named⟩
    rcases List.mem_append.mp member with flag | component
    · exact absurd (List.contains_iff_mem.mp named) (apart a flag)
    · obtain ⟨⟨part, text?⟩, present, made⟩ := List.mem_filterMap.mp component
      refine ⟨text?, List.mem_map_of_mem present, ?_⟩
      rintro rfl
      cases made
  · rintro ⟨text?, member, present⟩
    obtain ⟨⟨part, text?⟩, stored, rfl⟩ := List.mem_map.mp member
    obtain ⟨text, rfl⟩ := Option.ne_none_iff_exists'.mp present
    refine ⟨Attribute.ofText part text, List.mem_append_right _ ?_, ?_⟩
    · exact List.mem_filterMap.mpr ⟨_, stored, rfl⟩
    · exact List.contains_iff_mem.mpr (List.mem_map_of_mem stored)

private theorem structuredText_parts (distinct : (parts.map Prod.fst).Nodup) :
    structuredText { name, attributes := flags ++ componentAttributes parts } =
      joinComponents (parts.map fun part => (part.2.getD "").toList) := by
  have own : components { name, attributes := flags ++ componentAttributes parts } =
    parts.map Prod.fst := by simp [components, schema]
  rw [structuredText, own, List.map_map]
  refine congrArg joinComponents (List.map_congr_left ?_)
  rintro ⟨part, text?⟩ member
  rw [Function.comp, component_part _ flags parts rfl distinct apart part text? member]

private theorem structuredText_filled (distinct : (parts.map Prod.fst).Nodup) :
    structuredText { name, attributes := flags ++
      componentAttributes (parts.map (Prod.map id filled)) } =
    structuredText { name, attributes := flags ++ componentAttributes parts } := by
  have names := names_filled parts
  rw [structuredText_parts name flags parts schema apart distinct]
  rw [← names] at schema apart distinct
  rw [structuredText_parts name flags _ schema apart distinct, List.map_map]
  refine congrArg joinComponents (List.map_congr_left fun part _ => ?_)
  exact congrArg String.toList (getD_filled part.2)

private theorem hasComponents_filled (steady : Steady (parts.map Prod.snd)) :
    hasComponents { name, attributes := flags ++
      componentAttributes (parts.map (Prod.map id filled)) } =
    hasComponents { name, attributes := flags ++ componentAttributes parts } := by
  have names := names_filled parts
  have texts : (parts.map (Prod.map id filled)).map Prod.snd =
      (parts.map Prod.snd).map filled := by simp
  rw [Bool.eq_iff_iff, hasComponents_parts name flags parts schema apart]
  rw [← names] at schema apart
  rw [hasComponents_parts name flags _ schema apart, texts]
  constructor
  · rintro ⟨text?, member, present⟩
    obtain ⟨text?, stored, rfl⟩ := List.mem_map.mp member
    exact ⟨text?, stored, fun none => present (by rw [none]; rfl)⟩
  · intro some
    obtain ⟨text?, stored, solid⟩ := steady some
    exact ⟨filled text?, List.mem_map_of_mem stored, solid⟩

/-- The line of a structured property is the same without its empty components. -/
theorem line_filled (distinct : (parts.map Prod.fst).Nodup)
    (steady : Steady (parts.map Prod.snd)) :
    line { name, attributes := flags ++
      componentAttributes (parts.map (Prod.map id filled)) } =
    line { name, attributes := flags ++ componentAttributes parts } := by
  have text := structuredText_filled name flags parts schema apart distinct
  have has := hasComponents_filled name flags parts schema apart steady
  have own := parameters_flags name flags parts schema apart
  rw [← names_filled parts] at schema apart
  rw [line, line, parameters_flags name flags _ schema apart, own, payload, payload, has, text]

end Components

end Wire.Property

open Wire.Property (line)

theorem Name.line_onWire (n : Name) (steady : Steady (n.parts.map Prod.snd)) :
    line n.onWire.toProperty = line n.toProperty :=
  Wire.Property.line_filled "N" [] n.parts rfl (by simp) (by simp [parts]) steady

theorem Address.line_onWire (a : Address) (steady : Steady (a.parts.map Prod.snd)) :
    line a.onWire.toProperty = line a.toProperty :=
  Wire.Property.line_filled "ADR" a.flags.toMarkers a.parts rfl a.flags_apart (by simp [parts])
    steady

theorem Arbitrary.line_onWire (a : Arbitrary) : line a.onWire.toProperty = line a.toProperty := by
  have schema : Wire.schema? Field.arbitrary.property = none := rfl
  have own (b : Arbitrary) : Wire.Property.components b.toProperty = [] := by
    simp [Wire.Property.components, toProperty, schema]
  have all (b : Arbitrary) : Wire.Property.parameters b.toProperty = b.toProperty.attributes := by
    simp [Wire.Property.parameters, own]
  have payload : Wire.Property.payload a.onWire.toProperty =
      Wire.Property.payload a.toProperty := by
    simp [Wire.Property.payload, Wire.Property.hasComponents, own]
    rfl
  have parameters : a.onWire.toProperty.attributes.flatMap Wire.writeParameter =
      a.toProperty.attributes.flatMap Wire.writeParameter := by
    obtain ⟨key, valueType, value⟩ := a
    cases valueType with
    | none => rfl
    | some type =>
      simp [onWire, toProperty, Wire.writeParameter, Attribute.ofText, Attribute.text?,
        Value.toText, Wire.writeValue_keptValue]
  rw [line, line, all, all, payload, parameters]
  rfl

namespace Card

structure Steady (c : Card) : Prop where
  name : ∀ n ∈ c.name, CardFile.Steady (n.parts.map Prod.snd)
  addresses : ∀ a ∈ c.addresses, CardFile.Steady (a.parts.map Prod.snd)
  org : CardFile.Steady [c.org, c.orgUnit]

private theorem lines_org (c : Card) (steady : CardFile.Steady [c.org, c.orgUnit]) :
    (c.onWire.propertiesOf .org).map line = (c.propertiesOf .org).map line := by
  have lines : line (orgProperty (filled c.org) (filled c.orgUnit)) =
      line (orgProperty c.org c.orgUnit) :=
    Wire.Property.line_filled "ORG" [] [("ORGNAME", c.org), ("OUN", c.orgUnit)] rfl (by simp)
      (by simp) steady
  have some : ((filled c.org).isSome || (filled c.orgUnit).isSome) =
      (c.org.isSome || c.orgUnit.isSome) := by
    rw [Bool.eq_iff_iff]
    simp only [Bool.or_eq_true, Option.isSome_iff_ne_none]
    have present (text? : Option String) (some : filled text? ≠ none) : text? ≠ none := by
      rintro rfl
      exact some rfl
    constructor
    · exact Or.imp (present c.org) (present c.orgUnit)
    · intro some
      simpa using steady (by simpa using some)
  rw [propertiesOf, propertiesOf, orgProperties_eq, orgProperties_eq, onWire, some]
  split
  · rw [List.map_singleton, List.map_singleton, lines]
  · rfl

private theorem lines_propertiesOf (c : Card) (steady : c.Steady) (f : Field) :
    (c.onWire.propertiesOf f).map line = (c.propertiesOf f).map line := by
  cases f with
  | name =>
    cases name : c.name with
    | none => simp [propertiesOf, onWire, name]
    | some n => simp [propertiesOf, onWire, name, n.line_onWire (steady.name n name)]
  | address =>
    simp only [propertiesOf, onWire, List.map_map]
    exact List.map_congr_left fun a member => a.line_onWire (steady.addresses a member)
  | org => exact lines_org c steady.org
  | arbitrary =>
    simp only [propertiesOf, onWire, List.map_map]
    exact List.map_congr_left fun a _ => a.line_onWire
  | _ => rfl

/-- A steady card is written like what its lines hold of it. -/
theorem renderAll_onWire (cs : List Card) (steady : ∀ c ∈ cs, c.Steady) :
    renderAll (cs.map onWire) = renderAll cs := by
  have lines (c : Card) (member : c ∈ cs) :
      c.onWire.properties.map line = c.properties.map line := by
    rw [properties_eq, properties_eq, List.map_flatMap, List.map_flatMap]
    exact List.flatMap_congr fun f _ => lines_propertiesOf c (steady c member) f
  have blocks : ((cs.map onWire).map fun c => Wire.versionProperty :: c.properties).flatMap
        (fun ps => Wire.block (ps.map line)) =
      (cs.map fun c => Wire.versionProperty :: c.properties).flatMap
        (fun ps => Wire.block (ps.map line)) := by
    rw [List.map_map, List.flatMap_map, List.flatMap_map]
    apply List.flatMap_congr
    intro c member
    rw [Function.comp, List.map_cons, List.map_cons, lines c member]
  rw [renderAll_blocks, renderAll_blocks, blocks]

end Card

end CardFile
