import CardFile.Card.Encode
import CardFile.Proofs.FlagSet

/-!
Components of names and addresses, as attributes. Components have names of their own, so that each
is found under its name, and beside attributes with other names.
-/
namespace CardFile

theorem componentAttributes_cons (name : String) (text? : Option String)
    (parts : List (String × Option String)) : componentAttributes ((name, text?) :: parts) =
      (text?.map (Attribute.ofText name)).toList ++ componentAttributes parts := by
  cases text? <;> rfl

theorem componentAttributes_name (parts : List (String × Option String)) (a : Attribute)
    (member : a ∈ componentAttributes parts) : a.name ∈ parts.map Prod.fst := by
  obtain ⟨⟨name, text?⟩, present, found⟩ := List.mem_filterMap.mp member
  obtain ⟨text, -, rfl⟩ := Option.map_eq_some_iff.mp found
  exact List.mem_map_of_mem present

private theorem find_others (name : String) (others more : List Attribute)
    (apart : ∀ a ∈ others, a.name ≠ name) :
    (others ++ more).find? (·.name == name) = more.find? (·.name == name) := by
  rw [List.find?_append, List.find?_eq_none.mpr fun a member => by simpa using apart a member]
  rfl

private theorem find_component (parts : List (String × Option String))
    (distinct : (parts.map Prod.fst).Nodup) (name : String) (text? : Option String)
    (member : (name, text?) ∈ parts) :
    (componentAttributes parts).find? (·.name == name) = text?.map (Attribute.ofText name) := by
  induction parts with
  | nil => simp at member
  | cons part parts ih =>
    obtain ⟨first, firstText?⟩ := part
    obtain ⟨fresh, others⟩ := List.nodup_cons.mp distinct
    rw [componentAttributes_cons]
    rcases List.mem_cons.mp member with same | later
    · obtain ⟨rfl, rfl⟩ := Prod.mk.inj same
      cases text? with
      | some text => simp [Attribute.ofText]
      | none =>
        apply List.find?_eq_none.mpr
        intro a present
        have own := componentAttributes_name parts a (by simpa using present)
        simp only [beq_iff_eq]
        rintro rfl
        exact fresh own
    · have different : first ≠ name := by
        rintro rfl
        exact fresh (List.mem_map.mpr ⟨_, later, rfl⟩)
      rw [find_others name _ _ fun a present => ?_, ih others later]
      obtain ⟨text, -, rfl⟩ := Option.map_eq_some_iff.mp (Option.mem_toList.mp present)
      exact different

section Parts

variable (p : Property) (flags : List Attribute) (parts : List (String × Option String))
variable (attributes : p.attributes = flags ++ componentAttributes parts)
variable (distinct : (parts.map Prod.fst).Nodup)
variable (apart : ∀ a ∈ flags, a.name ∉ parts.map Prod.fst)
variable (name : String) (text? : Option String) (member : (name, text?) ∈ parts)

include attributes distinct apart member

private theorem attribute?_part : p.attribute? name = text?.map (Attribute.ofText name) := by
  have own : name ∈ parts.map Prod.fst := List.mem_map_of_mem member
  rw [Property.attribute?, attributes, find_others name _ _ fun a flag equal => ?_]
  · exact find_component parts distinct name text? member
  · exact apart a flag (equal ▸ own)

theorem componentText?_part : p.componentText? name = text? := by
  rw [Property.componentText?,
    attribute?_part p flags parts attributes distinct apart name text? member]
  cases text? <;> rfl

theorem component_part : Wire.Property.component p name = text?.getD "" := by
  rw [Wire.Property.component,
    attribute?_part p flags parts attributes distinct apart name text? member]
  cases text? <;> rfl

end Parts

/-- The components of a name under their attribute names, in the order of the value. -/
def Name.parts (n : Name) : List (String × Option String) :=
  [("F", n.family), ("G", n.given), ("ADD", n.additional), ("PRE", n.honorific), ("SUF", n.suffix)]

theorem Name.ofProperty_toProperty (n : Name) : Name.ofProperty n.toProperty = n := by
  have part (name : String) (text? : Option String) (member : (name, text?) ∈ n.parts) :
      n.toProperty.componentText? name = text? :=
    componentText?_part _ [] n.parts rfl (by simp [parts]) (by simp) name text? member
  simp only [Name.parts, List.mem_cons, List.not_mem_nil, or_false] at part
  rw [ofProperty, part "PRE" n.honorific (by simp), part "G" n.given (by simp),
    part "ADD" n.additional (by simp), part "F" n.family (by simp), part "SUF" n.suffix (by simp)]

def Address.parts (a : Address) : List (String × Option String) :=
  [("PO", a.po), ("EXT", a.ext), ("STREET", a.street), ("L", a.city), ("R", a.region),
    ("PC", a.code), ("C", a.country)]

theorem Address.flags_apart (a : Address) :
    ∀ flag ∈ a.flags.toMarkers, flag.name ∉ a.parts.map Prod.fst := by
  intro flag member
  obtain ⟨name, bit, entry, -, rfl⟩ := (FlagSet.mem_toMarkers a.flags flag).mp member
  have apart : ∀ name ∈ addressTable.names,
      name ∉ ["PO", "EXT", "STREET", "L", "R", "PC", "C"] := by
    decide
  exact apart name (List.fst_mem_of_mem_zipIdx entry)

def Address.known (a : Address) : Address :=
  { a with flags := a.flags.known }

private theorem parts_silent (parts : List (String × Option String))
    (untyped : ∀ part ∈ parts, sameIgnoringCase part.1 "TYPE" = false) :
    ∀ a ∈ componentAttributes parts, FlagSet.bitsOf addressTable a = [] := by
  intro a member
  obtain ⟨⟨name, text?⟩, present, found⟩ := List.mem_filterMap.mp member
  obtain ⟨text, -, rfl⟩ := Option.map_eq_some_iff.mp found
  have other := untyped _ present
  dsimp only at other
  simp [FlagSet.bitsOf, Attribute.ofText, Attribute.text?, other]

theorem Address.ofProperty_toProperty (a : Address) :
    Address.ofProperty a.toProperty = a.known := by
  have part (name : String) (text? : Option String) (member : (name, text?) ∈ a.parts) :
      a.toProperty.componentText? name = text? :=
    componentText?_part _ a.flags.toMarkers a.parts rfl (by simp [parts]) a.flags_apart name text?
      member
  have flags : FlagSet.ofAttributes a.toProperty.attributes = a.flags.known :=
    FlagSet.ofAttributes_toMarkers addressTable_distinct a.flags _
      (parts_silent a.parts (by simp [parts]; decide))
  simp only [Address.parts, List.mem_cons, List.not_mem_nil, or_false] at part
  rw [ofProperty, flags, part "PO" a.po (by simp), part "EXT" a.ext (by simp),
    part "STREET" a.street (by simp), part "L" a.city (by simp), part "R" a.region (by simp),
    part "PC" a.code (by simp), part "C" a.country (by simp)]
  rfl

end CardFile
