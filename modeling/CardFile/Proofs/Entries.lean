import CardFile.Proofs.Canonical
import CardFile.Proofs.Reordering

/-!
What a card holds of the record that it was read from. A field that repeats has one entry for each
of its properties, in their order, whatever stands between them. An entry of an application has no
key unless its property has an attribute that does not pass for a type.
-/
namespace CardFile

def Record.propertiesOf (r : Record) (f : Field) : List Property :=
  r.properties.filter fun p => Field.ofProperty? p.name = some f

/-- The last name among the attributes that does not pass for a type. -/
def Property.key? (p : Property) : Option String :=
  (p.attributes.filter fun a => !sameIgnoringCase a.name "TYPE").getLast?.map Attribute.name

namespace Arbitrary

private theorem key_foldl (attributes : List Attribute) (entry : Arbitrary) :
    (attributes.foldl takeAttribute entry).key =
      ((attributes.filter fun a => !sameIgnoringCase a.name "TYPE").getLast?.map
        Attribute.name).or entry.key := by
  induction attributes generalizing entry with
  | nil => rfl
  | cons a attributes ih =>
    rw [List.foldl_cons, ih, takeAttribute]
    cases type : sameIgnoringCase a.name "TYPE" with
    | true => simp [type]
    | false =>
      rw [List.filter_cons_of_pos (by simp [type]), List.getLast?_cons]
      cases (attributes.filter fun a => !sameIgnoringCase a.name "TYPE").getLast? <;> rfl

theorem key_ofProperty (p : Property) : (ofProperty p).key = p.key? := by
  rw [ofProperty, Property.key?, key_foldl, Option.or_none]

end Arbitrary

namespace Card

/-- A card whose lists have one entry for each property of their field in a record, in order. -/
structure Collects (c : Card) (r : Record) : Prop where
  addresses : c.addresses = (r.propertiesOf .address).map .ofProperty
  addressLabels : c.addressLabels = (r.propertiesOf .addressLabel).map fun p =>
    ⟨.ofAttributes p.attributes, p.textOrEmpty⟩
  phones : c.phones = (r.propertiesOf .phone).map fun p =>
    ⟨.ofAttributes p.attributes, p.textOrEmpty⟩
  emails : c.emails = (r.propertiesOf .email).map Property.textOrEmpty
  arbitrary : c.arbitrary = (r.propertiesOf .arbitrary).map .ofProperty
  keys : c.arbitrary.map Arbitrary.key = (r.propertiesOf .arbitrary).map Property.key?

section

variable {α : Type} (f : Field) (entries : Card → List α) (entry : Property → α)
  (own : ∀ c, entries (only c f) = entries c)
  (added : ∀ c p, entries (put c f p) = entries c ++ [entry p])

include own added

/-- A field that repeats takes up its properties one by one, and no other property matters to it. -/
theorem entries_foldl (c : Card) (ps : List Property) : entries (ps.foldl take c) =
    entries c ++ (ps.filter fun p => Field.ofProperty? p.name = some f).map entry := by
  induction ps generalizing c with
  | nil => simp
  | cons p ps ih =>
    rw [List.foldl_cons, ih, take]
    split
    · rename_i g found
      by_cases same : g = f
      · subst same
        rw [added, List.filter_cons_of_pos (by simpa using found), List.map_cons,
          List.append_assoc, List.singleton_append]
      · rw [← own, only_put_other c f g p same, own,
          List.filter_cons_of_neg (by simp [found, same])]
    · rename_i unknown
      rw [List.filter_cons_of_neg (by simp [unknown])]

theorem entries_ofRecord (blank : entries {} = [])
    (kept : ∀ c, entries (complete Name.parse c) = entries c) (r : Record) :
    entries (ofRecord r) = (r.propertiesOf f).map entry := by
  rw [ofRecord, ofRecordWith, kept, entries_foldl f entries entry own added, blank,
    List.nil_append, Record.propertiesOf]

end

theorem arbitrary_ofRecord (r : Record) :
    (ofRecord r).arbitrary = (r.propertiesOf .arbitrary).map .ofProperty :=
  entries_ofRecord .arbitrary arbitrary .ofProperty (fun _ => rfl) (fun _ _ => rfl) rfl
    (fun _ => rfl) r

theorem keys_ofRecord (r : Record) :
    (ofRecord r).arbitrary.map Arbitrary.key = (r.propertiesOf .arbitrary).map Property.key? := by
  rw [arbitrary_ofRecord, List.map_map]
  exact List.map_congr_left fun p _ => Arbitrary.key_ofProperty p

theorem collects_ofRecord (r : Record) : (ofRecord r).Collects r where
  addresses := entries_ofRecord .address _ _ (fun _ => rfl) (fun _ _ => rfl) rfl (fun _ => rfl) r
  addressLabels :=
    entries_ofRecord .addressLabel _ _ (fun _ => rfl) (fun _ _ => rfl) rfl (fun _ => rfl) r
  phones := entries_ofRecord .phone _ _ (fun _ => rfl) (fun _ _ => rfl) rfl (fun _ => rfl) r
  emails := entries_ofRecord .email _ _ (fun _ => rfl) (fun _ _ => rfl) rfl (fun _ => rfl) r
  arbitrary := arbitrary_ofRecord r
  keys := keys_ofRecord r

/-- Whatever a record holds, the card that is read from it is as reading makes them, and its lists
have one entry for each property of their field. -/
theorem ofRecord_invariant (r : Record) :
    (ofRecord r).Decoded ∧ (ofRecord r).Collects r :=
  ⟨decoded_ofRecord r, collects_ofRecord r⟩

def unkeyed : Record where
  name := Wire.vcard
  properties := [.ofText "X-EVOLUTION-ARBITRARY" "v"]

/-- An entry need not have a key. -/
theorem ofRecord_unkeyed : ∃ a ∈ (ofRecord unkeyed).arbitrary, a.key = none := by
  rw [arbitrary_ofRecord]
  exact ⟨{ value := some "v" }, by decide, rfl⟩

end Card

end CardFile
