import CardFile.Proofs.Property

/-!
Records of the wire's shape. Their properties have names of the grammar, parameters that a line
holds entirely, and components in the order of their schema; such records are parsed back from
their text. The two things that change are told by `versioned` and `received`: a missing version is
added, and a text that no line can hold comes back as its octets.
-/
namespace CardFile

/-- A parameter that a line gives back as it is: no character of its text is without a written
form. -/
structure Attribute.Whole (a : Attribute) : Prop extends a.Writable where
  text : ∀ v ∈ a.value, ∃ s, v = .text s ∧ ∀ c ∈ s.toList, Text.isControl c = false ∨ c = '\n'

instance (v : Value) (P : String → Prop) [DecidablePred P] : Decidable (∃ s, v = .text s ∧ P s) :=
  match v with
  | .text s => decidable_of_iff (P s) (by simp)
  | .octets _ _ => isFalse (by simp)

instance (a : Attribute) : Decidable a.Whole :=
  decidable_of_iff (a.Writable ∧ ∀ v ∈ a.value, ∃ s, v = .text s ∧
    s.toList.all fun c => !Text.isControl c || c == '\n')
    ⟨fun ⟨writable, text⟩ => ⟨writable, by simpa using text⟩,
      fun whole => ⟨whole.toWritable, by simpa using whole.text⟩⟩

namespace Wire

/-- Texts that are not empty, under some of the names: each at most once, in the order of these. -/
structure ComponentList (names : List String) (cs : List Attribute) : Prop where
  ordered : (cs.map (·.name)).Sublist names
  filled : ∀ a ∈ cs, ∃ s, s ≠ "" ∧ a.value = some (.text s)

namespace Property

/-- The attributes are parameters, which bear no component's name, and then components. -/
def Arranged (p : CardFile.Property) : Prop :=
  ∃ ps cs, p.attributes = ps ++ cs ∧ (∀ a ∈ ps, a.name ∉ components p) ∧
    ComponentList (components p) cs

/-- A property of the wire's shape. The names of its parameters and the label of its charset are
written as they are, and ask for no more than that they can be read. -/
structure WireShaped (p : CardFile.Property) : Prop where
  grouped : ∀ g ∈ p.group, isName g.toList = true
  named : isName p.name.toList = true
  capitals : p.name.toList.map Char.toUpper = p.name.toList
  inside : p.name ≠ "BEGIN" ∧ p.name ≠ "END"
  arranged : Arranged p
  whole : ∀ a ∈ parameters p, a.Whole
  structured : schema? p.name ≠ none → p.value = none
  flat : schema? p.name = none → ∃ v, p.value = some v ∧ Sendable v

private theorem select_ordered (names : List String) (cs : List Attribute) (distinct : names.Nodup)
    (ordered : (cs.map (·.name)).Sublist names) :
    names.filterMap (fun name => cs.find? (·.name == name)) = cs := by
  generalize keys : cs.map (·.name) = own at ordered
  induction ordered generalizing cs with
  | slnil =>
    obtain rfl : cs = [] := List.map_eq_nil_iff.mp keys
    rfl
  | @cons own names name sub ih =>
    obtain ⟨absent, others⟩ := List.nodup_cons.mp distinct
    have missing : cs.find? (·.name == name) = none := by
      rw [List.find?_eq_none]
      intro a member same
      apply absent
      rw [← beq_iff_eq.mp same]
      exact sub.subset (keys ▸ List.mem_map_of_mem member)
    simp only [List.filterMap_cons, missing]
    exact ih cs others keys
  | @cons_cons own names name sub ih =>
    obtain ⟨absent, rest⟩ := List.nodup_cons.mp distinct
    obtain ⟨a, others, rfl, rfl, tail⟩ := List.map_eq_cons_iff.mp keys
    have found : (a :: others).find? (·.name == a.name) = some a := by simp
    -- The names that follow are others, and look past the first attribute.
    have later : ∀ name ∈ names, (a :: others).find? (·.name == name) =
        others.find? (·.name == name) := by
      intro name member
      have other : a.name ≠ name := fun same => absent (same ▸ member)
      simp [other]
    simp only [List.filterMap_cons, found]
    rw [List.filterMap_congr later, ih others rest tail]

theorem components_nodup (p : CardFile.Property) : (components p).Nodup := by
  unfold components schema?
  split <;> decide

section Arranged

variable (p : CardFile.Property) (ps cs : List Attribute) (split : p.attributes = ps ++ cs)
variable (apart : ∀ a ∈ ps, a.name ∉ components p)

include split apart

private theorem attribute_arranged (name : String) (member : name ∈ components p) :
    p.attribute? name = cs.find? (·.name == name) := by
  have none : ps.find? (·.name == name) = none := by
    rw [List.find?_eq_none]
    intro a own same
    exact apart a own (beq_iff_eq.mp same ▸ member)
  rw [Property.attribute?, split, List.find?_append, none, Option.none_or]

variable (list : ComponentList (components p) cs)

include list

private theorem parameters_arranged : parameters p = ps := by
  have own : ps.filter (fun a => !(components p).contains a.name) = ps := by
    apply List.filter_eq_self.mpr
    intro a member
    simpa using apart a member
  have others : cs.filter (fun a => !(components p).contains a.name) = [] := by
    apply List.filter_eq_nil_iff.mpr
    intro a member
    simpa using list.ordered.subset (List.mem_map_of_mem member)
  rw [parameters, split, List.filter_append, own, others, List.append_nil]

private theorem presentComponents_arranged : presentComponents p = cs := by
  rw [presentComponents, ← select_ordered _ cs (components_nodup p) list.ordered]
  apply List.filterMap_congr
  intro name member
  rw [component, attribute_arranged p ps cs split apart name member]
  cases found : cs.find? (·.name == name) with
  | none => rfl
  | some a =>
    obtain ⟨s, filled, value⟩ := list.filled a (List.mem_of_find?_eq_some found)
    obtain rfl : a.name = name := by simpa using List.find?_some found
    have text : a.text? = some s := by rw [Attribute.text?, value]; rfl
    have solid : s.isEmpty = false := by simpa using filled
    simp only [Option.bind_some, text, Option.getD_some, solid, Bool.false_eq_true, if_false,
      Attribute.ofText, ← value]

end Arranged

theorem presentComponents_list (p : CardFile.Property) :
    ComponentList (components p) (presentComponents p) where
  ordered := by
    have names : (presentComponents p).map (·.name) =
        (components p).filter fun name => !(component p name).isEmpty := by
      rw [presentComponents, List.map_filterMap, ← List.filterMap_eq_filter]
      apply List.filterMap_congr
      intro name _
      cases empty : (component p name).isEmpty <;> simp [empty, Attribute.ofText, Option.guard]
    rw [names]
    exact List.filter_sublist
  filled := by
    intro a member
    obtain ⟨name, -, made⟩ := List.mem_filterMap.mp member
    split at made
    · cases made
    · rename_i filled
      cases made
      exact ⟨_, by simpa using filled, rfl⟩

/-- Attributes are arranged if they are the parameters and components that are written of them. -/
theorem arranged_iff (p : CardFile.Property) :
    Arranged p ↔ p.attributes = parameters p ++ presentComponents p := by
  constructor
  · rintro ⟨ps, cs, split, apart, list⟩
    rw [parameters_arranged p ps cs split apart list,
      presentComponents_arranged p ps cs split apart list, split]
  · intro split
    refine ⟨_, _, split, fun a member => ?_, presentComponents_list p⟩
    simpa using (List.mem_filter.mp member).2

instance (p : CardFile.Property) : Decidable (Arranged p) :=
  decidable_of_iff _ (arranged_iff p).symm

instance (value : Option Value) : Decidable (∃ v, value = some v ∧ Sendable v) :=
  match value with
  | some v => decidable_of_iff (Sendable v) (by simp)
  | none => isFalse (by simp)

instance (p : CardFile.Property) : Decidable (WireShaped p) :=
  decidable_of_iff ((∀ g ∈ p.group, isName g.toList = true) ∧ isName p.name.toList = true ∧
    p.name.toList.map Char.toUpper = p.name.toList ∧ (p.name ≠ "BEGIN" ∧ p.name ≠ "END") ∧
    Arranged p ∧ (∀ a ∈ parameters p, a.Whole) ∧ (schema? p.name ≠ none → p.value = none) ∧
    (schema? p.name = none → ∃ v, p.value = some v ∧ Sendable v))
    ⟨fun ⟨grouped, named, capitals, inside, arranged, whole, structured, flat⟩ =>
      ⟨grouped, named, capitals, inside, arranged, whole, structured, flat⟩,
      fun shaped => ⟨shaped.grouped, shaped.named, shaped.capitals, shaped.inside,
        shaped.arranged, shaped.whole, shaped.structured, shaped.flat⟩⟩

private theorem capitals_inside (name : List Char) (named : isName name = true)
    (capitals : name.map Char.toUpper = name) (letters : List Char) (word : isName letters = true)
    (upper : letters.map Char.toUpper = letters) (other : name ≠ letters) :
    Text.sameLetters name letters = false := by
  refine beq_eq_false_iff_ne.mpr fun same => other ?_
  have again := congrArg (List.map Char.toUpper) same
  rwa [upper_lower name named, upper_lower letters word, capitals, upper] at again

def delivered (p : CardFile.Property) : CardFile.Property :=
  { p with value := p.value.map received }

namespace WireShaped

variable {p : CardFile.Property}

theorem writable (shaped : WireShaped p) : Writable p where
  grouped := shaped.grouped
  named := shaped.named
  capitals := shaped.capitals
  inside := by
    obtain ⟨noBegin, noEnd⟩ := shaped.inside
    rw [isBoundaryName, Bool.or_eq_false_iff]
    have apart := capitals_inside _ shaped.named shaped.capitals
    exact ⟨apart _ (by decide) (by decide) (mt String.toList_inj.mp noBegin),
      apart _ (by decide) (by decide) (mt String.toList_inj.mp noEnd)⟩
  sendable := by
    intro v member
    cases schema : schema? p.name with
    | none =>
      obtain ⟨w, value, sendable⟩ := shaped.flat schema
      obtain rfl : w = v := Option.some_inj.mp (value.symm.trans member)
      exact sendable
    | some names =>
      have value := shaped.structured (by simp [schema])
      simp [value] at member
  attributes := fun a member => (shaped.whole a member).toWritable
  structured := shaped.structured

private theorem kept_whole (a : Attribute) (whole : a.Whole) : keptAttribute a = a := by
  obtain ⟨name, value⟩ := a
  cases value with
  | none => rfl
  | some v =>
    obtain ⟨s, rfl, bare⟩ := whole.text v rfl
    have kept : keptValue s.toList = s.toList := by
      apply List.filter_eq_self.mpr
      intro c member
      rcases bare c member with plain | feed <;> simp [*]
    simp [keptAttribute, Attribute.text?, Value.toText, kept]

theorem reread (shaped : WireShaped p) : reread p = delivered p := by
  have attributes : (parameters p).map keptAttribute ++ presentComponents p = p.attributes := by
    rw [List.map_congr_left fun a member => kept_whole a (shaped.whole a member), List.map_id',
      ← (arranged_iff p).mp shaped.arranged]
  have value : (if schema? p.name = none then some (sentValue p) else none) =
      p.value.map received := by
    cases schema : schema? p.name with
    | none =>
      obtain ⟨v, value, -⟩ := shaped.flat schema
      have noComponents : hasComponents p = false := by simp [hasComponents, components, schema]
      simp [sentValue, noComponents, value]
    | some names => simp [shaped.structured (by simp [schema])]
  rw [Property.reread, attributes, value, delivered]

end WireShaped

end Property

/-- Records of the wire's shape are parsed back from their text. -/
theorem parse_render_shaped (records : List (List Property))
    (shaped : ∀ ps ∈ records, ∀ p ∈ ps, Property.WireShaped p) :
    parse (render (records.map (Record.mk vcard))) =
      .ok (records.map fun ps => ⟨vcard, (versioned ps).map Property.delivered⟩) := by
  have reread (ps : List Property) (member : ps ∈ records) :
      (versioned ps).map Property.reread = (versioned ps).map Property.delivered := by
    have version : Property.reread versionProperty = Property.delivered versionProperty := by
      decide
    exact List.map_congr_left (versioned_all ps (fun p own => (shaped ps member p own).reread)
      version)
  rw [parse_render records fun ps member p own => (shaped ps member p own).writable]
  exact congrArg _ (List.map_congr_left fun ps member => by rw [reread ps member])

def shapedRecords : List (List Property) :=
  [[{ group := some "item1", name := "NOTE", value := some (.text "one\ntwo\u00EB")
      attributes := [.marker "HOME", .ofText "TYPE" "a;\"b\"\nc"] },
    { name := "N"
      attributes := [.marker "PREF", .ofText "F" "Smith;Jones", .ofText "SUF" "\r\n"] },
    { name := "PHOTO", value := some (.octets [0xFF, 0x0A] (some "x^1,y z")) }],
  [.ofText "VERSION" "3.0", .ofText "FN" "END:VCARD"]]

theorem parse_render_shapedRecords :
    (∀ ps ∈ shapedRecords, ∀ p ∈ ps, Property.WireShaped p) ∧
    parse (render (shapedRecords.map (Record.mk vcard))) =
      .ok (shapedRecords.map fun ps => ⟨vcard, (versioned ps).map Property.delivered⟩) := by
  have shaped : ∀ ps ∈ shapedRecords, ∀ p ∈ ps, Property.WireShaped p := by decide +kernel
  exact ⟨shaped, parse_render_shaped shapedRecords shaped⟩

end Wire

end CardFile
