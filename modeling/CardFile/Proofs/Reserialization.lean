import CardFile.Proofs.ReadNames
import CardFile.Proofs.WireShape

/-!
Parsed texts written again. Reading gives a property a group and names of the grammar, and no
parameter among its attributes that declares a transfer. What it does not give is told by
`Contained`: double quotes in the names of parameters, the label of a charset, a line that looks
like a boundary once its parameters are used up, and parameters that bear a component's name are
written as they are. Each of the four alters a text where it interferes; where none does, the
records come back, up to the control characters that parameters cannot hold.
-/
namespace CardFile.Wire

theorem ordinary_attribute (q : Parameter) (a : Attribute) (made : attributeOf? q = some a) :
    a.toParameter = q ∧ OrdinaryParameter q := by
  rw [attributeOf?] at made
  split at made
  · cases made
  · rename_i unused
    cases made
    obtain ⟨transfer, charset⟩ : Transfer.ofParameter? q = none ∧ charsetOf? q = none := by
      simpa using unused
    obtain ⟨name, value⟩ := q
    cases value with
    | none =>
      refine ⟨rfl, fun _ => ?_, fun valued => absurd rfl valued⟩
      rw [Transfer.ofParameter?] at transfer
      cases label : Transfer.ofLabel name <;> simp [label] at transfer ⊢
    | some value =>
      refine ⟨rfl, fun absent => (Option.some_ne_none _ absent).elim, fun _ => ?_⟩
      simp [Transfer.ofParameter?, charsetOf?] at transfer charset
      exact ⟨transfer, charset⟩

namespace Property

/-- What the line of a property asks of it beyond what reading gives: the quotes before its value
hide no colon, the label of its charset stands there as it is, the line is none of a block, and no
parameter takes the place of a component. -/
structure Contained (p : CardFile.Property) : Prop where
  closed : quotedAfter false (lineTail p) = some false
  sendable : ∀ v ∈ p.value, Sendable v
  inner : isInner (line p) = true
  arranged : Arranged p

/-- A line that is read as one property, whose own line is read as others. -/
def Alters (written : String) (p : CardFile.Property) (others : List CardFile.Property) : Prop :=
  parse ("BEGIN:VCARD\r\n" ++ written ++ "\r\nEND:VCARD\r\n") = .ok [⟨vcard, [p]⟩] ∧
    parse (render [⟨vcard, [p]⟩]) = .ok [⟨vcard, versionProperty :: others⟩]

instance (written : String) (p : CardFile.Property) (others : List CardFile.Property) :
    Decidable (Alters written p others) :=
  inferInstanceAs (Decidable (_ ∧ _))

/-- A value is written without the quote that closed the one in a name, and hides the colon. -/
theorem alters_unclosed : Alters "TEL;k\";TYPE=a\"b:1"
    { name := "TEL", value := some (.text "1")
      attributes := [.marker "k\"", .ofText "TYPE" "ab"] } [] := by
  decide +kernel

/-- A label that is not sendable can have lines of its own. -/
theorem alters_label : Alters "NOTE;CHARSET=\"x^nTEL:911^nNOTE\";QUOTED-PRINTABLE:hi"
    { name := "NOTE", value := some (.octets [0x68, 0x69] (some "x\nTEL:911\nNOTE")) }
    [.ofText "TEL" "911", { name := "NOTE", value := some (.octets [0x68, 0x69] none) }] := by
  decide +kernel

/-- Without the parameter that made it no boundary, the line ends the record. -/
theorem alters_boundary : Alters "END;ENCODING=8BIT:VCARD" (.ofText "END" "VCARD") [] := by
  decide +kernel

/-- A parameter takes the place of the component of its name, and both are lost. -/
theorem alters_component : Alters "N;F:Smith;Jon"
    { name := "N", attributes := [.marker "F", .ofText "F" "Smith", .ofText "G" "Jon"] }
    [{ name := "N", attributes := [.ofText "G" "Jon"] }] := by
  decide +kernel

/-- An attribute as the line of its property holds it: components entirely, and parameters without
the control characters that have no written form. -/
def heldAttribute (p : CardFile.Property) (a : Attribute) : Attribute :=
  if (components p).contains a.name then a else keptAttribute a

/-- One property has the group, the name, the text and the attributes of another, as far as a line
holds them. -/
structure Preserved (p q : CardFile.Property) : Prop where
  group : q.group = p.group
  name : q.name = p.name
  text : q.text? = p.text?
  attributes : q.attributes = p.attributes.map (heldAttribute p)

section Read

variable (line : ContentLine) (wellRead : line.WellRead)

theorem parameters_toProperty :
    ∀ a ∈ parameters line.toProperty, a ∈ line.parameters.filterMap attributeOf? := by
  intro a member
  obtain ⟨present, apart⟩ := List.mem_filter.mp member
  rw [components, toProperty_name] at apart
  rw [ContentLine.toProperty] at present
  cases schema : schema? line.name with
  | none => simpa [schema] using present
  | some names =>
    rw [schema] at present
    rcases List.mem_append.mp present with own | component
    · exact own
    · obtain ⟨⟨name, part⟩, zipped, made⟩ := List.mem_filterMap.mp component
      dsimp only at made
      split at made
      · cases made
      · cases made
        simp [schema, Attribute.ofText, (List.of_mem_zip zipped).1] at apart

theorem structured_toProperty (structured : schema? line.toProperty.name ≠ none) :
    line.toProperty.value = none := by
  rw [toProperty_name] at structured
  cases schema : schema? line.name with
  | none => exact absurd schema structured
  | some names => simp [ContentLine.toProperty, schema]

theorem flat_toProperty (flat : schema? line.toProperty.name = none) :
    line.toProperty.value = some line.decodedValue := by
  rw [toProperty_name] at flat
  simp [ContentLine.toProperty, flat]

include wellRead

theorem legible_toProperty (contained : Contained line.toProperty) :
    Legible line.toProperty := by
  refine ⟨⟨?_, ?_, ?_, contained.sendable⟩, ?_, ?_, contained.closed, structured_toProperty line⟩
  · rw [toProperty_group]
    exact wellRead.grouped
  · rw [toProperty_name]
    exact wellRead.named
  · rw [toProperty_name]
    exact wellRead.capitals
  · exact fun a member => name_attributes line wellRead a (parameters_toProperty line a member)
  · intro a member
    obtain ⟨q, -, made⟩ := List.mem_filterMap.mp (parameters_toProperty line a member)
    obtain ⟨same, ordinary⟩ := ordinary_attribute q a made
    rwa [same]

end Read

/-- The line of a contained property preserves it. -/
theorem preserved_reread (p : CardFile.Property) (arranged : Arranged p)
    (structured : schema? p.name ≠ none → p.value = none)
    (flat : schema? p.name = none → p.value ≠ none) : Preserved p (reread p) where
  group := rfl
  name := rfl
  text := by
    cases schema : schema? p.name with
    | none =>
      obtain ⟨v, value⟩ := Option.ne_none_iff_exists'.mp (flat schema)
      have noComponents : hasComponents p = false := by simp [hasComponents, components, schema]
      simp [reread, Property.text?, schema, sentValue, noComponents, value, toText_received]
    | some names =>
      have value := structured (by simp [schema])
      simp [reread, Property.text?, schema, value]
  attributes := by
    have own : (parameters p).map (heldAttribute p) = (parameters p).map keptAttribute := by
      refine List.map_congr_left fun a member => ?_
      have apart : (components p).contains a.name = false := by
        simpa using (List.mem_filter.mp member).2
      rw [heldAttribute, apart, if_neg Bool.false_ne_true]
    have others : (presentComponents p).map (heldAttribute p) = presentComponents p := by
      refine (List.map_congr_left fun a member => ?_).trans (List.map_id _)
      have name : a.name ∈ components p :=
        (presentComponents_list p).ordered.subset (List.mem_map_of_mem member)
      rw [heldAttribute, List.contains_iff_mem.mpr name, if_pos rfl, id]
    rw [(arranged_iff p).mp arranged, List.map_append, own, others, reread]

end Property

/-- One record has the name of another, and its properties are related to those of the other, with
a version put first where there was none. -/
structure Record.Matches (related : Property → Property → Prop) (r r' : Record) : Prop where
  name : r'.name = r.name
  properties : List.Forall₂ related (versioned r.properties) r'.properties

/-- The records of a text come back from their own text if the line of each property contains it:
the same records, and every property preserved. -/
theorem parse_render_parsed (text : String) (rs : List Record) (parsed : parse text = .ok rs)
    (contained : ∀ r ∈ rs, ∀ p ∈ r.properties, Property.Contained p) :
    ∃ rs', parse (render rs) = .ok rs' ∧
      List.Forall₂ (Record.Matches Property.Preserved) rs rs' := by
  have made := madeOf_parse wellRead_invariant text rs parsed
  have named : rs = (rs.map (·.properties)).map (Record.mk vcard) := by
    rw [List.map_map]
    refine (List.map_id rs).symm.trans (List.map_congr_left fun r member => ?_)
    exact congrArg (Record.mk · r.properties) (made r member).name
  have reads : ∀ ps ∈ rs.map (·.properties), ∀ p ∈ ps,
      Reads (Property.line p) (Property.reread p) := by
    intro ps group p own
    obtain ⟨r, member, rfl⟩ := List.mem_map.mp group
    obtain ⟨line, wellRead, rfl⟩ := (made r member).properties p own
    have whole := contained r member _ own
    exact Property.reads_legible _ (Property.legible_toProperty line wellRead whole) whole.inner
  have preserved : ∀ r ∈ rs, ∀ p ∈ versioned r.properties,
      Property.Preserved p (Property.reread p) := by
    intro r member
    apply versioned_all
    · intro p own
      obtain ⟨line, -, rfl⟩ := (made r member).properties p own
      exact Property.preserved_reread _ (contained r member _ own).arranged
        (Property.structured_toProperty line) fun flat => by
          simp [Property.flat_toProperty line flat]
    · exact Property.preserved_reread _ (by decide) (by decide) (by decide)
  have again := parse_reads _ reads
  rw [← named, List.map_map] at again
  refine ⟨_, again, List.forall₂_map_right_iff.mpr (List.forall₂_same.mpr fun r member => ?_)⟩
  refine ⟨(made r member).name.symm, List.forall₂_map_right_iff.mpr (List.forall₂_same.mpr ?_)⟩
  exact preserved r member

def tabbedText : String :=
  "BEGIN:VCARD\r\nTEL;TYPE=a\tb:1\r\nEND:VCARD\r\n"

def tabbedNumber : Property :=
  { Property.ofText "TEL" "1" with attributes := [.ofText "TYPE" "a\tb"] }

private theorem reads_tabbedNumber : Reads "TEL;TYPE=a\tb:1".toList tabbedNumber where
  plain := ⟨by decide, by decide, 'T', rfl, by decide⟩
  inner := by decide
  content := by
    have value : readValue false "a\tb".toList = ("a\tb".toList, []) := by rfl
    have type := readParameters_valued "TYPE".toList _ _ _
      (isName_writable "TYPE".toList (by decide)).toParameterName value
    have line := read_parts none "TEL" (by simp) (by decide) (by decide) ";TYPE=a\tb".toList ['1']
      (by simp) (by decide)
    have none : readParameters [] = .ok [] := by simp [readParameters]
    have tail : ";TYPE=a\tb".toList.tail = "TYPE".toList ++ '=' :: "a\tb".toList := by decide
    rw [tail, type, none] at line
    exact ⟨_, line, fun incomplete => absurd incomplete.1 (by decide), by decide⟩

theorem parse_tabbedText : parse tabbedText = .ok [⟨vcard, [tabbedNumber]⟩] := by
  have parsed := parse_blocks [["TEL;TYPE=a\tb:1".toList]] [[tabbedNumber]]
    (.cons (.cons reads_tabbedNumber .nil) .nil)
  have text : String.ofList (([["TEL;TYPE=a\tb:1".toList]].flatMap block).flatMap fold) =
      tabbedText := by
    decide
  rwa [text] at parsed

private theorem contained_tabbedNumber : Property.Contained tabbedNumber :=
  ⟨by decide, by simp [tabbedNumber, Property.ofText, Sendable], by decide, by decide⟩

theorem parse_render_parsed_tabbedText : parse tabbedText = .ok [⟨vcard, [tabbedNumber]⟩] ∧
    (∀ r ∈ [Record.mk vcard [tabbedNumber]], ∀ p ∈ r.properties, Property.Contained p) ∧
    ∃ rs', parse (render [⟨vcard, [tabbedNumber]⟩]) = .ok rs' ∧
      List.Forall₂ (Record.Matches Property.Preserved) [⟨vcard, [tabbedNumber]⟩] rs' := by
  have contained : ∀ r ∈ [Record.mk vcard [tabbedNumber]], ∀ p ∈ r.properties,
      Property.Contained p := by
    simpa using contained_tabbedNumber
  exact ⟨parse_tabbedText, contained,
    parse_render_parsed tabbedText _ parse_tabbedText contained⟩

structure Property.Same (p q : CardFile.Property) : Prop where
  group : q.group = p.group
  name : q.name = p.name
  text : q.text? = p.text?
  attributes : q.attributes.map (fun a => (a.name, a.text?)) =
    p.attributes.map fun a => (a.name, a.text?)

/-- A tab in the value of a parameter is read, and not written again. -/
theorem parse_render_loses : ¬∀ text rs, parse text = .ok rs →
    ∃ rs', parse (render rs) = .ok rs' ∧ List.Forall₂ (Record.Matches Property.Same) rs rs' := by
  intro preserves
  obtain ⟨rs', again, same⟩ := preserves tabbedText _ parse_tabbedText
  have writable : Property.Writable tabbedNumber :=
    ⟨⟨⟨by simp [tabbedNumber, Property.ofText], by decide, by decide,
      contained_tabbedNumber.sendable⟩, by decide⟩, by decide, by decide⟩
  have read := parse_render [[tabbedNumber]] (by simpa using writable)
  obtain rfl := Except.ok.inj (again.symm.trans read)
  have properties := (List.forall₂_cons.mp same).1.properties
  have attributes := (List.forall₂_cons.mp (List.forall₂_cons.mp properties).2).1.attributes
  revert attributes
  decide

end CardFile.Wire
