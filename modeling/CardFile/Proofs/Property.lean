import CardFile.Card.Decode
import CardFile.Proofs.ContentLine
import CardFile.Proofs.Document
import CardFile.Proofs.Structured
import CardFile.Proofs.Transfer
import CardFile.Wire.Writer

/-!
Properties read back from their lines. The names of a property's parameters are written as they
are, and so is the label of a charset, so a property is asked for those that the grammar can read;
its texts and its octets may be any.
-/
namespace CardFile

def Attribute.toParameter (a : Attribute) : Wire.Parameter :=
  ⟨a.name, a.text?⟩

structure Attribute.Writable (a : Attribute) : Prop where
  name : Wire.WritableName a.name.toList
  ordinary : Wire.OrdinaryParameter a.toParameter

instance (a : Attribute) : Decidable a.Writable :=
  decidable_of_iff (Wire.WritableName a.name.toList ∧ Wire.OrdinaryParameter a.toParameter)
    ⟨fun ⟨name, ordinary⟩ => ⟨name, ordinary⟩, fun writable => ⟨writable.name, writable.ordinary⟩⟩

namespace Wire

private theorem writeParameter_written (a : Attribute) :
    writeParameter a = a.toParameter.written := by
  cases text : a.text? <;>
    simp [writeParameter, Parameter.written, Attribute.toParameter, text]

namespace Property

structure Titled (p : CardFile.Property) : Prop where
  grouped : ∀ g ∈ p.group, isName g.toList = true
  named : isName p.name.toList = true
  capitals : p.name.toList.map Char.toUpper = p.name.toList
  sendable : ∀ v ∈ p.value, Sendable v

structure Named (p : CardFile.Property) : Prop extends Titled p where
  inside : isBoundaryName p.name.toList = false

/-- A property that its line gives back: its parameters can be written, and a structured property
has no value of its own. -/
structure Writable (p : CardFile.Property) : Prop extends Named p where
  attributes : ∀ a ∈ parameters p, a.Writable
  structured : schema? p.name ≠ none → p.value = none

/-- What stands on a line between the name and the value. -/
def lineTail (p : CardFile.Property) : List Char :=
  ((parameters p).map Attribute.toParameter).flatMap Parameter.written ++ (payload p).parameters

/-- A property that its line gives back if the line is none of a block. The names of its parameters
may hold double quotes, as long as these hide no colon that the line is read by. -/
structure Legible (p : CardFile.Property) : Prop extends Titled p where
  names : ∀ a ∈ parameters p, ParameterName a.name.toList
  ordinary : ∀ a ∈ parameters p, OrdinaryParameter a.toParameter
  closed : quotedAfter false (lineTail p) = some false
  structured : schema? p.name ≠ none → p.value = none

theorem line_eq (p : CardFile.Property) :
    line p = writtenGroup p.group ++ p.name.toList ++ lineTail p ++ ':' :: (payload p).value := by
  have own : (parameters p).flatMap writeParameter =
      ((parameters p).map Attribute.toParameter).flatMap Parameter.written := by
    rw [List.flatMap_map, funext writeParameter_written]
  rw [lineTail, ← own]
  cases group : p.group <;> simp [line, writtenGroup, group]

def sentValue (p : CardFile.Property) : Value :=
  if hasComponents p then transferValue (structuredText p)
  else (p.value.map received).getD (.text "")

theorem carries_payload (p : CardFile.Property) (sendable : ∀ v ∈ p.value, Sendable v) :
    ∃ ps, (payload p).Carries ps (sentValue p) := by
  rw [payload, sentValue]
  split
  · exact Payload.carries_text _
  · cases value : p.value with
    | none => exact Payload.carries_text []
    | some v =>
      cases v with
      | text s => exact Payload.carries_text s.toList
      | octets bytes charset =>
        exact ⟨_, Payload.carries_octets charset (sendable _ value) bytes⟩

private theorem separator_tail (p : CardFile.Property) (sendable : ∀ v ∈ p.value, Sendable v) :
    ∀ c ∈ (lineTail p).head?, c = ';' := by
  obtain ⟨ps, carries⟩ := carries_payload p sendable
  have own := head_written ((parameters p).map Attribute.toParameter)
  intro c first
  rw [lineTail, List.head?_append] at first
  rcases Option.or_eq_some_iff.mp first with head | ⟨-, head⟩
  · exact own c head
  · exact carries.separator c head

private theorem name_head (name rest : List Char) (named : isName name = true) :
    ∃ c ∈ (name ++ rest).head?, Text.isBlank c = false := by
  cases name with
  | nil => simp [isName] at named
  | cons c name => exact ⟨c, by simp, isName_solid (c :: name) named c (by simp)⟩

private theorem line_start (p : CardFile.Property) (titled : Titled p) :
    ∃ c ∈ (line p).head?, Text.isBlank c = false := by
  rw [line_eq]
  simp only [List.append_assoc]
  cases group : p.group with
  | none => exact name_head p.name.toList _ titled.named
  | some g =>
    rw [writtenGroup, List.append_assoc]
    exact name_head g.toList _ (titled.grouped g group)

private theorem payload_absent (p : CardFile.Property) (sendable : ∀ v ∈ p.value, Sendable v)
    (c : Char) (control : Text.isControl c = true) (noTab : c ≠ '\t') :
    c ∉ (payload p).value := by
  obtain ⟨ps, carries⟩ := carries_payload p sendable
  intro member
  rcases carries.held c member with tab | other
  · exact noTab tab
  · simp [control] at other

private theorem tail_single (p : CardFile.Property) (sendable : ∀ v ∈ p.value, Sendable v)
    (single : ∀ a ∈ parameters p, '\n' ∉ a.name.toList) : '\n' ∉ lineTail p := by
  obtain ⟨ps, carries⟩ := carries_payload p sendable
  have own : '\n' ∉ ((parameters p).map Attribute.toParameter).flatMap Parameter.written := by
    apply parameters_single
    intro q member
    obtain ⟨a, present, rfl⟩ := List.mem_map.mp member
    exact single a present
  rw [lineTail, List.mem_append, not_or]
  exact ⟨own, carries.single⟩

theorem plain_line (p : CardFile.Property) (titled : Titled p)
    (single : ∀ a ∈ parameters p, '\n' ∉ a.name.toList) : PlainLine (line p) := by
  have noFeed := tail_single p titled.sendable single
  obtain ⟨c, head, solid⟩ := line_start p titled
  rw [line_eq p] at head ⊢
  refine ⟨?_, ?_, c, head, solid⟩
  · simp only [List.mem_append, List.mem_cons, not_or]
    refine ⟨⟨⟨?_, isName_absent _ '\n' titled.named (by decide)⟩, noFeed⟩, by decide, ?_⟩
    · exact group_single p.group titled.grouped
    · exact payload_absent p titled.sendable '\n' (by decide) (by decide)
  · rw [List.getLast?_append_of_ne_nil _ (by simp), List.getLast?_cons]
    cases last : (payload p).value.getLast? with
    | none => simp
    | some c =>
      rintro ⟨⟩
      exact payload_absent p titled.sendable '\r' (by decide) (by decide)
        (List.mem_of_getLast? last)

/-- What follows the name on a line begins with a separator. -/
theorem stop_tail (p : CardFile.Property) (sendable : ∀ v ∈ p.value, Sendable v) :
    ∃ c ∈ (lineTail p ++ ':' :: (payload p).value).head?, c = ';' ∨ c = ':' := by
  have separator := separator_tail p sendable
  cases tail : lineTail p with
  | nil => exact ⟨':', by simp, Or.inr rfl⟩
  | cons c rest => exact ⟨c, by simp, Or.inl (separator c (by simp [tail]))⟩

/-- The line of a property opens and closes no block, whatever its parameters are. -/
theorem boundary_line (p : CardFile.Property) (named : Named p) :
    Boundary.ofLine? (line p) = none := by
  rw [line_eq p, List.append_assoc]
  exact boundary_of_property p.group p.name.toList _ named.grouped named.named named.inside
    (stop_tail p named.sendable)

def keptAttribute (a : Attribute) : Attribute :=
  { name := a.name, value := a.text?.map fun text => .text (String.ofList (keptValue text.toList)) }

def presentComponents (p : CardFile.Property) : List Attribute :=
  (components p).filterMap fun name =>
    if (component p name).isEmpty then none else some (.ofText name (component p name))

/-- A property as its line reads. -/
def reread (p : CardFile.Property) : CardFile.Property where
  group := p.group
  name := p.name
  value := if schema? p.name = none then some (sentValue p) else none
  attributes := (parameters p).map keptAttribute ++ presentComponents p

private theorem component_default (p : CardFile.Property) (none : hasComponents p = false)
    (name : String) (member : name ∈ components p) : component p name = "" := by
  rw [component, Property.attribute?, List.find?_eq_none.mpr]
  · rfl
  · intro a present named
    obtain rfl : a.name = name := by simpa using named
    rw [hasComponents, List.any_eq_false] at none
    simpa [member] using none a present

private theorem componentsOf_join (names : List String) (text : String → String)
    (filled : names ≠ []) :
    ContentLine.componentsOf names
      (transferValue (joinComponents (names.map fun name => (text name).toList))) =
    names.filterMap fun name =>
      if (text name).isEmpty then none else Option.some (.ofText name (text name)) := by
  rw [ContentLine.componentsOf, toText_transferValue, String.toList_ofList,
    splitComponents_join _ (by simpa using filled), ← List.map_prod_left_eq_zip,
    List.filterMap_map]
  apply List.filterMap_congr
  intro name _
  simp

private theorem names_some (name : String) (names : List String)
    (schema : schema? name = some names) :
    names ≠ [] := by
  unfold schema? at schema
  split at schema <;> cases schema <;> simp

private theorem componentsOf_sent (p : CardFile.Property) (names : List String)
    (schema : schema? p.name = some names) (none : p.value = none) :
    ContentLine.componentsOf names (sentValue p) = presentComponents p := by
  have own : components p = names := by simp [components, schema]
  rw [sentValue]
  split
  · rw [structuredText, own, componentsOf_join _ _ (names_some p.name names schema),
      presentComponents, own]
  · rename_i missing
    have absent : presentComponents p = [] := by
      rw [presentComponents, List.filterMap_eq_nil_iff]
      intro name member
      simp [component_default p (by simpa using missing) name member]
    rw [absent, none, ContentLine.componentsOf]
    cases names <;> simp [splitComponents, Value.toText]

private theorem kept_ordinary (p : CardFile.Property) (legible : Legible p) :
    ∀ q ∈ ((parameters p).map Attribute.toParameter).map Parameter.kept, OrdinaryParameter q := by
  intro q member
  obtain ⟨r, own, rfl⟩ := List.mem_map.mp member
  obtain ⟨a, present, rfl⟩ := List.mem_map.mp own
  exact (legible.ordinary a present).kept

private theorem toProperty_sent (p : CardFile.Property) (legible : Legible p)
    (ps : List Parameter) (carries : (payload p).Carries ps (sentValue p)) :
    ContentLine.toProperty ⟨p.group, p.name,
      ((parameters p).map Attribute.toParameter).map Parameter.kept ++ ps, (payload p).value⟩ =
      reread p := by
  have ordinary := kept_ordinary p legible
  have own : (((parameters p).map Attribute.toParameter).map Parameter.kept).map
      (fun q => ({ name := q.name, value := q.value.map .text } : Attribute)) =
      (parameters p).map keptAttribute := by
    simp [Attribute.toParameter, Parameter.kept, keptAttribute, Function.comp_def]
  rw [ContentLine.toProperty, List.filterMap_append, attributes_ordinary _ ordinary,
    carries.consumed, List.append_nil, carries.decoded _ _ _ ordinary, own]
  cases schema : schema? p.name with
  | none =>
    have noComponents : presentComponents p = [] := by
      simp [presentComponents, components, schema]
    simp [reread, schema, noComponents]
  | some names =>
    have value := legible.structured (by simp [schema])
    simp [reread, schema, componentsOf_sent p names schema value]

/-- A legible property is read from its line as what the line keeps of it, unless the line is one
of a block. -/
theorem reads_legible (p : CardFile.Property) (legible : Legible p)
    (inner : isInner (line p) = true) : Reads (line p) (reread p) := by
  obtain ⟨ps, carries⟩ := carries_payload p legible.sendable
  have names : ∀ q ∈ (parameters p).map Attribute.toParameter, ParameterName q.name.toList := by
    intro q member
    obtain ⟨a, present, rfl⟩ := List.mem_map.mp member
    exact legible.names a present
  have read := readParameters_append _ names _ carries.separator
  rw [carries.read] at read
  refine ⟨plain_line p legible.toTitled fun a member feed =>
    ((legible.names a member).chars '\n' feed).1 rfl, inner, ?_⟩
  refine ⟨⟨p.group, p.name,
    ((parameters p).map Attribute.toParameter).map Parameter.kept ++ ps, (payload p).value⟩,
    ?_, carries.complete _ _ _ (kept_ordinary p legible), toProperty_sent p legible ps carries⟩
  rw [line_eq, read_parts p.group p.name legible.grouped legible.named legible.capitals _ _
    (separator_tail p legible.sendable) legible.closed, lineTail, read]
  rfl

theorem Writable.legible {p : CardFile.Property} (writable : Writable p) : Legible p where
  toTitled := writable.toTitled
  names := fun a member => (writable.attributes a member).name.toParameterName
  ordinary := fun a member => (writable.attributes a member).ordinary
  closed := by
    obtain ⟨ps, carries⟩ := carries_payload p writable.sendable
    have own : quotedAfter false
        (((parameters p).map Attribute.toParameter).flatMap Parameter.written) = some false := by
      apply quotedAfter_parameters
      intro q member
      obtain ⟨a, present, rfl⟩ := List.mem_map.mp member
      exact (writable.attributes a present).name
    rw [lineTail, quotedAfter_append, own, Option.bind_some, carries.closed]
  structured := writable.structured

/-- A property that can be written is read from its line as what the line keeps of it. -/
theorem reads_line (p : CardFile.Property) (writable : Writable p) :
    Reads (line p) (reread p) :=
  reads_legible p writable.legible (isInner_none _ (boundary_line p writable.toNamed))

end Property

def versionProperty : Property :=
  .ofText "VERSION" "2.1"

def versioned (ps : List Property) : List Property :=
  if ps.any (·.name == "VERSION") then ps else versionProperty :: ps

theorem writable_version : Property.Writable versionProperty where
  grouped := by simp [versionProperty, Property.ofText]
  named := by decide
  capitals := by decide
  inside := by decide
  sendable := by simp [versionProperty, Property.ofText, Sendable]
  attributes := by simp [versionProperty, Property.ofText, Property.parameters]
  structured := fun structured => absurd rfl structured

theorem recordLines_block (ps : List Property) :
    recordLines ⟨vcard, ps⟩ = block ((versioned ps).map Property.line) := by
  have first : "BEGIN:".toList ++ vcard.toList = beginLine := by decide
  have last : "END:".toList ++ vcard.toList = endLine := by decide
  have version : Property.line versionProperty = "VERSION:2.1".toList := by decide
  rw [recordLines, versioned, block, first, last]
  split <;> simp [version]

theorem versioned_all {P : Property → Prop} (ps : List Property) (all : ∀ p ∈ ps, P p)
    (version : P versionProperty) : ∀ p ∈ versioned ps, P p := by
  intro p member
  rw [versioned] at member
  split at member
  · exact all p member
  · rcases List.mem_cons.mp member with rfl | own
    · exact version
    · exact all p own

/-- Records are parsed back if each property can be read from its line by itself. -/
theorem parse_reads (records : List (List Property))
    (reads : ∀ ps ∈ records, ∀ p ∈ ps, Reads (Property.line p) (Property.reread p)) :
    parse (render (records.map (Record.mk vcard))) =
      .ok (records.map fun ps => ⟨vcard, (versioned ps).map Property.reread⟩) := by
  have blocks : (records.map (Record.mk vcard)).flatMap recordLines =
      (records.map fun ps => (versioned ps).map Property.line).flatMap block := by
    simp only [List.flatMap_map, recordLines_block]
  have version := Property.reads_line versionProperty writable_version
  have lines : List.Forall₂ (List.Forall₂ Reads)
      (records.map fun ps => (versioned ps).map Property.line)
      (records.map fun ps => (versioned ps).map Property.reread) := by
    rw [List.forall₂_map_left_iff, List.forall₂_map_right_iff, List.forall₂_same]
    intro ps member
    rw [List.forall₂_map_left_iff, List.forall₂_map_right_iff, List.forall₂_same]
    exact versioned_all ps (reads ps member) version
  rw [render, blocks, parse_blocks _ _ lines, List.map_map]
  rfl

/-- Records whose properties can be written are parsed back, each property as its line reads. -/
theorem parse_render (records : List (List Property))
    (writable : ∀ ps ∈ records, ∀ p ∈ ps, Property.Writable p) :
    parse (render (records.map (Record.mk vcard))) =
      .ok (records.map fun ps => ⟨vcard, (versioned ps).map Property.reread⟩) :=
  parse_reads records fun ps member p own => Property.reads_line p (writable ps member p own)

end Wire

end CardFile
