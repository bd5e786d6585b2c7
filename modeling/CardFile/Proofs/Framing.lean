import CardFile.Proofs.OnWire

/-!
The framing of records. Values are escaped, and no text in one can break a record; the keys of
arbitrary entries are not. A key may open a double quote or ask for a transfer encoding, and what
then becomes of the entry, or of the property after it, is told here: a record keeps the properties
of its card exactly if the line of every entry stands by itself.
-/
namespace CardFile

namespace Wire

/-- The names of the properties that a reader has taken in, or is about to, since the record was
opened. -/
inductive Place.Holds : Place → List String → Prop
  | inside (r : OpenRecord) : Holds (.inside r) (r.properties.map (·.name))
  | continuing (r : OpenRecord) (line : ContentLine) :
    Holds (.continuing r line) (r.properties.map (·.name) ++ [line.name])

/-- A property whose line can be read and asks for no other line to continue it. -/
def Property.Stands (p : CardFile.Property) : Prop :=
  ∃ content, ContentLine.read (Property.line p) = .ok content ∧ content.IsComplete

theorem holds_take (r : OpenRecord) (line : ContentLine) :
    (r.take line).Holds (r.properties.map (·.name) ++ [line.name]) := by
  rw [OpenRecord.take]
  split
  · exact .continuing r _
  · simpa [OpenRecord.add, toProperty_name] using Place.Holds.inside (r.add line)

section Step

variable (records : List Record) (count : Nat) (line : List Char)
variable (noBoundary : Boundary.ofLine? line = none)

include noBoundary

theorem step_inside (r : OpenRecord) (content : ContentLine)
    (ok : ContentLine.read line = .ok content) :
    Reader.step ⟨records, count, .inside r⟩ line = ⟨records, count + 1, r.take content⟩ := by
  simp [Reader.step, Reader.stepInside, noBoundary, ok]

theorem step_faulty (r : OpenRecord) (fault : LineFault)
    (error : ContentLine.read line = .error fault) :
    Reader.step ⟨records, count, .inside r⟩ line = ⟨records, count + 1, .inside r⟩ := by
  simp [Reader.step, Reader.stepInside, noBoundary, error]

theorem step_continuing (r : OpenRecord) (waiting : ContentLine) :
    Reader.step ⟨records, count, .continuing r waiting⟩ line =
      ⟨records, count + 1, r.take { waiting with value := waiting.value ++ line }⟩ := by
  simp [Reader.step, noBoundary]

end Step

theorem step_close (records : List Record) (count : Nat) (place : Place) (names : List String)
    (holds : place.Holds names) :
    ∃ r, Reader.step ⟨records, count, place⟩ endLine = ⟨records ++ [r], count + 1, .outside⟩ ∧
      r.properties.map (·.name) = names := by
  cases holds with
  | inside r => exact ⟨r.close, step_end records count r, rfl⟩
  | continuing r line =>
    refine ⟨(r.add line).close, ?_, ?_⟩
    · rw [← step_end]
      simp [Reader.step, boundary_end]
      rfl
    · simp [OpenRecord.add, OpenRecord.close, toProperty_name]

/-- Lines inside a record add at most one name each. -/
theorem run_bound (lines : List (List Char))
    (noBoundary : ∀ line ∈ lines, Boundary.ofLine? line = none) (records : List Record)
    (count : Nat) (place : Place) (names : List String) (holds : place.Holds names) :
    ∃ after place' more, lines.foldl Reader.step ⟨records, count, place⟩ =
      ⟨records, after, place'⟩ ∧ place'.Holds (names ++ more) ∧ more.length ≤ lines.length := by
  induction lines generalizing count place names with
  | nil => exact ⟨count, place, [], rfl, by simpa using holds, by simp⟩
  | cons line lines ih =>
    have first := noBoundary line (by simp)
    have others : ∀ l ∈ lines, Boundary.ofLine? l = none := fun l member =>
      noBoundary l (by simp [member])
    have next (place' : Place) (added : List String) (short : added.length ≤ 1)
        (step : Reader.step ⟨records, count, place⟩ line = ⟨records, count + 1, place'⟩)
        (holds' : place'.Holds (names ++ added)) :
        ∃ after place'' more, (line :: lines).foldl Reader.step ⟨records, count, place⟩ =
          ⟨records, after, place''⟩ ∧ place''.Holds (names ++ more) ∧
          more.length ≤ (line :: lines).length := by
      obtain ⟨after, place'', more, run, final, bound⟩ := ih others (count + 1) place' _ holds'
      refine ⟨after, place'', added ++ more, ?_, ?_, ?_⟩
      · rw [List.foldl_cons, step, run]
      · rwa [List.append_assoc] at final
      · simp only [List.length_append, List.length_cons]
        omega
    cases holds with
    | inside r =>
      cases read : ContentLine.read line with
      | ok content =>
        exact next _ [content.name] (by simp) (step_inside records count line first r content read)
          (holds_take r content)
      | error fault =>
        exact next _ [] (by simp) (step_faulty records count line first r fault read)
          (by simpa using Place.Holds.inside r)
    | continuing r waiting =>
      exact next _ [] (by simp) (step_continuing records count line first r waiting)
        (by simpa using holds_take r { waiting with value := waiting.value ++ line })

private theorem run_short (lines : List (List Char))
    (noBoundary : ∀ line ∈ lines, Boundary.ofLine? line = none) (records : List Record)
    (count : Nat) (place : Place) (held : List String) (holds : place.Holds held)
    (all : List String) (short : held.length + lines.length < all.length) :
    ∃ after place' names, lines.foldl Reader.step ⟨records, count, place⟩ =
      ⟨records, after, place'⟩ ∧ place'.Holds names ∧ names ≠ all := by
  obtain ⟨after, place', more, run, final, bound⟩ :=
    run_bound lines noBoundary records count place held holds
  refine ⟨after, place', _, run, final, fun same => ?_⟩
  have lengths := congrArg List.length same
  rw [List.length_append] at lengths
  omega

namespace Property

theorem read_line_name (p : CardFile.Property) (named : Named p) (content : ContentLine)
    (ok : ContentLine.read (line p) = .ok content) : content.name = p.name := by
  obtain ⟨d, head, mark⟩ := stop_tail p named.sendable
  rw [line_eq p, List.append_assoc] at ok
  refine read_name p.group p.name named.grouped named.named named.capitals _ ?_ content ok
  intro c first
  obtain rfl : d = c := Option.some_inj.mp (head.symm.trans first)
  exact mark

theorem stands_ok (p : CardFile.Property) (content : ContentLine)
    (ok : ContentLine.read (line p) = .ok content) : Stands p ↔ content.IsComplete := by
  constructor
  · rintro ⟨content', ok', complete⟩
    rw [ok] at ok'
    cases ok'
    exact complete
  · exact fun complete => ⟨content, ok, complete⟩

theorem stands_error (p : CardFile.Property) (fault : LineFault)
    (error : ContentLine.read (line p) = .error fault) : ¬Stands p := by
  rintro ⟨content, ok, -⟩
  rw [error] at ok
  cases ok

theorem Writable.stands {p : CardFile.Property} (writable : Writable p) : Stands p := by
  obtain ⟨content, ok, complete, -⟩ := (reads_line p writable).content
  exact ⟨content, ok, complete⟩

end Property

private theorem boundary_lines (ps : List Property) (named : ∀ p ∈ ps, Property.Named p) :
    ∀ line ∈ ps.map Property.line, Boundary.ofLine? line = none := by
  intro line member
  obtain ⟨p, present, rfl⟩ := List.mem_map.mp member
  exact Property.boundary_line p (named p present)

/-- A reader that has seen the lines of some properties holds all of their names exactly if every
line stands by itself. A line that cannot be read adds no name, and one that waits for another
keeps that one from adding its own; only the last has nothing to wait for. -/
theorem run_stands (ps : List Property) (named : ∀ p ∈ ps, Property.Named p)
    (last : ∀ p ∈ ps.getLast?, Property.Stands p) (records : List Record) (count : Nat)
    (r : OpenRecord) :
    ∃ after place names, (ps.map Property.line).foldl Reader.step ⟨records, count, .inside r⟩ =
      ⟨records, after, place⟩ ∧ place.Holds names ∧
      (names = r.properties.map (·.name) ++ ps.map (·.name) ↔ ∀ p ∈ ps, Property.Stands p) := by
  induction ps generalizing count r with
  | nil => exact ⟨count, .inside r, _, rfl, .inside r, by simp⟩
  | cons p ps ih =>
    have own := Property.boundary_line p (named p (by simp))
    have others : ∀ q ∈ ps, Property.Named q := fun q member => named q (by simp [member])
    -- A line that adds no name of its own leaves too few lines for the names that are missing.
    have left_out (names : List String) (unsteady : ¬Property.Stands p)
        (other : names ≠ r.properties.map (·.name) ++ (p :: ps).map (·.name)) :
        names = r.properties.map (·.name) ++ (p :: ps).map (·.name) ↔
          ∀ q ∈ p :: ps, Property.Stands q :=
      ⟨fun same => absurd same other, fun stands => absurd (stands p (by simp)) unsteady⟩
    cases read : ContentLine.read (Property.line p) with
    | error fault =>
      obtain ⟨after, place, names, run, holds, other⟩ := run_short (ps.map Property.line)
        (boundary_lines ps others) records (count + 1) (.inside r) _ (.inside r)
        (r.properties.map (·.name) ++ (p :: ps).map (·.name)) (by simp)
      have unsteady := Property.stands_error p fault read
      refine ⟨after, place, names, ?_, holds, left_out names unsteady other⟩
      rw [List.map_cons, List.foldl_cons, step_faulty records count _ own r fault read, run]
    | ok content =>
      have step := step_inside records count _ own r content read
      by_cases complete : content.IsComplete
      · have name := Property.read_line_name p (named p (by simp)) content read
        have held : (r.add content).properties.map (·.name) ++ ps.map (·.name) =
            r.properties.map (·.name) ++ (p :: ps).map (·.name) := by
          simp [OpenRecord.add, toProperty_name, name]
        have stands := (Property.stands_ok p content read).mpr complete
        have lastRest : ∀ q ∈ ps.getLast?, Property.Stands q := by
          intro q member
          apply last q
          cases ps with
          | nil => simp at member
          | cons _ _ => simpa using member
        obtain ⟨after, place, names, run, holds, all⟩ :=
          ih others lastRest (count + 1) (r.add content)
        refine ⟨after, place, names, ?_, holds, ?_⟩
        · rw [List.map_cons, List.foldl_cons, step, take_complete r content complete, run]
        · rw [← held, all, List.forall_mem_cons]
          exact ⟨fun rest => ⟨stands, rest⟩, fun both => both.2⟩
      · have unsteady := mt (Property.stands_ok p content read).mp complete
        cases ps with
        | nil => exact absurd (last p (by simp)) unsteady
        | cons q ps =>
          have next := Property.boundary_line q (others q (by simp))
          have short : (r.properties.map (·.name) ++ [content.name]).length +
              (ps.map Property.line).length <
              (r.properties.map (·.name) ++ (p :: q :: ps).map (·.name)).length := by
            simp only [List.length_append, List.length_map, List.length_cons, List.length_nil]
            omega
          obtain ⟨after, place, names, run, holds, other⟩ := run_short (ps.map Property.line)
            (boundary_lines ps fun q member => others q (by simp [member])) records (count + 1 + 1)
            (r.take { content with value := content.value.dropLast ++ Property.line q }) _
            (holds_take r _) _ short
          refine ⟨after, place, names, ?_, holds, left_out names unsteady other⟩
          rw [List.map_cons, List.foldl_cons, step, take_incomplete r content complete,
            List.map_cons, List.foldl_cons, step_continuing records (count + 1) _ next, run]

/-- A record that keeps the names of these properties exactly if each of them stands by itself. -/
def Framed (ps : List Property) (r : Record) : Prop :=
  r.properties.map (·.name) = ps.map (·.name) ↔ ∀ p ∈ ps, Property.Stands p

private theorem run_block_framed (ps : List Property) (named : ∀ p ∈ ps, Property.Named p)
    (last : ∀ p ∈ ps.getLast?, Property.Stands p) (records : List Record) (count : Nat) :
    ∃ r after, (block (ps.map Property.line)).foldl Reader.step ⟨records, count, .outside⟩ =
      ⟨records ++ [r], after, .outside⟩ ∧ Framed ps r := by
  obtain ⟨inside, place, names, run, holds, all⟩ :=
    run_stands ps named last records (count + 1) ⟨count + 1, []⟩
  obtain ⟨r, close, held⟩ := step_close records inside place names holds
  refine ⟨r, inside + 1, ?_, ?_⟩
  · simp only [block, List.cons_append, List.foldl_cons, List.foldl_append, List.foldl_nil,
      step_begin, run, close]
  · rw [Framed, held, ← all]
    simp

theorem run_blocks_framed (groups : List (List Property))
    (named : ∀ ps ∈ groups, ∀ p ∈ ps, Property.Named p)
    (last : ∀ ps ∈ groups, ∀ p ∈ ps.getLast?, Property.Stands p) (before : List Record)
    (count : Nat) : ∃ rs after,
      (groups.flatMap fun ps => block (ps.map Property.line)).foldl Reader.step
        ⟨before, count, .outside⟩ = ⟨before ++ rs, after, .outside⟩ ∧
      List.Forall₂ Framed groups rs := by
  induction groups generalizing before count with
  | nil => exact ⟨[], count, by simp, .nil⟩
  | cons ps groups ih =>
    obtain ⟨r, next, first, framed⟩ :=
      run_block_framed ps (named ps (by simp)) (last ps (by simp)) before count
    obtain ⟨rs, after, rest, others⟩ := ih (fun qs member => named qs (by simp [member]))
      (fun qs member => last qs (by simp [member])) (before ++ [r]) next
    refine ⟨r :: rs, after, ?_, .cons framed others⟩
    rw [List.flatMap_cons, List.foldl_append, first, rest, List.append_assoc]
    rfl

/-- The text of properties without line breaks in the names of their parameters has one record for
each group of them. -/
theorem parse_framed (groups : List (List Property))
    (named : ∀ ps ∈ groups, ∀ p ∈ ps, Property.Named p)
    (single : ∀ ps ∈ groups, ∀ p ∈ ps, ∀ a ∈ Property.parameters p, '\n' ∉ a.name.toList)
    (last : ∀ ps ∈ groups, ∀ p ∈ ps.getLast?, Property.Stands p) :
    ∃ rs, parse (String.ofList ((groups.flatMap fun ps => block (ps.map Property.line)).flatMap
      fold)) = .ok rs ∧ List.Forall₂ Framed groups rs := by
  have plain : ∀ line ∈ groups.flatMap fun ps => block (ps.map Property.line), PlainLine line := by
    rw [← List.flatMap_map (f := fun ps => List.map Property.line ps) (g := block)]
    apply plain_blocks _
    intro lines present line member
    obtain ⟨ps, group, rfl⟩ := List.mem_map.mp present
    obtain ⟨p, own, rfl⟩ := List.mem_map.mp member
    exact Property.plain_line p (named ps group p own).toTitled (single ps group p own)
  obtain ⟨rs, after, run, framed⟩ := run_blocks_framed groups named last [] 0
  refine ⟨rs, ?_, framed⟩
  rw [parse, String.toList_ofList, logicalLines_document _ plain, readLines, Reader.initial, run]
  rfl

end Wire

namespace Card

private theorem writable_or_arbitrary (c : Card) (p : Property)
    (member : p ∈ Wire.versionProperty :: c.properties) :
    Wire.Property.Writable p ∨ ∃ a ∈ c.arbitrary, a.toProperty = p := by
  rcases List.mem_cons.mp member with rfl | own
  · exact Or.inl Wire.writable_version
  · obtain ⟨f, shape⟩ := c.shape_properties p own
    cases shape with
    | text s flags flat named =>
      exact Or.inl ((Shape.text (c := {}) s flags flat named).writable (by simp))
    | components flags parts schema named apart =>
      exact Or.inl ((Shape.components (c := {}) flags parts schema named apart).writable (by simp))
    | arbitrary a stored => exact Or.inr ⟨a, stored, rfl⟩

private theorem arbitrary_single (a : Arbitrary) (single : ∀ key ∈ a.key, '\n' ∉ key.toList) :
    ∀ b ∈ Wire.Property.parameters a.toProperty, '\n' ∉ b.name.toList := by
  intro b member
  rcases List.mem_append.mp (List.mem_filter.mp member).1 with type | key
  · obtain ⟨text, -, rfl⟩ : ∃ text, a.valueType = some text ∧ Attribute.ofText "TYPE" text = b := by
      simpa using type
    exact show '\n' ∉ "TYPE".toList by decide
  · obtain ⟨name, present, rfl⟩ : ∃ name, a.key = some name ∧ Attribute.marker name = b := by
      simpa using key
    exact single name present

private theorem last_properties (c : Card) :
    (Wire.versionProperty :: c.properties).getLast? = some (.ofText Field.id.property c.id) := by
  obtain ⟨init, split⟩ : ∃ init, c.properties = init ++ [.ofText Field.id.property c.id] := by
    unfold properties
    exact ⟨_, rfl⟩
  rw [split, ← List.cons_append, List.getLast?_concat]

private theorem arbitrary_mem_properties (c : Card) (a : Arbitrary) (member : a ∈ c.arbitrary) :
    a.toProperty ∈ c.properties := by
  rw [properties_eq, List.mem_flatMap]
  exact ⟨.arbitrary, by decide, List.mem_map_of_mem member⟩

theorem parse_cards_framed (cs : List Card)
    (single : ∀ c ∈ cs, ∀ a ∈ c.arbitrary, ∀ key ∈ a.key, '\n' ∉ key.toList) :
    ∃ rs, Wire.parse (renderAll cs) = .ok rs ∧ List.Forall₂
      (fun c r => Wire.Framed (Wire.versionProperty :: c.properties) r) cs rs := by
  have named : ∀ ps ∈ cs.map fun c => Wire.versionProperty :: c.properties,
      ∀ p ∈ ps, Wire.Property.Named p := by
    intro ps group p member
    obtain ⟨c, -, rfl⟩ := List.mem_map.mp group
    rcases List.mem_cons.mp member with rfl | own
    · exact Wire.writable_version.toNamed
    · obtain ⟨f, shape⟩ := c.shape_properties p own
      exact shape.named
  have lines : ∀ ps ∈ cs.map fun c => Wire.versionProperty :: c.properties,
      ∀ p ∈ ps, ∀ b ∈ Wire.Property.parameters p, '\n' ∉ b.name.toList := by
    intro ps group p member
    obtain ⟨c, present, rfl⟩ := List.mem_map.mp group
    rcases writable_or_arbitrary c p member with writable | ⟨a, stored, rfl⟩
    · exact fun b own feed => ((writable.attributes b own).name.chars '\n' feed).1 rfl
    · exact arbitrary_single a (single c present a stored)
  have last : ∀ ps ∈ cs.map fun c => Wire.versionProperty :: c.properties,
      ∀ p ∈ ps.getLast?, Wire.Property.Stands p := by
    intro ps group p member
    obtain ⟨c, -, rfl⟩ := List.mem_map.mp group
    obtain rfl : Property.ofText Field.id.property c.id = p := by
      simpa [last_properties] using member
    exact ((Shape.text (c := {}) (f := .id) c.id [] rfl (by simp)).writable (by simp)).stands
  obtain ⟨rs, parsed, framed⟩ := Wire.parse_framed _ named lines last
  rw [List.forall₂_map_left_iff] at framed
  exact ⟨rs, by rw [renderAll_blocks, parsed], framed⟩

private theorem framed_entries (c : Card) (r : Record)
    (framed : Wire.Framed (Wire.versionProperty :: c.properties) r) :
    r.properties.map (·.name) = "VERSION" :: c.properties.map (·.name) ↔
      ∀ a ∈ c.arbitrary, Wire.Property.Stands a.toProperty := by
  refine framed.trans ⟨fun stands a member => ?_, fun stands p member => ?_⟩
  · exact stands _ (List.mem_cons_of_mem _ (arbitrary_mem_properties c a member))
  · rcases writable_or_arbitrary c p member with writable | ⟨a, stored, rfl⟩
    · exact writable.stands
    · exact stands a stored

theorem stands_keyed (a : Arbitrary) (keyed : a.Keyed) : Wire.Property.Stands a.toProperty := by
  have shape : Shape { arbitrary := [a] } .arbitrary a.toProperty := .arbitrary a (by simp) rfl
  exact (shape.writable (by simpa using keyed)).stands

/-- No property is lost where the keys can be written as names of parameters. -/
theorem parse_renderAll_keyed (cs : List Card) (keyed : ∀ c ∈ cs, ∀ a ∈ c.arbitrary, a.Keyed) :
    ∃ rs, Wire.parse (renderAll cs) = .ok rs ∧ List.Forall₂ (fun c r =>
      r.properties.map (·.name) = "VERSION" :: c.properties.map (·.name)) cs rs := by
  have single : ∀ c ∈ cs, ∀ a ∈ c.arbitrary, ∀ key ∈ a.key, '\n' ∉ key.toList :=
    fun c member a stored key present feed =>
      ((keyed c member a stored key present).name.chars '\n' feed).1 rfl
  obtain ⟨rs, parsed, framed⟩ := parse_cards_framed cs single
  have both := (List.forall₂_and_left cs rs).mpr ⟨keyed, framed⟩
  exact ⟨rs, parsed, both.imp fun c r ⟨keyed, framed⟩ =>
    (framed_entries c r framed).mpr fun a stored => stands_keyed a (keyed a stored)⟩

/-- Cards whose keys have no line breaks are written as one record each, and a record has the
properties of its card exactly if the line of every arbitrary entry stands by itself. -/
theorem parse_renderAll (cs : List Card)
    (single : ∀ c ∈ cs, ∀ a ∈ c.arbitrary, ∀ key ∈ a.key, '\n' ∉ key.toList) :
    ∃ rs, Wire.parse (renderAll cs) = .ok rs ∧ List.Forall₂ (fun c r =>
      r.properties.map (·.name) = "VERSION" :: c.properties.map (·.name) ↔
        ∀ a ∈ c.arbitrary, Wire.Property.Stands a.toProperty) cs rs := by
  obtain ⟨rs, parsed, framed⟩ := parse_cards_framed cs single
  exact ⟨rs, parsed, framed.imp framed_entries⟩

def withKey (key : String) : Card where
  id := "u"
  fullName := some "Jon"
  name := some { given := some "Jon" }
  fileAs := some "Jon"
  arbitrary := [{ key := some key, value := some "v" }]

private theorem single_withKey (key : String) (single : '\n' ∉ key.toList) :
    ∀ c ∈ [withKey key], ∀ a ∈ c.arbitrary, ∀ key ∈ a.key, '\n' ∉ key.toList := by
  simpa [withKey] using single

theorem parse_renderAll_withKey : '\n' ∉ "k 1".toList ∧
    ∃ rs, Wire.parse (renderAll [withKey "k 1"]) = .ok rs ∧ List.Forall₂ (fun c r =>
      r.properties.map (·.name) = "VERSION" :: c.properties.map (·.name) ↔
        ∀ a ∈ c.arbitrary, Wire.Property.Stands a.toProperty) [withKey "k 1"] rs :=
  ⟨by decide, parse_renderAll _ (single_withKey "k 1" (by decide))⟩

/-- A key with line breaks can end a record and open another. -/
theorem parse_renderAll_split :
    (Wire.parse (renderAll [withKey "k\nEND:VCARD\nBEGIN:VCARD\nX"])).map (·.length) = .ok 2 := by
  decide +kernel

/-- A key with a double quote hides the colon of its line, and the entry disappears. -/
theorem framing_broken : ¬∃ rs, Wire.parse (renderAll [withKey "k\""]) = .ok rs ∧
    List.Forall₂ (fun c r => r.properties.map (·.name) = "VERSION" :: c.properties.map (·.name))
      [withKey "k\""] rs := by
  rintro ⟨rs, parsed, names⟩
  obtain ⟨rs', parsed', framed⟩ :=
    parse_cards_framed [withKey "k\""] (single_withKey "k\"" (by decide))
  obtain rfl : rs = rs' := Except.ok.inj (parsed.symm.trans parsed')
  cases names with
  | cons same _ =>
    cases framed with
    | cons framed _ =>
      obtain ⟨content, ok, -⟩ := framed.mp same
        (Arbitrary.toProperty { key := some "k\"", value := some "v" })
        (List.mem_cons_of_mem _ (arbitrary_mem_properties (withKey "k\"") _ (by simp [withKey])))
      have unread : Wire.ContentLine.read (Wire.Property.line
          (Arbitrary.toProperty { key := some "k\"", value := some "v" })) =
          .error .noSeparator := by rfl
      rw [unread] at ok
      cases ok

end Card

end CardFile
