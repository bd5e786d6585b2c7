import CardFile.Wire.Document

/-!
One line of a document, whatever the place it is read at: the record that it closes, if any, and
the place that comes next. Everything that is proved of a whole document follows the lines by this.
-/
namespace CardFile.Wire

/-- Where a line of content leaves a reader inside a record. A line that cannot be read is passed
over. -/
def OpenRecord.content (r : OpenRecord) (line : List Char) : Place :=
  match ContentLine.read line with
  | .ok content => r.take content
  | .error _ => .inside r

def OpenRecord.next (r : OpenRecord) (number : Nat) (line : List Char) : Place :=
  match Boundary.ofLine? line with
  | some (.closing block) => if isVCard block then .outside else r.content line
  | some (.opening block) => .skipping r ⟨block, number⟩ []
  | none => r.content line

def OpenRecord.resume (r : OpenRecord) : List Block → Place
  | [] => .inside r
  | block :: outer => .skipping r block outer

def Place.next (number : Nat) (line : List Char) : Place → Place
  | .outside =>
    match Boundary.ofLine? line with
    | some (.opening block) => if isVCard block then .inside ⟨number, []⟩ else .outside
    | _ => .outside
  | .inside r => r.next number line
  | .continuing r waiting =>
    match Boundary.ofLine? line with
    | some _ => (r.add waiting).next number line
    | none => r.take { waiting with value := waiting.value ++ line }
  | .skipping r block outer =>
    match Boundary.ofLine? line with
    | some (.closing name) =>
      if Text.sameLetters name block.name then r.resume outer else .skipping r block outer
    | some (.opening name) => .skipping r ⟨name, number⟩ (block :: outer)
    | none => .skipping r block outer

/-- Lines that end a record where one is open. -/
def closesCard (line : List Char) : Bool :=
  match Boundary.ofLine? line with
  | some (.closing block) => isVCard block
  | _ => false

def Place.closed? (line : List Char) : Place → Option Record
  | .inside r => if closesCard line then some r.close else none
  | .continuing r waiting => if closesCard line then some (r.add waiting).close else none
  | _ => none

section Content

variable (number : Nat) (line : List Char) (content : Boundary.ofLine? line = none)

include content

theorem closed_content (place : Place) : place.closed? line = none := by
  cases place <;> simp [Place.closed?, closesCard, content]

theorem next_inside (r : OpenRecord) : (Place.inside r).next number line = r.content line := by
  rw [Place.next, OpenRecord.next, content]

theorem next_continuing (r : OpenRecord) (waiting : ContentLine) :
    (Place.continuing r waiting).next number line =
      r.take { waiting with value := waiting.value ++ line } := by
  rw [Place.next, content]

/-- The numbers of lines of content are not kept. -/
theorem next_number (other : Nat) (place : Place) :
    place.next number line = place.next other line := by
  cases place <;> simp [Place.next, OpenRecord.next, content]

end Content

private theorem stepInside_content (s : Reader) (r : OpenRecord) (line : List Char) :
    s.stepInside r line = match Boundary.ofLine? line with
      | some (.closing block) =>
        if isVCard block then ⟨s.records ++ [r.close], s.count + 1, .outside⟩
        else ⟨s.records, s.count + 1, r.content line⟩
      | some (.opening block) => ⟨s.records, s.count + 1, .skipping r ⟨block, s.count + 1⟩ []⟩
      | none => ⟨s.records, s.count + 1, r.content line⟩ :=
  rfl

private theorem stepInside_next (s : Reader) (r : OpenRecord) (line : List Char) :
    s.stepInside r line = ⟨s.records ++ ((Place.inside r).closed? line).toList, s.count + 1,
      r.next (s.count + 1) line⟩ := by
  rw [stepInside_content, OpenRecord.next, Place.closed?, closesCard]
  cases Boundary.ofLine? line with
  | none => simp
  | some b =>
    cases b with
    | opening block => simp
    | closing block => cases closes : isVCard block <;> simp [closes]

/-- A line adds the record that it closes, and is counted. -/
theorem Reader.step_eq (s : Reader) (line : List Char) :
    s.step line = ⟨s.records ++ (s.place.closed? line).toList, s.count + 1,
      s.place.next (s.count + 1) line⟩ := by
  obtain ⟨records, count, place⟩ := s
  cases place with
  | outside =>
    cases boundary : Boundary.ofLine? line with
    | none => simp [step, Place.next, Place.closed?, boundary]
    | some b =>
      cases b with
      | opening block =>
        cases opens : isVCard block <;> simp [step, Place.next, Place.closed?, boundary, opens]
      | closing block => simp [step, Place.next, Place.closed?, boundary]
  | inside r => exact stepInside_next _ r line
  | continuing r waiting =>
    cases boundary : Boundary.ofLine? line with
    | none => simp [step, Place.next, Place.closed?, closesCard, boundary]
    | some b => simp [step, Place.next, stepInside_next, Place.closed?, boundary]
  | skipping r block outer =>
    cases boundary : Boundary.ofLine? line with
    | none => simp [step, Place.next, Place.closed?, boundary]
    | some b =>
      cases b with
      | opening name => simp [step, Place.next, Place.closed?, boundary]
      | closing name =>
        cases closes : Text.sameLetters name block.name <;> cases outer <;>
          simp [step, Place.next, Place.closed?, OpenRecord.resume, boundary, closes]

theorem Reader.step_content (s : Reader) (line : List Char)
    (content : Boundary.ofLine? line = none) :
    s.step line = ⟨s.records, s.count + 1, s.place.next (s.count + 1) line⟩ := by
  rw [step_eq, closed_content line content s.place]
  simp

theorem Reader.count_run (lines : List (List Char)) (s : Reader) :
    (lines.foldl step s).count = s.count + lines.length := by
  induction lines generalizing s with
  | nil => rfl
  | cons line lines ih =>
    have count : (s.step line).count = s.count + 1 := by rw [step_eq]
    rw [List.foldl_cons, ih, count, List.length_cons]
    omega

end CardFile.Wire
