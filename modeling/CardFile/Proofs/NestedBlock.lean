import CardFile.Proofs.Insertion

/-!
Blocks nested in a record. They are given here by a grammar of their own, apart from the reader and
its stack: a block is the line that opens it, what it encloses, and the line that closes it. At any
point of a record, and at any depth, a whole block is passed over to its last line and no further.
-/
namespace CardFile.Wire

def Opens (name line : List Char) : Prop :=
  Boundary.ofLine? line = some (.opening name)

def Closes (name line : List Char) : Prop :=
  ∃ closed, Boundary.ofLine? line = some (.closing closed) ∧ Text.sameLetters closed name = true

/-- A line that stands in a block of some name without a meaning: content, or the end of a block of
another name. -/
def Loose (name line : List Char) : Prop :=
  Boundary.ofLine? line = none ∨
    ∃ closed, Boundary.ofLine? line = some (.closing closed) ∧
      Text.sameLetters closed name = false

/-- Lines that can stand between the boundaries of a block of some name: loose ones, and blocks of
any names. -/
inductive Encloses : List Char → List (List Char) → Prop
  | nil (name) : Encloses name []
  | line (name line lines) (loose : Loose name line) (others : Encloses name lines) :
      Encloses name (line :: lines)
  | block (name inner first body last lines) (opens : Opens inner first)
      (enclosed : Encloses inner body) (closes : Closes inner last)
      (others : Encloses name lines) : Encloses name (first :: body ++ last :: lines)

def IsBlock (name : List Char) (lines : List (List Char)) : Prop :=
  ∃ first body last, lines = first :: body ++ [last] ∧
    Opens name first ∧ Encloses name body ∧ Closes name last

/-- The boundaries among these lines leave a record open, with any blocks nested in it. -/
def InRecord (lines : List (List Char)) : Prop :=
  ∃ opened stack,
    (lines.filterMap Boundary.ofLine?).foldl Nesting.step (.outside 0) = .inside opened stack

section Stack

variable (r : OpenRecord) (block : Block) (outer : List Block)

private theorem step_opening (records : List Record) (count : Nat) (name line : List Char)
    (opens : Opens name line) : Reader.step ⟨records, count, r.resume outer⟩ line =
      ⟨records, count + 1, .skipping r ⟨name, count + 1⟩ outer⟩ := by
  have opens : Boundary.ofLine? line = some (.opening name) := opens
  rw [Reader.step_eq]
  cases outer <;>
    simp [OpenRecord.resume, Place.closed?, closesCard, Place.next, OpenRecord.next, opens]

private theorem step_closing (records : List Record) (count : Nat) (line : List Char)
    (closes : Closes block.name line) :
    Reader.step ⟨records, count, .skipping r block outer⟩ line =
      ⟨records, count + 1, r.resume outer⟩ := by
  obtain ⟨closed, found, same⟩ := closes
  rw [Reader.step_eq]
  simp [Place.closed?, Place.next, found, same]

private theorem step_loose (records : List Record) (count : Nat) (line : List Char)
    (loose : Loose block.name line) :
    Reader.step ⟨records, count, .skipping r block outer⟩ line =
      ⟨records, count + 1, .skipping r block outer⟩ := by
  rw [Reader.step_eq]
  rcases loose with content | ⟨closed, found, other⟩
  · simp [Place.closed?, Place.next, content]
  · simp [Place.closed?, Place.next, found, other]

end Stack

/-- What a block encloses leaves a reader in the block, with the blocks around it as they were. -/
theorem run_encloses (name : List Char) (body : List (List Char)) (encloses : Encloses name body)
    (records : List Record) (count : Nat) (r : OpenRecord) (block : Block)
    (named : block.name = name) (outer : List Block) :
    body.foldl Reader.step ⟨records, count, .skipping r block outer⟩ =
      ⟨records, count + body.length, .skipping r block outer⟩ := by
  induction encloses generalizing count block outer with
  | nil => rfl
  | line name line lines loose others ih =>
    rw [List.foldl_cons, step_loose r block outer records count line (named ▸ loose),
      ih _ block named outer, List.length_cons, Nat.add_assoc, Nat.add_comm 1]
  | block name inner first body last lines opens enclosed closes others ihBody ihLines =>
    have opened := step_opening r (block :: outer) records count inner first opens
    have closed := step_closing r ⟨inner, count + 1⟩ (block :: outer) records
      (count + 1 + body.length) last closes
    rw [OpenRecord.resume] at opened closed
    rw [List.cons_append, List.foldl_cons, opened, List.foldl_append,
      ihBody _ ⟨inner, count + 1⟩ rfl (block :: outer), List.foldl_cons, closed,
      ihLines _ block named outer]
    simp only [List.length_cons, List.length_append]
    exact congrArg (Reader.mk records · _) (by omega)

/-- A whole block is passed wherever a record is open and no soft line break waits. -/
theorem passes_block (name : List Char) (lines : List (List Char)) (isBlock : IsBlock name lines)
    (s : Reader) (r : OpenRecord) (outer : List Block) (place : s.place = r.resume outer) :
    s.Passes lines := by
  obtain ⟨first, body, last, rfl, opens, encloses, closes⟩ := isBlock
  obtain ⟨records, count, here⟩ := s
  obtain rfl : here = r.resume outer := place
  have closed := step_closing r ⟨name, count + 1⟩ outer records (count + 1 + body.length) last
    closes
  rw [Reader.Passes, List.cons_append, List.foldl_cons, step_opening r outer records count name _
    opens, List.foldl_append, run_encloses name body encloses records _ r _ rfl outer,
    List.foldl_cons, List.foldl_nil, closed, Reader.counted]
  simp only [List.length_cons, List.length_append, List.length_nil]
  exact congrArg (Reader.mk records · _) (by omega)

private theorem resume_of_inside (s : Reader) (ready : s.place.Ready) (opened : Nat)
    (stack : List (List Char)) (inside : s.nesting = .inside opened stack) :
    ∃ r outer, s.place = OpenRecord.resume r outer := by
  obtain ⟨records, count, place⟩ := s
  cases place with
  | outside => cases inside
  | inside r => exact ⟨r, [], rfl⟩
  | continuing r waiting => exact ready.elim
  | skipping r block outer => exact ⟨r, block :: outer, rfl⟩

/-- A block in a record makes no difference to the lines that are read around it. -/
theorem readLines_nestedBlock (before block after : List (List Char)) (name : List Char)
    (inside : InRecord before) (settled : Settled before) (isBlock : IsBlock name block) :
    readLines (before ++ (block ++ after)) = (readLines (before ++ after)).mapError
      (Unclosed.renumber (shiftedAfter before.length block.length)) := by
  apply readLines_passed
  obtain ⟨opened, stack, nested⟩ := inside
  have nesting := Reader.nesting_run before .initial
  obtain ⟨r, outer, place⟩ := resume_of_inside _ (ready_settled before settled) opened stack
    (nesting.trans nested)
  exact passes_block name block isBlock _ r outer place

/-- Texts of whole lines, none of which continues the line before it. -/
structure InsertedText (before added after : List Char) : Prop where
  ended : before.getLast? = some '\n'
  whole : added.getLast? = some '\n'
  start : ∀ c ∈ added.head?, c ≠ ' ' ∧ c ≠ '\t'
  next : ∀ c ∈ after.head?, c ≠ ' ' ∧ c ≠ '\t'

/-- Nested blocks are transparent. A block that is put into a record where no soft line break waits
makes no difference to the records, or to the block that is left open; in a report its lines are
counted. So it is for the lines of a document, and for a text. -/
theorem parse_nestedBlock (name : List Char) :
    (∀ before block after : List (List Char), InRecord before → Settled before →
      IsBlock name block →
      readLines (before ++ (block ++ after)) = (readLines (before ++ after)).mapError
        (Unclosed.renumber (shiftedAfter before.length block.length))) ∧
    ∀ before block after : String, InsertedText before.toList block.toList after.toList →
      InRecord (logicalLines before.toList) →
      (∀ last ∈ (logicalLines before.toList).getLast?, last.getLast? ≠ some '=') →
      IsBlock name (logicalLines block.toList) →
      parse (before ++ block ++ after) = (parse (before ++ after)).mapError
        (Unclosed.renumber (shiftedAfter (logicalLines before.toList).length
          (logicalLines block.toList).length)) := by
  refine ⟨fun before block after => readLines_nestedBlock before block after name, ?_⟩
  intro before block after cut inside ends isBlock
  have rest : ∀ c ∈ (block.toList ++ after.toList).head?, c ≠ ' ' ∧ c ≠ '\t' := by
    have filled : block.toList ≠ [] := by
      intro none
      simpa [none] using cut.whole
    rw [List.head?_append_of_ne_nil _ filled]
    exact cut.start
  have lines := readLines_nestedBlock (logicalLines before.toList) (logicalLines block.toList)
    (logicalLines after.toList) name inside (settled_logicalLines before.toList ends) isBlock
  rw [parse, parse, String.toList_append, String.toList_append, List.append_assoc,
    logicalLines_append _ _ (Or.inr cut.ended) rest,
    logicalLines_append _ _ (Or.inr cut.whole) cut.next, lines, String.toList_append,
    logicalLines_append _ _ (Or.inr cut.ended) cut.next]

def outerText : String :=
  "BEGIN:VCARD\r\nFN:Outer\r\n"

/-- A block that ends neither at the end of another block nor at that of its own inner record. -/
def agentText : String :=
  "BEGIN:A\nEND:Y\nBEGIN:VCARD\nFN:In\nEND:A\nEND:vcard\nend:a\n"

theorem parse_nestedBlock_agentText :
    InsertedText outerText.toList agentText.toList "TEL:1\r\nEND:VCARD\r\n".toList ∧
    InRecord (logicalLines outerText.toList) ∧
    (∀ last ∈ (logicalLines outerText.toList).getLast?, last.getLast? ≠ some '=') ∧
    IsBlock "A".toList (logicalLines agentText.toList) ∧
    parse (outerText ++ agentText ++ "TEL:1\r\nEND:VCARD\r\n") =
      .ok [⟨vcard, [.ofText "FN" "Outer", .ofText "TEL" "1"]⟩] := by
  have cut : InsertedText outerText.toList agentText.toList "TEL:1\r\nEND:VCARD\r\n".toList :=
    ⟨by decide, by decide, unindented_solid _ ⟨_, rfl, by decide⟩,
      unindented_solid _ ⟨_, rfl, by decide⟩⟩
  have inside : InRecord (logicalLines outerText.toList) := ⟨1, [], by decide +kernel⟩
  have ends : ∀ last ∈ (logicalLines outerText.toList).getLast?, last.getLast? ≠ some '=' := by
    decide +kernel
  have lines : logicalLines agentText.toList = "BEGIN:A".toList :: ("END:Y".toList ::
      ("BEGIN:VCARD".toList :: ["FN:In".toList, "END:A".toList] ++ "END:vcard".toList :: [])) ++
      ["end:a".toList] := by
    decide +kernel
  have inner : Encloses "VCARD".toList ["FN:In".toList, "END:A".toList] :=
    .line _ _ _ (Or.inl rfl) (.line _ _ _ (Or.inr ⟨"A".toList, rfl, rfl⟩) (.nil _))
  have record := Encloses.block "A".toList "VCARD".toList "BEGIN:VCARD".toList _
    "END:vcard".toList [] rfl inner ⟨"vcard".toList, rfl, rfl⟩ (.nil _)
  have body := Encloses.line "A".toList "END:Y".toList _ (Or.inr ⟨"Y".toList, rfl, rfl⟩) record
  have isBlock : IsBlock "A".toList (logicalLines agentText.toList) :=
    ⟨_, _, _, lines, rfl, body, "a".toList, rfl, rfl⟩
  have around : parse (outerText ++ "TEL:1\r\nEND:VCARD\r\n") =
      .ok [⟨vcard, [.ofText "FN" "Outer", .ofText "TEL" "1"]⟩] := by
    decide +kernel
  refine ⟨cut, inside, ends, isBlock, ?_⟩
  rw [(parse_nestedBlock "A".toList).2 _ _ _ cut inside ends isBlock, around]
  rfl

end CardFile.Wire
