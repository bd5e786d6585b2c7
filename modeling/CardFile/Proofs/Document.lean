import CardFile.Proofs.Fold
import CardFile.Proofs.Step
import CardFile.Proofs.Transfer
import Mathlib.Data.List.Forall2

/-!
Documents of blocks. Lines that each read as one property, between the boundaries of a record,
make up the record, and the records of a document follow each other as their blocks do.
-/
namespace CardFile.Wire

/-- A line that opens no block and closes no record. One that closes a block of another name is
content, where none is open. -/
def isInner (line : List Char) : Bool :=
  match Boundary.ofLine? line with
  | some (.opening _) => false
  | some (.closing block) => !isVCard block
  | none => true

theorem isInner_none (line : List Char) (noBoundary : Boundary.ofLine? line = none) :
    isInner line = true := by
  rw [isInner, noBoundary]

/-- A line that reads as a property by itself. -/
structure Reads (line : List Char) (p : Property) : Prop where
  plain : PlainLine line
  inner : isInner line = true
  content : ∃ content, ContentLine.read line = .ok content ∧ content.IsComplete ∧
    content.toProperty = p

theorem take_complete (r : OpenRecord) (line : ContentLine) (complete : line.IsComplete) :
    r.take line = .inside (r.add line) := by
  rw [OpenRecord.take, if_neg]
  simpa [ContentLine.IsComplete] using complete

theorem take_incomplete (r : OpenRecord) (line : ContentLine) (incomplete : ¬line.IsComplete) :
    r.take line = .continuing r { line with value := line.value.dropLast } := by
  rw [OpenRecord.take, if_pos]
  simpa [ContentLine.IsComplete] using incomplete

theorem next_inner (r : OpenRecord) (number : Nat) (line : List Char)
    (inner : isInner line = true) :
    r.next number line = r.content line ∧ closesCard line = false := by
  rw [isInner] at inner
  rw [OpenRecord.next, closesCard]
  cases boundary : Boundary.ofLine? line with
  | none => simp
  | some b =>
    cases b with
    | opening => simp [boundary] at inner
    | closing block =>
      have other : isVCard block = false := by simpa [boundary] using inner
      simp [other]

private theorem step_reads (records : List Record) (count : Nat) (r : OpenRecord)
    (line : List Char) (p : Property) (reads : Reads line p) :
    Reader.step ⟨records, count, .inside r⟩ line =
      ⟨records, count + 1, .inside ⟨r.line, r.properties ++ [p]⟩⟩ := by
  obtain ⟨content, ok, complete, rfl⟩ := reads.content
  obtain ⟨next, goesOn⟩ := next_inner r (count + 1) line reads.inner
  have taken : r.content line = .inside (r.add content) := by
    rw [OpenRecord.content, ok]
    exact take_complete r content complete
  simp [Reader.step_eq, Place.closed?, Place.next, next, goesOn, taken, OpenRecord.add]

theorem run_reads (lines : List (List Char)) (ps : List Property)
    (reads : List.Forall₂ Reads lines ps) (records : List Record) (count : Nat) (r : OpenRecord) :
    lines.foldl Reader.step ⟨records, count, .inside r⟩ =
      ⟨records, count + lines.length, .inside ⟨r.line, r.properties ++ ps⟩⟩ := by
  induction reads generalizing count r with
  | nil => simp
  | @cons line p lines ps first others ih =>
    rw [List.foldl_cons, step_reads records count r line p first, ih]
    simp [Nat.add_assoc, Nat.add_comm 1]

def beginLine : List Char := "BEGIN:VCARD".toList

def endLine : List Char := "END:VCARD".toList

private theorem boundary_begin : Boundary.ofLine? beginLine = some (.opening vcard.toList) := by
  decide

theorem boundary_end : Boundary.ofLine? endLine = some (.closing vcard.toList) := by
  decide

private theorem isVCard_vcard : isVCard vcard.toList = true := by
  decide

theorem step_begin (records : List Record) (count : Nat) :
    Reader.step ⟨records, count, .outside⟩ beginLine =
      ⟨records, count + 1, .inside ⟨count + 1, []⟩⟩ := by
  simp [Reader.step, boundary_begin, isVCard_vcard]

theorem step_end (records : List Record) (count : Nat) (r : OpenRecord) :
    Reader.step ⟨records, count, .inside r⟩ endLine =
      ⟨records ++ [r.close], count + 1, .outside⟩ := by
  simp [Reader.step, Reader.stepInside, boundary_end, isVCard_vcard]

def block (lines : List (List Char)) : List (List Char) :=
  beginLine :: lines ++ [endLine]

private theorem run_block (lines : List (List Char)) (ps : List Property)
    (reads : List.Forall₂ Reads lines ps) (records : List Record) (count : Nat) :
    ∃ after, (block lines).foldl Reader.step ⟨records, count, .outside⟩ =
      ⟨records ++ [⟨vcard, ps⟩], after, .outside⟩ := by
  refine ⟨count + 1 + lines.length + 1, ?_⟩
  simp only [block, List.cons_append, List.foldl_cons, List.foldl_append, List.foldl_nil,
    step_begin, run_reads lines ps reads, step_end]
  rfl

theorem run_blocks (blocks : List (List (List Char))) (records : List (List Property))
    (reads : List.Forall₂ (List.Forall₂ Reads) blocks records) (before : List Record)
    (count : Nat) :
    ∃ after, (blocks.flatMap block).foldl Reader.step ⟨before, count, .outside⟩ =
      ⟨before ++ records.map (Record.mk vcard), after, .outside⟩ := by
  induction reads generalizing before count with
  | nil => exact ⟨count, by simp⟩
  | @cons lines ps blocks records first others ih =>
    obtain ⟨next, opened⟩ := run_block lines ps first before count
    obtain ⟨after, rest⟩ := ih (before ++ [⟨vcard, ps⟩]) next
    refine ⟨after, ?_⟩
    rw [List.flatMap_cons, List.foldl_append, opened, rest]
    simp

private theorem plain_begin : PlainLine beginLine :=
  ⟨by decide, by decide, 'B', rfl, by decide⟩

private theorem plain_end : PlainLine endLine :=
  ⟨by decide, by decide, 'E', rfl, by decide⟩

theorem plain_blocks (blocks : List (List (List Char)))
    (plain : ∀ lines ∈ blocks, ∀ line ∈ lines, PlainLine line) :
    ∀ line ∈ blocks.flatMap block, PlainLine line := by
  intro line member
  obtain ⟨lines, present, member⟩ := List.mem_flatMap.mp member
  simp only [block, List.cons_append, List.mem_cons, List.mem_append, List.not_mem_nil,
    or_false] at member
  rcases member with rfl | inner | rfl
  · exact plain_begin
  · exact plain lines present line inner
  · exact plain_end

private theorem plain_reads (lines : List (List Char)) (ps : List Property)
    (reads : List.Forall₂ Reads lines ps) : ∀ line ∈ lines, PlainLine line := by
  have both := reads.imp fun _ _ read => And.intro read.plain read
  exact ((List.forall₂_and_left lines ps).mp both).1

/-- Blocks of property lines are read as their records. -/
theorem readLines_blocks (blocks : List (List (List Char))) (records : List (List Property))
    (reads : List.Forall₂ (List.Forall₂ Reads) blocks records) :
    readLines (blocks.flatMap block) = .ok (records.map (Record.mk vcard)) := by
  obtain ⟨after, run⟩ := run_blocks blocks records reads [] 0
  rw [readLines, Reader.initial, run]
  simp [Reader.finish]

/-- The folded text of blocks of property lines is parsed into their records. -/
theorem parse_blocks (blocks : List (List (List Char))) (records : List (List Property))
    (reads : List.Forall₂ (List.Forall₂ Reads) blocks records) :
    parse (String.ofList ((blocks.flatMap block).flatMap fold)) =
      .ok (records.map (Record.mk vcard)) := by
  have plain : ∀ line ∈ blocks.flatMap block, PlainLine line := by
    have both := reads.imp fun lines ps block => And.intro (plain_reads lines ps block) block
    exact plain_blocks blocks ((List.forall₂_and_left blocks records).mp both).1
  rw [parse, String.toList_ofList, logicalLines_document _ plain]
  exact readLines_blocks blocks records reads

end CardFile.Wire
