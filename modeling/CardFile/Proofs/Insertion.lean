import CardFile.Proofs.Concatenation
import CardFile.Proofs.LineHead
import CardFile.Proofs.Nesting

/-!
Lines that a document can do without. A line that cannot be read costs nothing but itself, wherever
it stands, and a whole block may stand anywhere in a record: the records are those of the other
lines, and so is the block that is left open, if there is one. Only the number in a report counts
the lines that were added. A soft line break before them is the exception, since it takes in
whatever line of content comes next.
-/
namespace CardFile.Wire

/-- The number of a line once `added` lines stand after the first `n`. -/
def shiftedAfter (n added line : Nat) : Nat :=
  if line ≤ n then line else line + added

def Reader.counted (s : Reader) (added : Nat) : Reader :=
  { s with count := s.count + added }

/-- Lines that leave a reader where it is. -/
def Reader.Passes (s : Reader) (lines : List (List Char)) : Prop :=
  lines.foldl step s = s.counted lines.length

section Shift

variable (s : Reader) (reached : s.place.Reached s.count) (added : Nat)

include reached

private theorem place_shifted : s.place.renumber (shiftedAfter s.count added) = s.place :=
  renumber_reached s.count s.place _ reached fun _ read => if_pos read

private theorem step_counted (line : List Char) :
    (s.counted added).step line = (s.step line).renumber (shiftedAfter s.count added) [] := by
  have number : shiftedAfter s.count added (s.count + 1) = s.count + added + 1 := by
    rw [shiftedAfter, if_neg (by omega)]
    omega
  have next := next_renumber (shiftedAfter s.count added) (s.count + 1) line s.place
  rw [place_shifted s reached added, number] at next
  rw [Reader.step_eq, Reader.step_eq, Reader.renumber, Reader.counted]
  simp only [next, number, List.nil_append]

/-- A reader that has counted more lines reads the lines to come as before, and reports them under
their new numbers. -/
theorem finish_counted (after : List (List Char)) :
    (after.foldl Reader.step (s.counted added)).finish =
      (after.foldl Reader.step s).finish.mapError
        (Unclosed.renumber (shiftedAfter s.count added)) := by
  cases after with
  | nil =>
    -- Nothing that is open was opened after the first `s.count` lines.
    rw [List.foldl_nil, List.foldl_nil, ← Reader.finish_mapError, Reader.renumber,
      place_shifted s reached added]
    rfl
  | cons line after =>
    have regular : ∀ n, (s.step line).count ≤ n →
        shiftedAfter s.count added (n + 1) = shiftedAfter s.count added n + 1 := by
      rw [Reader.step_eq]
      intro n later
      have later : s.count + 1 ≤ n := later
      rw [shiftedAfter, shiftedAfter, if_neg (by omega), if_neg (by omega)]
      omega
    rw [List.foldl_cons, step_counted s reached added line,
      Reader.run_renumber _ _ after (s.step line) regular, Reader.finish_mapError, List.foldl_cons]

end Shift

/-- Lines that leave a reader where it is after those before them make no difference to a document,
but for the numbers of the lines after them. -/
theorem readLines_passed (before added after : List (List Char))
    (passes : (before.foldl Reader.step .initial).Passes added) :
    readLines (before ++ (added ++ after)) = (readLines (before ++ after)).mapError
      (Unclosed.renumber (shiftedAfter before.length added.length)) := by
  have reached := reached_run before .initial trivial
  have count : (before.foldl Reader.step .initial).count = before.length := by
    simpa [Reader.initial] using Reader.count_run before .initial
  rw [readLines, readLines, List.foldl_append, List.foldl_append, List.foldl_append, passes,
    finish_counted _ reached, count]

/-- Lines of which the last, if there is one, cannot end in a soft line break. -/
def Settled (lines : List (List Char)) : Prop :=
  ∀ last ∈ lines.getLast?, last ≠ [] ∧ last.getLast? ≠ some '='

instance : DecidablePred Settled := fun lines =>
  inferInstanceAs (Decidable (∀ last ∈ lines.getLast?, last ≠ [] ∧ last.getLast? ≠ some '='))

/-- Logical lines are never empty, so it comes down to how the last one ends. -/
theorem settled_logicalLines (text : List Char)
    (ends : ∀ last ∈ (logicalLines text).getLast?, last.getLast? ≠ some '=') :
    Settled (logicalLines text) := by
  intro last member
  have present := List.mem_of_getLast? member
  rw [logicalLines, contentLines, List.mem_filter] at present
  refine ⟨?_, ends last member⟩
  rintro rfl
  simp at present

/-- No line waits for its continuation here. -/
def Place.Ready : Place → Prop
  | .continuing _ _ => False
  | _ => True

private theorem ready_take (r : OpenRecord) (line : ContentLine)
    (last : line.value.getLast? ≠ some '=') : (r.take line).Ready := by
  rw [OpenRecord.take, if_neg]
  · trivial
  · simp [last]

private theorem ready_content (r : OpenRecord) (line : List Char)
    (last : line.getLast? ≠ some '=') : (r.content line).Ready := by
  rw [OpenRecord.content]
  split
  · rename_i content read
    apply ready_take
    intro soft
    obtain ⟨head, found⟩ := cut_of_read line content read
    apply last
    rw [cutValue_eq false line head _ found, List.getLast?_append_cons, List.getLast?_cons, soft]
    rfl
  · trivial

private theorem ready_nextInside (r : OpenRecord) (number : Nat) (line : List Char)
    (last : line.getLast? ≠ some '=') : (r.next number line).Ready := by
  rw [OpenRecord.next]
  split
  · split
    · trivial
    · exact ready_content r line last
  · trivial
  · exact ready_content r line last

private theorem ready_resume (r : OpenRecord) (outer : List Block) : (r.resume outer).Ready := by
  cases outer <;> trivial

theorem ready_next (place : Place) (number : Nat) (line : List Char) (filled : line ≠ [])
    (last : line.getLast? ≠ some '=') : (place.next number line).Ready := by
  cases place with
  | outside =>
    rw [Place.next]
    split
    · split <;> trivial
    · trivial
  | inside r => exact ready_nextInside r number line last
  | continuing r waiting =>
    rw [Place.next]
    split
    · exact ready_nextInside (r.add waiting) number line last
    · apply ready_take
      rwa [List.getLast?_append_of_ne_nil _ filled]
  | skipping r block outer =>
    rw [Place.next]
    split
    · split
      · exact ready_resume r outer
      · trivial
    · trivial
    · trivial

/-- After settled lines no soft line break waits. -/
theorem ready_settled (lines : List (List Char)) (settled : Settled lines) :
    (lines.foldl Reader.step .initial).place.Ready := by
  rcases List.eq_nil_or_concat lines with rfl | ⟨front, last, rfl⟩
  · trivial
  · rw [List.concat_eq_append, List.foldl_append, List.foldl_cons, List.foldl_nil, Reader.step_eq]
    obtain ⟨filled, ends⟩ := settled last (by simp)
    exact ready_next _ _ last filled ends

/-- A line that cannot be read is passed wherever no soft line break waits. -/
theorem passes_unread (s : Reader) (line : List Char) (ready : s.place.Ready)
    (content : Boundary.ofLine? line = none)
    (unread : ∃ fault, ContentLine.read line = .error fault) : s.Passes [line] := by
  have same : s.place.next (s.count + 1) line = s.place := by
    cases place : s.place with
    | outside => simp [Place.next, content]
    | inside r =>
      obtain ⟨fault, failed⟩ := unread
      rw [next_inside _ line content, OpenRecord.content, failed]
    | continuing r waiting =>
      rw [place] at ready
      exact ready.elim
    | skipping r block outer => simp [Place.next, content]
  rw [Reader.Passes, List.foldl_cons, List.foldl_nil, Reader.step_content s line content, same]
  rfl

/-- A line of content that cannot be read makes no difference to the records of a document, or to
the block that it leaves open, unless it comes right after a soft line break. -/
theorem readLines_stray (before after : List (List Char)) (line : List Char)
    (content : Boundary.ofLine? line = none)
    (unread : ∃ fault, ContentLine.read line = .error fault) (settled : Settled before) :
    readLines (before ++ line :: after) = (readLines (before ++ after)).mapError
      (Unclosed.renumber (shiftedAfter before.length 1)) :=
  readLines_passed before [line] after
    (passes_unread _ line (ready_settled before settled) content unread)

def noteLines : List (List Char) :=
  ["BEGIN:VCARD".toList, "NOTE;QUOTED-PRINTABLE:a=".toList, "b".toList]

theorem readLines_stray_noteLines :
    Boundary.ofLine? "TEL;=home:1".toList = none ∧
    (∃ fault, ContentLine.read "TEL;=home:1".toList = .error fault) ∧ Settled noteLines ∧
    readLines (noteLines ++ "TEL;=home:1".toList :: ["END:VCARD".toList]) =
      .ok [⟨vcard, [{ name := "NOTE", value := some (.octets [0x61, 0x62] none) }]⟩] ∧
    readLines (noteLines ++ ["BEGIN:X".toList]) = .error ⟨4, "X"⟩ ∧
    readLines (noteLines ++ "TEL;=home:1".toList :: ["BEGIN:X".toList]) = .error ⟨5, "X"⟩ := by
  have content : Boundary.ofLine? "TEL;=home:1".toList = none := by decide
  have unread : ∃ fault, ContentLine.read "TEL;=home:1".toList = .error fault :=
    ⟨.parameter .emptyName, by decide +kernel⟩
  have settled : Settled noteLines := by decide
  have closed : readLines (noteLines ++ ["END:VCARD".toList]) =
      .ok [⟨vcard, [{ name := "NOTE", value := some (.octets [0x61, 0x62] none) }]⟩] := by
    decide +kernel
  have unclosed : readLines (noteLines ++ ["BEGIN:X".toList]) = .error ⟨4, "X"⟩ := by
    decide +kernel
  have stray (after : List (List Char)) := readLines_stray noteLines after _ content unread settled
  refine ⟨content, unread, settled, ?_, unclosed, ?_⟩
  · rw [stray, closed]
    rfl
  · rw [stray, unclosed]
    rfl

end CardFile.Wire
