import CardFile.Proofs.Step

/-!
Line numbers. A reader keeps the numbers of the lines that opened its blocks for the sake of reports
only, so the lines may be numbered in another way, and other records may have been closed before:
the properties and records that are read are the same, and a report has the other number. Numbers
that lines to come are given do not act on what was read before them.
-/
namespace CardFile.Wire

variable (numbering : Nat → Nat)

def OpenRecord.renumber (r : OpenRecord) : OpenRecord :=
  { r with line := numbering r.line }

def Block.renumber (block : Block) : Block :=
  { block with line := numbering block.line }

def Place.renumber : Place → Place
  | .outside => .outside
  | .inside r => .inside (r.renumber numbering)
  | .continuing r line => .continuing (r.renumber numbering) line
  | .skipping r block outer =>
    .skipping (r.renumber numbering) (block.renumber numbering)
      (outer.map (Block.renumber numbering))

def Reader.renumber (records : List Record) (s : Reader) : Reader :=
  ⟨records ++ s.records, numbering s.count, s.place.renumber numbering⟩

def Unclosed.renumber (e : Unclosed) : Unclosed :=
  { e with line := numbering e.line }

private theorem take_renumber (r : OpenRecord) (line : ContentLine) :
    (r.renumber numbering).take line = (r.take line).renumber numbering := by
  rw [OpenRecord.take, OpenRecord.take]
  split <;> rfl

private theorem content_renumber (r : OpenRecord) (line : List Char) :
    (r.renumber numbering).content line = (r.content line).renumber numbering := by
  rw [OpenRecord.content, OpenRecord.content]
  split
  · exact take_renumber numbering r _
  · rfl

private theorem resume_renumber (r : OpenRecord) (outer : List Block) :
    (r.renumber numbering).resume (outer.map (Block.renumber numbering)) =
      (r.resume outer).renumber numbering := by
  cases outer <;> rfl

private theorem nextInside_renumber (number : Nat) (r : OpenRecord) (line : List Char) :
    (r.renumber numbering).next (numbering number) line =
      (r.next number line).renumber numbering := by
  rw [OpenRecord.next, OpenRecord.next]
  split
  · split
    · rfl
    · exact content_renumber numbering r line
  · rfl
  · exact content_renumber numbering r line

theorem next_renumber (number : Nat) (line : List Char) (place : Place) :
    (place.renumber numbering).next (numbering number) line =
      (place.next number line).renumber numbering := by
  cases place with
  | outside =>
    rw [Place.renumber, Place.next, Place.next]
    split
    · split <;> rfl
    · rfl
  | inside r => exact nextInside_renumber numbering number r line
  | continuing r waiting =>
    rw [Place.renumber, Place.next, Place.next]
    split
    · exact nextInside_renumber numbering number (r.add waiting) line
    · exact take_renumber numbering r _
  | skipping r block outer =>
    rw [Place.renumber, Place.next, Place.next]
    split
    · rw [Block.renumber, resume_renumber]
      split <;> rfl
    · rfl
    · rfl

private theorem closed_renumber (line : List Char) (place : Place) :
    (place.renumber numbering).closed? line = place.closed? line := by
  cases place <;> rfl

namespace Reader

variable (records : List Record)

theorem step_renumber (s : Reader) (line : List Char)
    (regular : numbering (s.count + 1) = numbering s.count + 1) :
    (s.renumber numbering records).step line = (s.step line).renumber numbering records := by
  rw [step_eq, step_eq]
  simp only [renumber, closed_renumber, List.append_assoc, ← regular, next_renumber]

/-- Only how the lines to come are numbered matters to a run. -/
theorem run_renumber (lines : List (List Char)) (s : Reader)
    (regular : ∀ n, s.count ≤ n → numbering (n + 1) = numbering n + 1) :
    lines.foldl step (s.renumber numbering records) =
      (lines.foldl step s).renumber numbering records := by
  induction lines generalizing s with
  | nil => rfl
  | cons line lines ih =>
    have count : (s.step line).count = s.count + 1 := by rw [step_eq]
    rw [List.foldl_cons, step_renumber numbering records s line (regular _ (Nat.le_refl _)), ih,
      List.foldl_cons]
    intro n read
    exact regular n (by omega)

theorem finish_renumber (s : Reader) :
    (s.renumber numbering records).finish = match s.finish with
      | .ok closed => .ok (records ++ closed)
      | .error e => .error ⟨numbering e.line, e.block⟩ := by
  obtain ⟨closed, count, place⟩ := s
  cases place <;> rfl

theorem finish_mapError (s : Reader) :
    (s.renumber numbering []).finish = s.finish.mapError (Unclosed.renumber numbering) := by
  rw [finish_renumber]
  cases s.finish <;> rfl

end Reader

/-- A place that a reader can have reached within some number of lines: each block that is open was
opened on one of them, and a line waits only where a soft line break can continue it. -/
def Place.Reached (count : Nat) : Place → Prop
  | .outside => True
  | .inside r => r.line ≤ count
  | .continuing r waiting => r.line ≤ count ∧ waiting.isQuotedPrintable = true
  | .skipping r block outer => r.line ≤ count ∧ ∀ b ∈ block :: outer, b.line ≤ count

section Reached

variable (count : Nat)

private theorem reached_take (r : OpenRecord) (line : ContentLine) (read : r.line ≤ count) :
    (r.take line).Reached count := by
  rw [OpenRecord.take]
  split
  · rename_i soft
    exact ⟨read, (Bool.and_eq_true_iff.mp soft).1⟩
  · exact read

private theorem reached_content (r : OpenRecord) (line : List Char) (read : r.line ≤ count) :
    (r.content line).Reached count := by
  rw [OpenRecord.content]
  split
  · exact reached_take count r _ read
  · exact read

private theorem reached_nextInside (r : OpenRecord) (number : Nat) (line : List Char)
    (read : r.line ≤ count) (bound : number ≤ count) : (r.next number line).Reached count := by
  rw [OpenRecord.next]
  split
  · split
    · trivial
    · exact reached_content count r line read
  · exact ⟨read, by simpa using bound⟩
  · exact reached_content count r line read

theorem reached_next (place : Place) (number : Nat) (line : List Char)
    (reached : place.Reached count) (bound : number ≤ count) :
    (place.next number line).Reached count := by
  cases place with
  | outside =>
    rw [Place.next]
    split
    · split
      · exact bound
      · trivial
    · trivial
  | inside r => exact reached_nextInside count r number line reached bound
  | continuing r waiting =>
    rw [Place.next]
    split
    · exact reached_nextInside count (r.add waiting) number line reached.1 bound
    · exact reached_take count r _ reached.1
  | skipping r block outer =>
    obtain ⟨record, blocks⟩ := reached
    rw [Place.next]
    split
    · split
      · cases outer with
        | nil => exact record
        | cons next more => exact ⟨record, fun b member => blocks b (by simp [member])⟩
      · exact ⟨record, blocks⟩
    · exact ⟨record, by simpa using ⟨bound, by simpa using blocks⟩⟩
    · exact ⟨record, blocks⟩

private theorem reached_later (place : Place) (more : Nat) (reached : place.Reached count)
    (later : count ≤ more) : place.Reached more := by
  cases place with
  | outside => trivial
  | inside r => exact Nat.le_trans reached later
  | continuing r waiting => exact ⟨Nat.le_trans reached.1 later, reached.2⟩
  | skipping r block outer =>
    exact ⟨Nat.le_trans reached.1 later, fun b member => Nat.le_trans (reached.2 b member) later⟩

theorem reached_run (lines : List (List Char)) (s : Reader) (reached : s.place.Reached s.count) :
    (lines.foldl Reader.step s).place.Reached (lines.foldl Reader.step s).count := by
  induction lines generalizing s with
  | nil => exact reached
  | cons line lines ih =>
    apply ih (s.step line)
    rw [Reader.step_eq]
    exact reached_next _ s.place _ line (reached_later _ s.place _ reached (Nat.le_succ _))
      (Nat.le_refl _)

/-- Numbering the lines to come in another way does not act on a place. -/
theorem renumber_reached (place : Place) (numbering : Nat → Nat) (reached : place.Reached count)
    (kept : ∀ n ≤ count, numbering n = n) : place.renumber numbering = place := by
  have record (r : OpenRecord) (read : r.line ≤ count) : r.renumber numbering = r := by
    rw [OpenRecord.renumber, kept r.line read]
  have block (b : Block) (read : b.line ≤ count) : b.renumber numbering = b := by
    rw [Block.renumber, kept b.line read]
  cases place with
  | outside => rfl
  | inside r => rw [Place.renumber, record r reached]
  | continuing r waiting => rw [Place.renumber, record r reached.1]
  | skipping r first outer =>
    obtain ⟨opened, blocks⟩ := reached
    have others : outer.map (Block.renumber numbering) = outer :=
      (List.map_congr_left fun b member => block b (blocks b (by simp [member]))).trans
        outer.map_id
    rw [Place.renumber, record r opened, block first (blocks first (by simp)), others]

end Reached

end CardFile.Wire
