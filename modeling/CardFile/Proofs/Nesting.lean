import CardFile.Proofs.Step

/-!
The boundaries of a document. Which records it has, and whether it can be read at all, is decided by
the lines that open and close blocks; what the other lines hold makes no difference, wherever a soft
line break joins them.
-/
namespace CardFile.Wire

/-- What boundaries come to: how many records they have opened, and whether they leave the last one
open. In an open record the blocks nested in it make a stack, the innermost on top. -/
inductive Nesting
  | outside (opened : Nat)
  | inside (opened : Nat) (stack : List (List Char))
  deriving DecidableEq

namespace Nesting

def step : Nesting → Boundary → Nesting
  | outside n, .opening block => if isVCard block then inside (n + 1) [] else outside n
  | outside n, .closing _ => outside n
  | inside n stack, .opening block => inside n (block :: stack)
  | inside n [], .closing block => if isVCard block then outside n else inside n []
  | inside n (top :: stack), .closing block =>
    if Text.sameLetters block top then inside n stack else inside n (top :: stack)

/-- The number of records, or the name of the block that is missing its end. -/
def outcome : Nesting → Except String Nat
  | outside n => .ok n
  | inside _ [] => .error vcard
  | inside _ (top :: _) => .error (String.ofList top)

end Nesting

def Place.nesting (closed : Nat) : Place → Nesting
  | .outside => .outside closed
  | .inside _ => .inside (closed + 1) []
  | .continuing _ _ => .inside (closed + 1) []
  | .skipping _ block outer => .inside (closed + 1) ((block :: outer).map Block.name)

def Reader.nesting (s : Reader) : Nesting :=
  s.place.nesting s.records.length

private theorem nesting_take (closed : Nat) (r : OpenRecord) (line : ContentLine) :
    (r.take line).nesting closed = .inside (closed + 1) [] := by
  rw [OpenRecord.take]
  split <;> rfl

private theorem nesting_content (closed : Nat) (r : OpenRecord) (line : List Char) :
    (r.content line).nesting closed = .inside (closed + 1) [] := by
  rw [OpenRecord.content]
  split
  · exact nesting_take closed r _
  · rfl

private theorem nesting_resume (closed : Nat) (r : OpenRecord) (outer : List Block) :
    (r.resume outer).nesting closed = .inside (closed + 1) (outer.map Block.name) := by
  cases outer <;> rfl

/-- A line that is no boundary leaves the nesting as it is. -/
theorem Reader.nesting_content (s : Reader) (line : List Char)
    (content : Boundary.ofLine? line = none) : (s.step line).nesting = s.nesting := by
  obtain ⟨records, count, place⟩ := s
  rw [step_content _ line content, nesting, nesting]
  dsimp only
  cases place with
  | outside => simp [Place.next, content]
  | inside r =>
    rw [next_inside _ line content]
    exact Wire.nesting_content records.length r line
  | continuing r waiting =>
    rw [next_continuing _ line content]
    exact nesting_take records.length r _
  | skipping r block outer => simp [Place.next, content]

private theorem nesting_boundary_inside (records : List Record) (number : Nat) (r : OpenRecord)
    (line : List Char) (boundary : Boundary) (found : Boundary.ofLine? line = some boundary) :
    (r.next number line).nesting (records ++ ((Place.inside r).closed? line).toList).length =
      (Nesting.inside (records.length + 1) []).step boundary := by
  rw [OpenRecord.next, Place.closed?, closesCard, found]
  cases boundary with
  | opening block => simp [Nesting.step, Place.nesting]
  | closing block =>
    cases closes : isVCard block with
    | true => simp [Nesting.step, Place.nesting, closes]
    | false => simpa [Nesting.step, closes] using Wire.nesting_content records.length r line

/-- A boundary acts on the nesting, and on nothing else of the place. -/
theorem Reader.nesting_boundary (s : Reader) (line : List Char) (boundary : Boundary)
    (found : Boundary.ofLine? line = some boundary) :
    (s.step line).nesting = s.nesting.step boundary := by
  obtain ⟨records, count, place⟩ := s
  rw [step_eq, nesting, nesting]
  cases place with
  | outside =>
    rw [Place.next, found]
    cases boundary with
    | opening block =>
      cases opens : isVCard block <;> simp [Nesting.step, Place.nesting, Place.closed?, opens]
    | closing block => simp [Nesting.step, Place.nesting, Place.closed?]
  | inside r => exact nesting_boundary_inside records _ r line boundary found
  | continuing r waiting =>
    rw [Place.next, found]
    exact nesting_boundary_inside records _ (r.add waiting) line boundary found
  | skipping r block outer =>
    rw [Place.next, found]
    cases boundary with
    | opening name => simp [Nesting.step, Place.nesting, Place.closed?]
    | closing name =>
      cases closes : Text.sameLetters name block.name with
      | true => simpa [Nesting.step, Place.closed?, Place.nesting.eq_4, closes] using
          nesting_resume records.length r outer
      | false => simp [Nesting.step, Place.nesting, Place.closed?, closes]

theorem Reader.nesting_run (lines : List (List Char)) (s : Reader) :
    (lines.foldl step s).nesting =
      (lines.filterMap Boundary.ofLine?).foldl Nesting.step s.nesting := by
  induction lines generalizing s with
  | nil => rfl
  | cons line lines ih =>
    rw [List.foldl_cons, ih]
    cases found : Boundary.ofLine? line with
    | none => rw [List.filterMap_cons_none found, nesting_content s line found]
    | some boundary =>
      rw [List.filterMap_cons_some found, List.foldl_cons, nesting_boundary s line boundary found]

/-- What a document is read as, as far as its blocks go. -/
def framing : Except Unclosed (List Record) → Except String Nat
  | .ok records => .ok records.length
  | .error e => .error e.block

/-- Reading a document ends as its boundaries do: with as many records as they open, if they close
them all, and otherwise with the innermost block that they leave open. -/
theorem readLines_boundaries (lines : List (List Char)) : framing (readLines lines) =
    ((lines.filterMap Boundary.ofLine?).foldl Nesting.step (.outside 0)).outcome := by
  have start : Reader.initial.nesting = .outside 0 := rfl
  rw [← start, ← Reader.nesting_run, readLines]
  obtain ⟨records, count, place⟩ := lines.foldl Reader.step .initial
  cases place <;> rfl

end CardFile.Wire
