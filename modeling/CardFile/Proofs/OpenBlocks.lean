import CardFile.Proofs.Numbering
import CardFile.Proofs.Trim

/-!
The line that a report points at. A text that cannot be read leaves blocks open, and the report
names the innermost of them. Its number counts the lines of the unfolded text up to the one that
opens this block, but only those that are not blank.
-/
namespace CardFile.Wire

/-- The blocks that are open after a line, the innermost first, given those that are open before it.
Where none is open, only a record can be opened. -/
def blocksAfter (number : Nat) (line : List Char) : List Block → List Block
  | [] =>
    match Boundary.ofLine? line with
    | some (.opening name) => if isVCard name then [⟨vcard.toList, number⟩] else []
    | _ => []
  | top :: outer =>
    match Boundary.ofLine? line with
    | some (.opening name) => ⟨name, number⟩ :: top :: outer
    | some (.closing name) => if Text.sameLetters name top.name then outer else top :: outer
    | none => top :: outer

/-- The blocks that lines leave open, the innermost first. Each has the number of the line that
opens it, where every line counts. -/
def openBlocks (lines : List (List Char)) : List Block :=
  (lines.zipIdx 1).foldl (fun blocks (line, number) => blocksAfter number line blocks) []

/-- The line names the block as one that begins, in capitals or not. -/
def Block.OpenedBy (block : Block) (line : List Char) : Prop :=
  ∃ name, Boundary.ofLine? line = some (.opening name) ∧ Text.sameLetters name block.name = true

theorem openBlocks_append (lines : List (List Char)) (line : List Char) :
    openBlocks (lines ++ [line]) = blocksAfter (lines.length + 1) line (openBlocks lines) := by
  rw [openBlocks, List.zipIdx_append, List.foldl_append, Nat.add_comm]
  rfl

section Reader

def OpenRecord.block (r : OpenRecord) : Block :=
  ⟨vcard.toList, r.line⟩

def Place.blocks : Place → List Block
  | .outside => []
  | .inside r => [r.block]
  | .continuing r _ => [r.block]
  | .skipping r block outer => block :: (outer ++ [r.block])

private theorem blocks_take (r : OpenRecord) (line : ContentLine) :
    (r.take line).blocks = [r.block] := by
  rw [OpenRecord.take]
  split <;> rfl

private theorem blocks_content (r : OpenRecord) (line : List Char) :
    (r.content line).blocks = [r.block] := by
  rw [OpenRecord.content]
  split
  · exact blocks_take r _
  · rfl

private theorem blocks_resume (r : OpenRecord) (outer : List Block) :
    (r.resume outer).blocks = outer ++ [r.block] := by
  cases outer <;> rfl

private theorem blocks_nextInside (r : OpenRecord) (number : Nat) (line : List Char) :
    (r.next number line).blocks = blocksAfter number line [r.block] := by
  rw [OpenRecord.next, blocksAfter]
  cases Boundary.ofLine? line with
  | none => exact blocks_content r line
  | some boundary =>
    cases boundary with
    | opening name => rfl
    | closing name =>
      change Place.blocks (if isVCard name then .outside else r.content line) =
        if isVCard name then [] else [r.block]
      split
      · rfl
      · exact blocks_content r line

/-- A line acts on the open blocks as it does on the place. -/
theorem blocks_next (place : Place) (number : Nat) (line : List Char) :
    (place.next number line).blocks = blocksAfter number line place.blocks := by
  cases place with
  | outside =>
    rw [Place.next, Place.blocks, blocksAfter]
    cases Boundary.ofLine? line with
    | none => rfl
    | some boundary =>
      cases boundary with
      | opening name => cases card : isVCard name <;> simp [card, Place.blocks, OpenRecord.block]
      | closing name => rfl
  | inside r => exact blocks_nextInside r number line
  | continuing r waiting =>
    rw [Place.next]
    split
    · exact blocks_nextInside (r.add waiting) number line
    · rename_i content
      rw [Place.blocks, blocksAfter, content]
      exact blocks_take r _
  | skipping r block outer =>
    rw [Place.next, Place.blocks, blocksAfter]
    cases Boundary.ofLine? line with
    | none => rfl
    | some boundary =>
      cases boundary with
      | opening name => rfl
      | closing name =>
        dsimp only
        split
        · exact blocks_resume r outer
        · rfl

/-- After any lines, the blocks that are open at the place of the reader are those the lines leave
open. -/
theorem blocks_run (lines : List (List Char)) :
    (lines.foldl Reader.step .initial).place.blocks = openBlocks lines := by
  induction lines using List.reverseRecOn with
  | nil => rfl
  | append_singleton lines line ih =>
    have count : (lines.foldl Reader.step .initial).count = lines.length := by
      simpa [Reader.initial] using Reader.count_run lines .initial
    rw [List.foldl_append, List.foldl_cons, List.foldl_nil, Reader.step_eq, blocks_next, ih, count,
      openBlocks_append]

private theorem finish_blocks (s : Reader) : s.finish = match s.place.blocks with
    | [] => .ok s.records
    | top :: _ => .error ⟨top.line, String.ofList top.name⟩ := by
  obtain ⟨records, count, place⟩ := s
  cases place <;> rfl

theorem readLines_error (lines : List (List Char)) (e : Unclosed)
    (failed : readLines lines = .error e) :
    ∃ top outer, openBlocks lines = top :: outer ∧ e = ⟨top.line, String.ofList top.name⟩ := by
  rw [readLines, finish_blocks, blocks_run] at failed
  split at failed
  · cases failed
  · rename_i top outer opened
    cases failed
    exact ⟨top, outer, opened, rfl⟩

end Reader

section Numbers

private theorem mem_blocksAfter (number : Nat) (line : List Char) (blocks : List Block)
    (block : Block) (member : block ∈ blocksAfter number line blocks) :
    block ∈ blocks ∨ block.line = number ∧ block.OpenedBy line := by
  cases blocks with
  | nil =>
    rw [blocksAfter] at member
    split at member
    · rename_i name found
      split at member
      · rename_i card
        obtain rfl := List.mem_singleton.mp member
        exact Or.inr ⟨rfl, name, found, card⟩
      · exact Or.inl member
    · exact Or.inl member
  | cons top outer =>
    rw [blocksAfter] at member
    split at member
    · rename_i name found
      rcases List.mem_cons.mp member with rfl | member
      · exact Or.inr ⟨rfl, name, found, by rw [Text.sameLetters, beq_self_eq_true]⟩
      · exact Or.inl member
    · split at member
      · exact Or.inl (List.mem_cons_of_mem top member)
      · exact Or.inl member
    · exact Or.inl member

/-- The number of an open block is that of a line that opens it. -/
theorem openBlocks_opened (lines : List (List Char)) (block : Block)
    (member : block ∈ openBlocks lines) :
    0 < block.line ∧ ∃ line, lines[block.line - 1]? = some line ∧ block.OpenedBy line := by
  induction lines using List.reverseRecOn with
  | nil => simp [openBlocks] at member
  | append_singleton lines last ih =>
    rw [openBlocks_append] at member
    rcases mem_blocksAfter _ last _ block member with earlier | ⟨number, opened⟩
    · obtain ⟨positive, line, found, opened⟩ := ih earlier
      have before := (List.getElem?_eq_some_iff.mp found).1
      exact ⟨positive, line, by rwa [List.getElem?_append_left before], opened⟩
    · exact ⟨by omega, last, by simp [number], opened⟩

theorem openBlocks_bound (lines : List (List Char)) (block : Block)
    (member : block ∈ openBlocks lines) : block.line ≤ lines.length := by
  obtain ⟨positive, line, found, -⟩ := openBlocks_opened lines block member
  have := (List.getElem?_eq_some_iff.mp found).1
  omega

private theorem blocksAfter_renumber (numbering : Nat → Nat) (number : Nat) (line : List Char)
    (blocks : List Block) :
    blocksAfter (numbering number) line (blocks.map (Block.renumber numbering)) =
      (blocksAfter number line blocks).map (Block.renumber numbering) := by
  cases blocks with
  | nil =>
    rw [List.map_nil, blocksAfter, blocksAfter]
    split
    · split <;> rfl
    · rfl
  | cons top outer =>
    rw [List.map_cons, blocksAfter, blocksAfter]
    split
    · rfl
    · rw [Block.renumber]
      split <;> rfl
    · rfl

private theorem blocksAfter_content (number : Nat) (line : List Char) (blocks : List Block)
    (content : Boundary.ofLine? line = none) : blocksAfter number line blocks = blocks := by
  cases blocks <;> simp [blocksAfter, content]

private theorem boundary_blank (line : List Char) (blank : line.all Text.isBlank = true) :
    Boundary.ofLine? line = none := by
  have absent : ':' ∉ line := by
    intro colon
    have := List.all_eq_true.mp blank ':' colon
    exact absurd this (by decide)
  rw [Boundary.ofLine?, Text.cut_absent ':' line absent]

/-- How many of the first `n` lines are not blank. -/
def filledAmong (lines : List (List Char)) (n : Nat) : Nat :=
  (lines.take n).countP fun line => !line.all Text.isBlank

private theorem filledAmong_append (lines : List (List Char)) (last : List Char) (n : Nat)
    (inside : n ≤ lines.length) : filledAmong (lines ++ [last]) n = filledAmong lines n := by
  rw [filledAmong, filledAmong, List.take_append_of_le_length inside]

/-- Without the blank lines the same blocks are open, and the others have moved up. -/
theorem openBlocks_filled (lines : List (List Char)) :
    openBlocks (lines.filter fun line => !line.all Text.isBlank) =
      (openBlocks lines).map (Block.renumber (filledAmong lines)) := by
  induction lines using List.reverseRecOn with
  | nil => rfl
  | append_singleton lines last ih =>
    -- The last line does not act on the numbers of the lines before it.
    have earlier : (openBlocks lines).map (Block.renumber (filledAmong lines)) =
        (openBlocks lines).map (Block.renumber (filledAmong (lines ++ [last]))) := by
      apply List.map_congr_left
      intro block member
      rw [Block.renumber, Block.renumber,
        filledAmong_append lines last _ (openBlocks_bound lines block member)]
    rw [List.filter_append, openBlocks_append]
    cases blank : last.all Text.isBlank with
    | true =>
      rw [List.filter_cons_of_neg (by simp [blank]), List.filter_nil, List.append_nil, ih, earlier,
        blocksAfter_content _ last _ (boundary_blank last blank)]
    | false =>
      have number : filledAmong (lines ++ [last]) (lines.length + 1) =
          (lines.filter fun line => !line.all Text.isBlank).length + 1 := by
        rw [filledAmong, List.take_of_length_le (by simp), List.countP_append,
          List.countP_eq_length_filter, List.countP_singleton, blank]
        rfl
      rw [List.filter_cons_of_pos (by simp [blank]), List.filter_nil, openBlocks_append, ih,
        earlier, ← number, blocksAfter_renumber]

end Numbers

def textLines (text : String) : List (List Char) :=
  Text.lines (unfold text.toList)

private theorem filledAmong_eq_iff (lines : List (List Char)) (n : Nat)
    (inside : n ≤ lines.length) :
    filledAmong lines n = n ↔ ∀ line ∈ lines.take n, line.all Text.isBlank = false := by
  have whole : (lines.take n).length = n := List.length_take_of_le inside
  rw [filledAmong]
  conv_lhs => rhs; rw [← whole]
  rw [List.countP_eq_length]
  simp

/-- A report names the innermost block that is open at the end of the text. It gives the number of
the line that opens this block if no line before that one is blank, and a smaller number otherwise,
since blank lines are not counted. -/
theorem parse_reportedLine (text : String) (e : Unclosed) (failed : parse text = .error e) :
    ∃ top outer, openBlocks (textLines text) = top :: outer ∧
      e = ⟨filledAmong (textLines text) top.line, String.ofList top.name⟩ ∧
      (∃ line, (textLines text)[top.line - 1]? = some line ∧ top.OpenedBy line) ∧
      (e.line = top.line ↔
        ∀ line ∈ (textLines text).take top.line, line.all Text.isBlank = false) := by
  obtain ⟨numbered, others, opened, rfl⟩ := readLines_error _ e failed
  have moved := openBlocks_filled (textLines text)
  have logical : (textLines text).filter (fun line => !line.all Text.isBlank) =
      logicalLines text.toList := rfl
  rw [logical, opened] at moved
  obtain ⟨top, outer, whole, rfl, -⟩ := List.map_eq_cons_iff.mp moved.symm
  have member : top ∈ openBlocks (textLines text) := whole ▸ List.mem_cons_self
  exact ⟨top, outer, whole, rfl, (openBlocks_opened _ top member).2,
    filledAmong_eq_iff _ _ (openBlocks_bound _ top member)⟩

def separatedText : String :=
  "BEGIN:VCARD\r\nEND:VCARD\r\n\r\nBEGIN:VCARD\r\nFN:Ann\r\n"

private theorem parse_separatedText : parse separatedText = .error ⟨3, vcard⟩ := by
  decide +kernel

theorem parse_reportedLine_separatedText :
    parse separatedText = .error ⟨3, vcard⟩ ∧
    ∃ top outer, openBlocks (textLines separatedText) = top :: outer ∧
      ⟨3, vcard⟩ = (⟨filledAmong (textLines separatedText) top.line, String.ofList top.name⟩ :
        Unclosed) ∧
      (∃ line, (textLines separatedText)[top.line - 1]? = some line ∧ top.OpenedBy line) ∧
      (3 = top.line ↔
        ∀ line ∈ (textLines separatedText).take top.line, line.all Text.isBlank = false) :=
  ⟨parse_separatedText, parse_reportedLine separatedText _ parse_separatedText⟩

/-- A blank line before the block makes the report point at another line than the one that opens
it. -/
theorem parse_miscounted :
    parse separatedText = .error ⟨3, vcard⟩ ∧
    openBlocks (textLines separatedText) = [⟨vcard.toList, 4⟩] ∧
    (textLines separatedText)[4 - 1]? = some "BEGIN:VCARD".toList ∧
    ¬ ∃ line, (textLines separatedText)[3 - 1]? = some line ∧
      Block.OpenedBy ⟨vcard.toList, 4⟩ line := by
  have third : (textLines separatedText)[3 - 1]? = some [] := by decide +kernel
  refine ⟨parse_separatedText, by decide +kernel, by decide +kernel, ?_⟩
  rintro ⟨line, found, name, opening, -⟩
  obtain rfl : [] = line := Option.some.inj (third.symm.trans found)
  cases opening

end CardFile.Wire
