import CardFile.Card.Decode
import CardFile.Proofs.Fold
import CardFile.Proofs.Numbering

/-!
Documents one after the other, and single lines between them. Once every block of the first is
closed, nothing that was read of it acts on the second, except that lines are counted from the start
of the first.
-/
namespace CardFile

namespace Wire

private theorem head_ended (r rest : List Char) (noSpace : ∀ tail, r ≠ ' ' :: tail)
    (noTab : ∀ tail, r ≠ '\t' :: tail) :
    ∀ c ∈ (r ++ '\n' :: rest).head?, c ≠ ' ' ∧ c ≠ '\t' := by
  cases r with
  | nil => simp
  | cons d r =>
    rintro c ⟨⟩
    exact ⟨fun space => noSpace r (by rw [space]), fun tab => noTab r (by rw [tab])⟩

/-- Unfolding looks no further than the character after a line break: text up to the end of a line
is unfolded by itself if what follows continues no line. -/
theorem unfold_ended (a : List Char) : ∃ x, ∀ b : List Char,
    (∀ c ∈ b.head?, c ≠ ' ' ∧ c ≠ '\t') → unfold (a ++ '\n' :: b) = x ++ '\n' :: unfold b := by
  fun_induction unfold a with
  | case1 => exact ⟨[], unfold_feed⟩
  | case4 r noSpace noTab ih =>
    obtain ⟨x, same⟩ := ih
    refine ⟨'\n' :: x, fun b next => ?_⟩
    rw [List.cons_append, List.cons_append, unfold_break _ (head_ended r b noSpace noTab),
      same b next, List.cons_append]
  | case7 c r _ _ noBreak noSpace noTab ih =>
    obtain ⟨x, same⟩ := ih
    by_cases feed : c = '\n'
    · refine ⟨'\n' :: x, fun b next => ?_⟩
      have head := head_ended r b (fun tail => noSpace tail feed) fun tail => noTab tail feed
      rw [feed, List.cons_append, unfold_feed _ head, same b next, List.cons_append]
    · by_cases last : c = '\r' ∧ r = []
      · -- This carriage return belongs to the line break that ends the text.
        obtain ⟨rfl, rfl⟩ := last
        exact ⟨[], unfold_break⟩
      · refine ⟨c :: x, fun b next => ?_⟩
        rw [List.cons_append, unfold_cons c _ feed, same b next, List.cons_append]
        rintro rfl
        cases r with
        | nil => simp at last
        | cons d r =>
          rintro ⟨⟩
          exact noBreak r rfl rfl
  | _ =>
    rename_i ih
    obtain ⟨x, same⟩ := ih
    exact ⟨x, fun b next => by simpa [unfold] using same b next⟩

private theorem contentLines_ended (x y : List Char) :
    contentLines (x ++ '\n' :: y) = contentLines (x ++ ['\n']) ++ contentLines y := by
  have lines : Text.lines (x ++ '\n' :: y) = Text.lines (x ++ ['\n']) ++ Text.lines y := by
    have filled := List.splitOn_ne_nil '\n' y
    simp [Text.lines, List.splitOn_append_cons_self, List.dropLast_append_of_ne_nil filled,
      List.getLast?_append_of_ne_nil _ filled]
  rw [contentLines, lines, List.filter_append]
  rfl

/-- The logical lines of two documents are those of the first and then those of the second. -/
theorem logicalLines_append (a b : List Char) (ended : a = [] ∨ a.getLast? = some '\n')
    (next : ∀ c ∈ b.head?, c ≠ ' ' ∧ c ≠ '\t') :
    logicalLines (a ++ b) = logicalLines a ++ logicalLines b := by
  rcases ended with rfl | ended
  · rfl
  · obtain ⟨text, rfl⟩ := List.getLast?_eq_some_iff.mp ended
    obtain ⟨x, same⟩ := unfold_ended text
    have first : logicalLines (text ++ ['\n']) = contentLines (x ++ ['\n']) := by
      rw [logicalLines, same [] (by simp)]
      rfl
    rw [List.append_assoc, List.singleton_append, first, logicalLines, same b next,
      contentLines_ended, logicalLines]

private theorem contentLines_plain (line : List Char) (plain : PlainLine line) :
    contentLines line = [line] := by
  have filled : line ≠ [] := by
    rintro rfl
    simpa using plain.filled
  simp [contentLines, Text.lines, List.splitOn_eq_singleton plain.noFeed, filled, plain.filled]

/-- Texts that a physical line can stand between, with its break. It starts in the first column,
only the last line of a text may lack a break, and the next line does not continue it. -/
structure AroundLine (before ending after : List Char) : Prop where
  starts : before = [] ∨ before.getLast? = some '\n'
  ended : ending = ['\n'] ∨ ending = ['\r', '\n'] ∨ ending = [] ∧ after = []
  next : ∀ c ∈ after.head?, c ≠ ' ' ∧ c ≠ '\t'

@[simp] theorem logicalLines_nil : logicalLines [] = [] :=
  rfl

/-- A plain line stands among the logical lines of a text as it is. -/
theorem logicalLines_around (before line ending after : List Char) (plain : PlainLine line)
    (around : AroundLine before ending after) :
    logicalLines (before ++ (line ++ (ending ++ after))) =
      logicalLines before ++ line :: logicalLines after := by
  have own (rest : List Char) : unfold (line ++ rest) = line ++ unfold rest :=
    unfold_line line rest plain.noFeed plain.noReturn
  have terminated : contentLines (line ++ ['\n']) = [line] := by
    simpa using contentLines_terminated [line] (by simpa using plain)
  have broken (ending : List Char) (feed : unfold ending = ['\n'])
      (last : (line ++ ending).getLast? = some '\n') :
      logicalLines (line ++ (ending ++ after)) = line :: logicalLines after := by
    rw [← List.append_assoc, logicalLines_append _ after (Or.inr last) around.next, logicalLines,
      own, feed, terminated, List.singleton_append]
  have whole : logicalLines (line ++ (ending ++ after)) = line :: logicalLines after := by
    rcases around.ended with rfl | rfl | ⟨rfl, rfl⟩
    · exact broken ['\n'] rfl (by simp)
    · exact broken ['\r', '\n'] rfl (by simp)
    · rw [logicalLines_nil, List.append_nil, logicalLines, own, unfold, List.append_nil]
      exact contentLines_plain line plain
  rw [logicalLines_append before _ around.starts (plain.unindented _), whole]

section Later

variable (n : Nat)

def OpenRecord.later (r : OpenRecord) : OpenRecord :=
  { r with line := n + r.line }

def Block.later (block : Block) : Block :=
  { block with line := n + block.line }

def Place.later : Place → Place
  | .outside => .outside
  | .inside r => .inside (r.later n)
  | .continuing r line => .continuing (r.later n) line
  | .skipping r block outer => .skipping (r.later n) (block.later n) (outer.map (Block.later n))

def Reader.later (records : List Record) (s : Reader) : Reader :=
  ⟨records ++ s.records, n + s.count, s.place.later n⟩

namespace Reader

variable (records : List Record)

private theorem later_renumber (s : Reader) :
    s.later n records = s.renumber (n + ·) records := by
  obtain ⟨closed, count, place⟩ := s
  cases place <;> rfl

theorem run_later (lines : List (List Char)) (s : Reader) :
    lines.foldl step (s.later n records) = (lines.foldl step s).later n records := by
  rw [later_renumber, later_renumber, run_renumber (n + ·) records lines s fun _ _ => rfl]

private theorem finish_later (s : Reader) : (s.later n records).finish = match s.finish with
    | .ok closed => .ok (records ++ closed)
    | .error e => .error ⟨n + e.line, e.block⟩ := by
  rw [later_renumber]
  exact finish_renumber (n + ·) records s

private theorem finish_ok (s : Reader) (rs : List Record) (ok : s.finish = .ok rs) :
    s = ⟨rs, s.count, .outside⟩ := by
  obtain ⟨closed, count, place⟩ := s
  cases place <;> cases ok
  rfl

end Reader

end Later

/-- Lines whose blocks are all closed, and others after them, are read as the ones and then the
others. -/
theorem readLines_append (a b : List (List Char)) (ra : List Record) (read : readLines a = .ok ra) :
    readLines (a ++ b) = match readLines b with
      | .ok rb => .ok (ra ++ rb)
      | .error e => .error ⟨a.length + e.line, e.block⟩ := by
  have reached : a.foldl Reader.step .initial = Reader.later a.length ra .initial := by
    have count := Reader.count_run a .initial
    rw [Reader.finish_ok _ ra read]
    simpa [Reader.later, Reader.initial, Place.later] using count
  rw [readLines, List.foldl_append, reached, Reader.run_later, Reader.finish_later, readLines]

/-- Reading takes texts that stand one after the other apart: where the first is read to its end
and the second continues no line of it, the records are those of the first and then those of the
second, and a block that the second leaves open is reported as in the second alone, its line
counted from the start of the first. So are the cards. -/
theorem parse_concatenation (a b : String) (ended : a = "" ∨ a.toList.getLast? = some '\n')
    (next : ∀ c ∈ b.toList.head?, c ≠ ' ' ∧ c ≠ '\t') (ra : List Record)
    (parsed : parse a = .ok ra) :
    (∀ rb, parse b = .ok rb → parse (a ++ b) = .ok (ra ++ rb)) ∧
    (∀ e, parse b = .error e →
      parse (a ++ b) = .error ⟨(logicalLines a.toList).length + e.line, e.block⟩) ∧
    ∀ ca cb, Card.loadStrict a = .ok ca → Card.loadStrict b = .ok cb →
      Card.loadStrict (a ++ b) = .ok (ca ++ cb) := by
  have lines : logicalLines (a ++ b).toList = logicalLines a.toList ++ logicalLines b.toList := by
    rw [String.toList_append]
    exact logicalLines_append _ _ (ended.imp (fun empty => by rw [empty]; rfl) id) next
  have whole : parse (a ++ b) = match parse b with
      | .ok rb => .ok (ra ++ rb)
      | .error e => .error ⟨(logicalLines a.toList).length + e.line, e.block⟩ := by
    rw [parse, lines, readLines_append _ _ ra parsed, parse]
  refine ⟨fun rb read => by rw [whole, read], fun e unclosed => by rw [whole, unclosed], ?_⟩
  intro ca cb first second
  rw [Card.loadStrict, parsed] at first
  rw [Card.loadStrict] at second ⊢
  rw [whole]
  cases read : parse b with
  | error e =>
    rw [read] at second
    cases second
  | ok rb =>
    rw [read] at second
    cases first
    cases second
    simp [Except.map]

def closedText : String :=
  "junk\r\n\r\nBEGIN:VCARD\r\nBEGIN:X\r\nEND:x\r\nEND:VCARD\r\n"

def openText : String :=
  "BEGIN:vcard\n\nBEGIN:Y\n"

theorem parse_concatenation_openText : (closedText = "" ∨ closedText.toList.getLast? = some '\n') ∧
    (∀ c ∈ openText.toList.head?, c ≠ ' ' ∧ c ≠ '\t') ∧
    parse closedText = .ok [⟨vcard, []⟩] ∧ parse openText = .error ⟨2, "Y"⟩ ∧
    parse (closedText ++ openText) = .error ⟨7, "Y"⟩ ∧
    Card.loadStrict (closedText ++ closedText) = .ok [Card.blank, Card.blank] := by
  have ended : closedText = "" ∨ closedText.toList.getLast? = some '\n' := Or.inr (by decide)
  have first : openText.toList.head? = some 'B' ∧ closedText.toList.head? = some 'j' := by decide
  have next : ∀ c ∈ openText.toList.head?, c ≠ ' ' ∧ c ≠ '\t' := by simp [first]
  have again : ∀ c ∈ closedText.toList.head?, c ≠ ' ' ∧ c ≠ '\t' := by simp [first]
  have closed : parse closedText = .ok [⟨vcard, []⟩] := by rfl
  have unclosed : parse openText = .error ⟨2, "Y"⟩ := by rfl
  have cards : Card.loadStrict closedText = .ok [Card.blank] := by
    rw [Card.loadStrict, closed]
    rfl
  exact ⟨ended, next, closed, unclosed,
    (parse_concatenation closedText openText ended next _ closed).2.1 _ unclosed,
    (parse_concatenation closedText closedText ended again _ closed).2.2 _ _ cards cards⟩

end Wire

end CardFile
