import CardFile.Wire.Fold
import Mathlib.Data.List.Basic

/-!
Folding and unfolding. A line that starts in the first column and holds no line break comes back
from its physical lines as it was, so the lines of a written document are its logical lines.
-/
namespace CardFile.Wire

/-- A line that a document can hold: it has no LF, no CR at its end, and does not start with a
blank, which would make it the continuation of the line before it. -/
structure PlainLine (line : List Char) : Prop where
  noFeed : '\n' ∉ line
  noReturn : line.getLast? ≠ some '\r'
  start : ∃ c ∈ line.head?, Text.isBlank c = false

/-- A plain line has a character that is not blank. -/
theorem PlainLine.filled {line : List Char} (plain : PlainLine line) :
    line.all Text.isBlank = false := by
  obtain ⟨c, first, solid⟩ := plain.start
  exact List.all_eq_false.mpr ⟨c, List.mem_of_mem_head? first, by simp [solid]⟩

theorem unfold_cons (c : Char) (rest : List Char) (noFeed : c ≠ '\n')
    (next : c = '\r' → rest.head? ≠ some '\n') : unfold (c :: rest) = c :: unfold rest := by
  rw [unfold.eq_def]
  split <;> simp_all

/-- A line that was not folded is unfolded as it is. A CR at its end may be part of a break. -/
theorem unfold_line (line rest : List Char) (noFeed : '\n' ∉ line)
    (noReturn : line.getLast? ≠ some '\r') : unfold (line ++ rest) = line ++ unfold rest := by
  induction line with
  | nil => rfl
  | cons c line ih =>
    obtain ⟨first, others⟩ : c ≠ '\n' ∧ '\n' ∉ line := by
      simpa [eq_comm, not_or] using noFeed
    cases line with
    | nil => exact unfold_cons c rest first fun last => absurd last (by simpa using noReturn)
    | cons d line =>
      have second : d ≠ '\n' := by
        rintro rfl
        simp at others
      exact (unfold_cons c _ first fun _ => by simpa using second).trans
        (congrArg (c :: ·) (ih others (by simpa using noReturn)))

theorem unfold_break (rest : List Char)
    (next : ∀ c ∈ rest.head?, c ≠ ' ' ∧ c ≠ '\t') :
    unfold ('\r' :: '\n' :: rest) = '\n' :: unfold rest := by
  rw [unfold]
  · rintro tail rfl
    simp at next
  · rintro tail rfl
    simp at next

theorem unfold_feed (rest : List Char) (next : ∀ c ∈ rest.head?, c ≠ ' ' ∧ c ≠ '\t') :
    unfold ('\n' :: rest) = '\n' :: unfold rest := by
  rw [unfold.eq_def]
  split <;> simp_all [eq_comm]

/-- Text that does not end within a line break is unfolded by itself, whatever follows it. -/
theorem unfold_append (a b : List Char) (last : ∀ c ∈ a.getLast?, c ≠ '\r' ∧ c ≠ '\n') :
    unfold (a ++ b) = unfold a ++ unfold b := by
  have rest (front r : List Char) (last : ∀ c ∈ (front ++ r).getLast?, c ≠ '\r' ∧ c ≠ '\n') :
      ∀ c ∈ r.getLast?, c ≠ '\r' ∧ c ≠ '\n' :=
    fun c member => last c (by simp [List.getLast?_append, Option.mem_def.mp member])
  fun_induction unfold a with
  | case1 => rfl
  | case2 r ih => exact ih (rest ['\r', '\n', ' '] r last)
  | case3 r ih => exact ih (rest ['\r', '\n', '\t'] r last)
  | case4 r noSpace noTab ih =>
    have head : ∀ c ∈ (r ++ b).head?, c ≠ ' ' ∧ c ≠ '\t' := by
      cases r with
      | nil => simp at last
      | cons d r => simpa using And.intro noSpace noTab
    rw [List.cons_append, List.cons_append, unfold_break _ head, ih (rest ['\r', '\n'] r last),
      List.cons_append]
  | case5 r ih => exact ih (rest ['\n', ' '] r last)
  | case6 r ih => exact ih (rest ['\n', '\t'] r last)
  | case7 c r _ _ noBreak noSpace noTab ih =>
    specialize ih (rest [c] r last)
    cases r with
    | nil =>
      -- The text ends in a character of its own, so the next one is not looked at.
      obtain ⟨noReturn, noFeed⟩ := last c rfl
      exact unfold_cons c b noFeed fun mark => absurd mark noReturn
    | cons d r =>
      by_cases feed : c = '\n'
      · subst c
        have head : ∀ c ∈ (d :: r ++ b).head?, c ≠ ' ' ∧ c ≠ '\t' := by
          simpa using And.intro noSpace noTab
        rw [List.cons_append, unfold_feed _ head, ih, List.cons_append]
      · rw [List.cons_append, unfold_cons c _ feed, ih, List.cons_append]
        rintro rfl ⟨⟩
        exact noBreak r rfl rfl

theorem head_foldInto (room : Nat) (line rest : List Char) (noFeed : '\n' ∉ line) :
    (foldInto room line ++ rest).head? ≠ some '\n' := by
  cases line with
  | nil => simp [foldInto]
  | cons c line =>
    have : c ≠ '\n' := by rintro rfl; simp at noFeed
    rw [foldInto]
    split <;> simp [this]

theorem unfold_foldInto (room : Nat) (line rest : List Char) (noFeed : '\n' ∉ line)
    (next : ∀ c ∈ rest.head?, c ≠ ' ' ∧ c ≠ '\t') :
    unfold (foldInto room line ++ rest) = line ++ '\n' :: unfold rest := by
  induction line generalizing room with
  | nil => exact unfold_break rest next
  | cons c line ih =>
    obtain ⟨first, others⟩ : c ≠ '\n' ∧ '\n' ∉ line := by
      simpa [eq_comm, not_or] using noFeed
    have kept (room : Nat) : unfold (c :: (foldInto room line ++ rest)) =
        c :: (line ++ '\n' :: unfold rest) := by
      rw [unfold_cons c _ first fun _ => head_foldInto room line rest others, ih room others]
    rw [foldInto]
    split
    · exact kept _
    · -- The cut is the first case of `unfold`; its blank goes with it.
      change unfold (c :: (foldInto _ line ++ rest)) = _
      exact kept _

theorem unfold_fold (line rest : List Char) (noFeed : '\n' ∉ line)
    (next : ∀ c ∈ rest.head?, c ≠ ' ' ∧ c ≠ '\t') :
    unfold (fold line ++ rest) = line ++ '\n' :: unfold rest :=
  unfold_foldInto lineLimit line rest noFeed next

private theorem head_fold (c : Char) (line : List Char) :
    ∃ rest, fold (c :: line) = c :: rest := by
  have room : c.utf8Size ≤ lineLimit := Nat.le_trans c.utf8Size_le_four (by decide)
  exact ⟨_, by rw [fold, foldInto, if_pos room]⟩

/-- Text that starts with a solid character does not continue a line before it. -/
theorem unindented_solid (text : List Char) (start : ∃ c ∈ text.head?, Text.isBlank c = false) :
    ∀ c ∈ text.head?, c ≠ ' ' ∧ c ≠ '\t' := by
  obtain ⟨first, present, solid⟩ := start
  intro c member
  obtain rfl : first = c := Option.some.inj (present.symm.trans member)
  constructor <;> rintro rfl <;> simp [Text.isBlank] at solid

/-- Nor does a plain line, whatever follows it. -/
theorem PlainLine.unindented {line : List Char} (plain : PlainLine line) (rest : List Char) :
    ∀ c ∈ (line ++ rest).head?, c ≠ ' ' ∧ c ≠ '\t' := by
  obtain ⟨first, present, solid⟩ := plain.start
  exact unindented_solid _ ⟨first, by simp [Option.mem_def.mp present], solid⟩

private theorem head_folded (lines : List (List Char)) (plain : ∀ line ∈ lines, PlainLine line) :
    ∀ c ∈ (lines.flatMap fold).head?, c ≠ ' ' ∧ c ≠ '\t' := by
  cases lines with
  | nil => simp
  | cons line lines =>
    have own := (plain line (by simp)).unindented []
    cases line with
    | nil =>
      obtain ⟨c, member, -⟩ := (plain [] (by simp)).start
      simp at member
    | cons c line =>
      obtain ⟨rest, folded⟩ := head_fold c line
      simpa [folded] using own

theorem unfold_document (lines : List (List Char)) (plain : ∀ line ∈ lines, PlainLine line) :
    unfold (lines.flatMap fold) = lines.flatMap (· ++ ['\n']) := by
  induction lines with
  | nil => rfl
  | cons line lines ih =>
    have others : ∀ line ∈ lines, PlainLine line := fun l member => plain l (by simp [member])
    rw [List.flatMap_cons, unfold_fold line _ (plain line (by simp)).noFeed
      (head_folded lines others), ih others]
    simp

theorem splitOn_terminated (lines : List (List Char))
    (single : ∀ line ∈ lines, '\n' ∉ line) :
    (lines.flatMap (· ++ ['\n'])).splitOn '\n' = lines ++ [[]] := by
  induction lines with
  | nil => rfl
  | cons line lines ih =>
    simp only [List.flatMap_cons, List.append_assoc, List.cons_append, List.nil_append]
    rw [List.splitOn_append_cons_self_of_not_mem (single line (by simp)),
      ih fun l member => single l (by simp [member])]

theorem lines_terminated (lines : List (List Char)) (plain : ∀ line ∈ lines, PlainLine line) :
    Text.lines (lines.flatMap (· ++ ['\n'])) = lines := by
  have kept : lines.map Text.dropCarriageReturn = lines := by
    refine (List.map_congr_left fun line member => ?_).trans (List.map_id lines)
    exact if_neg (plain line member).noReturn
  simp [Text.lines, splitOn_terminated lines fun line member => (plain line member).noFeed, kept]

theorem contentLines_terminated (lines : List (List Char))
    (plain : ∀ line ∈ lines, PlainLine line) :
    contentLines (lines.flatMap (· ++ ['\n'])) = lines := by
  rw [contentLines, lines_terminated lines plain, List.filter_eq_self]
  intro line member
  simp [(plain line member).filled]

/-- The logical lines of a document are the lines that were folded into it. -/
theorem logicalLines_document (lines : List (List Char))
    (plain : ∀ line ∈ lines, PlainLine line) : logicalLines (lines.flatMap fold) = lines := by
  rw [logicalLines, unfold_document lines plain, contentLines_terminated lines plain]

end CardFile.Wire
