import CardFile.Proofs.Fold
import CardFile.Text.Utf8
import CardFile.Wire.Document
import CardFile.Wire.Structured

/-!
Physical lines. Folding writes a line in pieces that fit the limit with the blank before them, and
unfolding takes a fold out again wherever it stands, so that where a line was cut is no part of what
a document means.
-/
namespace CardFile

theorem Text.Utf8.length_encode_cons (c : Char) (s : List Char) :
    (encode (c :: s)).length = c.utf8Size + (encode s).length := by
  rw [encode, List.flatMap_cons, List.length_append, String.length_utf8EncodeChar, encode]

namespace Wire

open Text.Utf8 (encode length_encode_cons)

/-- What stands between the CRLFs of a text, before the first and after the last. A CR or LF alone
ends no line. -/
def physicalLines : List Char → List (List Char)
  | [] => [[]]
  | '\r' :: '\n' :: r => [] :: physicalLines r
  | c :: r => consFirst c (physicalLines r)

private theorem physicalLines_cons (c : Char) (rest : List Char)
    (next : c = '\r' → rest.head? ≠ some '\n') :
    physicalLines (c :: rest) = consFirst c (physicalLines rest) := by
  rw [physicalLines.eq_def]
  split <;> simp_all

/-- A folded line is written in pieces of it, each but the first behind a blank, and a CRLF ends the
last of them as well. -/
theorem physicalLines_foldInto (room : Nat) (line : List Char) (noFeed : '\n' ∉ line) :
    ∃ (first : List Char) (more : List (List Char)),
      physicalLines (foldInto room line) = first :: (more.map (' ' :: ·) ++ [[]]) ∧
      first ++ more.flatten = line ∧ (encode first).length ≤ room ∧
      ∀ piece ∈ more, (encode piece).length ≤ 74 := by
  induction line generalizing room with
  | nil => exact ⟨[], [], rfl, rfl, Nat.zero_le _, by simp⟩
  | cons c line ih =>
    obtain ⟨-, others⟩ : c ≠ '\n' ∧ '\n' ∉ line := by
      simpa [eq_comm, not_or] using noFeed
    have own (room : Nat) (first : List Char) (more : List (List Char))
        (lines : physicalLines (foldInto room line) = first :: more) :
        physicalLines (c :: foldInto room line) = (c :: first) :: more := by
      have head := head_foldInto room line [] others
      rw [List.append_nil] at head
      rw [physicalLines_cons c _ fun _ => head, lines, consFirst]
    rw [foldInto]
    split
    · rename_i fits
      obtain ⟨first, more, lines, whole, short, rest⟩ := ih (room - c.utf8Size) others
      refine ⟨c :: first, more, own _ _ _ lines, by rw [List.cons_append, whole], ?_, rest⟩
      rw [length_encode_cons]
      omega
    · obtain ⟨first, more, lines, whole, short, rest⟩ := ih (lineLimit - 1 - c.utf8Size) others
      have blank := physicalLines_cons ' ' (c :: foldInto (lineLimit - 1 - c.utf8Size) line)
        (by simp)
      refine ⟨[], (c :: first) :: more, ?_, by simp [whole], Nat.zero_le _, ?_⟩
      · rw [physicalLines, blank, own _ _ _ lines, consFirst]
        rfl
      · have size := c.utf8Size_le_four
        have limit : lineLimit = 75 := rfl
        rw [List.forall_mem_cons, length_encode_cons]
        exact ⟨by omega, rest⟩

theorem physicalLines_fold (line : List Char) (noFeed : '\n' ∉ line) :
    ∀ physical ∈ physicalLines (fold line), (encode physical).length ≤ 75 := by
  obtain ⟨first, more, lines, -, short, rest⟩ := physicalLines_foldInto lineLimit line noFeed
  have last : (encode []).length ≤ 75 := Nat.zero_le _
  intro physical member
  rw [fold, lines, List.mem_cons, List.mem_append, List.mem_map, List.mem_singleton] at member
  rcases member with rfl | ⟨piece, inside, rfl⟩ | rfl
  · exact short
  · rw [length_encode_cons]
    exact Nat.add_le_add_left (rest piece inside) 1
  · exact last

def folds : List (List Char) :=
  [['\r', '\n', ' '], ['\r', '\n', '\t'], ['\n', ' '], ['\n', '\t']]

private theorem unfold_mark (a b mark : List Char) (last : ∀ c ∈ a.getLast?, c ≠ '\r' ∧ c ≠ '\n')
    (known : mark ∈ folds) : unfold (a ++ mark ++ b) = unfold (a ++ b) := by
  have gone : unfold (mark ++ b) = unfold b := by
    simp only [folds, List.mem_cons, List.not_mem_nil, or_false] at known
    rcases known with rfl | rfl | rfl | rfl <;> rfl
  rw [List.append_assoc, unfold_append a _ last, gone, unfold_append a b last]

/-- A folded line unfolds to itself, and none of its physical lines is over the limit. A fold that
stands anywhere but within a line break means nothing, however it is written. -/
theorem fold_transparent :
    (∀ line : List Char, '\n' ∉ line → unfold (fold line) = line ++ ['\n'] ∧
      ∀ physical ∈ physicalLines (fold line), (encode physical).length ≤ 75) ∧
    ∀ a b : List Char, (∀ c ∈ a.getLast?, c ≠ '\r' ∧ c ≠ '\n') → ∀ mark ∈ folds,
      unfold (a ++ mark ++ b) = unfold (a ++ b) ∧
        parse (String.ofList (a ++ mark ++ b)) = parse (String.ofList (a ++ b)) := by
  constructor
  · intro line noFeed
    have invisible := unfold_fold line [] noFeed (by simp)
    rw [List.append_nil] at invisible
    exact ⟨invisible, physicalLines_fold line noFeed⟩
  · intro a b last mark known
    have same := unfold_mark a b mark last known
    refine ⟨same, ?_⟩
    rw [parse, parse, String.toList_ofList, String.toList_ofList, logicalLines, logicalLines, same]

def wideNote : List Char :=
  "NOTE:".toList ++ List.replicate 40 '日'

def openName : List Char :=
  "BEGIN:VCARD\r\nFN:Jon".toList

theorem fold_transparent_wideNote :
    '\n' ∉ wideNote ∧ unfold (fold wideNote) = wideNote ++ ['\n'] ∧
    (physicalLines (fold wideNote)).map (fun physical => (encode physical).length) = [74, 52, 0] ∧
    (∀ physical ∈ physicalLines (fold wideNote), (encode physical).length ≤ 75) ∧
    openName.getLast? = some 'n' ∧ ['\n', '\t'] ∈ folds ∧
    parse (String.ofList (openName ++ ['\n', '\t'] ++ " Smith\r\nEND:VCARD".toList)) =
      parse (String.ofList (openName ++ " Smith\r\nEND:VCARD".toList)) := by
  have noFeed : '\n' ∉ wideNote := by decide
  have last : openName.getLast? = some 'n' := by decide +kernel
  have known : ['\n', '\t'] ∈ folds := by decide
  have inner : ∀ c ∈ openName.getLast?, c ≠ '\r' ∧ c ≠ '\n' := by
    rw [last]
    rintro c ⟨⟩
    decide
  obtain ⟨invisible, bounded⟩ := fold_transparent.1 wideNote noFeed
  have same := (fold_transparent.2 openName " Smith\r\nEND:VCARD".toList inner _ known).2
  exact ⟨noFeed, invisible, by decide +kernel, bounded, last, known, same⟩

end Wire

end CardFile
