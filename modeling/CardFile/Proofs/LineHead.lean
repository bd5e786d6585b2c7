import CardFile.Proofs.ContentLine

/-!
Heads of content lines: what stands before the value. The head alone decides how a line is read, so
with another value the line is read in the same way; and a head with parameters begins neither a
boundary nor the continuation of a line before it.
-/
namespace CardFile.Wire

theorem cutValue_eq (quoted : Bool) (line head value : List Char)
    (found : cutValue quoted line = some (head, value)) : line = head ++ ':' :: value := by
  induction line generalizing quoted head value with
  | nil => simp [cutValue] at found
  | cons c line ih =>
    rw [cutValue] at found
    split at found
    · rename_i colon
      cases found
      simp [colon.1]
    · obtain ⟨⟨more, value'⟩, cut, same⟩ := Option.map_eq_some_iff.mp found
      cases same
      rw [ih _ more value cut, List.cons_append]

theorem cutGroup_named (head : List Char) : ∀ group ∈ (cutGroup head).1, isName group = true := by
  rw [cutGroup]
  split
  · split
    · rename_i named
      rintro group ⟨⟩
      exact named
    · simp
  · simp

theorem cutGroup_eq (head : List Char) :
    head = writtenGroup ((cutGroup head).1.map String.ofList) ++ (cutGroup head).2 := by
  rw [cutGroup]
  split
  · rename_i group rest found
    split
    · simpa [writtenGroup] using Text.cut_eq '.' head group rest found
    · rfl
  · rfl

theorem cutName_eq (head : List Char) (more : (cutName head).2 ≠ []) :
    head = (cutName head).1 ++ ';' :: (cutName head).2 := by
  rw [cutName] at more ⊢
  cases found : Text.cut ';' head with
  | none => simp [found] at more
  | some parts => exact Text.cut_eq ';' head parts.1 parts.2 found

theorem quotedAfter_cut (quoted : Bool) (head value : List Char)
    (found : cutValue quoted (head ++ ':' :: value) = some (head, value)) :
    quotedAfter quoted head = some false := by
  induction head generalizing quoted with
  | nil =>
    cases quoted with
    | false => rfl
    | true => simp [cutValue] at found
  | cons c head ih =>
    rw [List.cons_append, cutValue] at found
    split at found
    · simp at found
    · rename_i bare
      obtain ⟨⟨more, rest⟩, cut, same⟩ := Option.map_eq_some_iff.mp found
      cases same
      rw [quotedAfter, if_neg bare, ih _ cut]

/-- A line that can be read has a value, and the separator before it. -/
theorem cut_of_read (text : List Char) (line : ContentLine)
    (read : ContentLine.read text = .ok line) :
    ∃ head, cutValue false text = some (head, line.value) := by
  rw [ContentLine.read] at read
  split at read
  · cases read
  · rename_i head value found
    dsimp only at read
    split at read
    · split at read
      · cases read
      · cases read
        exact ⟨head, found⟩
    · cases read

section Head

variable (head value : List Char) (line : ContentLine)
variable (read : ContentLine.read (head ++ ':' :: value) = .ok line) (own : line.value = value)

include read own

private theorem cut_head : cutValue false (head ++ ':' :: value) = some (head, value) := by
  obtain ⟨front, found⟩ := cut_of_read _ line read
  rw [own] at found
  have whole := cutValue_eq false _ front value found
  rw [found, List.append_cancel_right whole]

/-- A line is read in the same way with another value. -/
theorem read_value (other : List Char) :
    ContentLine.read (head ++ ':' :: other) = .ok { line with value := other } := by
  have cut := cut_head head value line read own
  have cut' : cutValue false (head ++ ':' :: other) = some (head, other) := by
    rw [cutValue_append false false head _ (quotedAfter_cut false head value cut)]
    simp [cutValue]
  rw [ContentLine.read, cut] at read
  rw [ContentLine.read, cut']
  dsimp only at read ⊢
  split at read
  · rename_i named
    rw [if_pos named]
    split at read
    · cases read
    · cases read
      rfl
  · cases read

variable (parameters : line.parameters ≠ [])

include parameters

/-- A line with parameters starts with a name, and a semicolon after it. -/
theorem head_parts : ∃ group name rest, head = writtenGroup group ++ name ++ ';' :: rest ∧
    (∀ g ∈ group, isName g.toList = true) ∧ isName name = true := by
  have cut := cut_head head value line read own
  rw [ContentLine.read, cut] at read
  dsimp only at read
  split at read
  · rename_i named
    split at read
    · cases read
    · rename_i ps found
      cases read
      have more : (cutName (cutGroup head).2).2 ≠ [] := by
        intro none
        have empty : readParameters [] = .ok [] := by simp [readParameters]
        rw [none, empty] at found
        cases found
        exact parameters rfl
      have whole := cutGroup_eq head
      rw [cutName_eq (cutGroup head).2 more, ← List.append_assoc] at whole
      refine ⟨_, _, _, whole, ?_, named⟩
      intro g member
      obtain ⟨group, present, rfl⟩ := Option.map_eq_some_iff.mp member
      rw [String.toList_ofList]
      exact cutGroup_named head group present
  · cases read

theorem boundary_of_head (other : List Char) :
    Boundary.ofLine? (head ++ ':' :: other) = none := by
  obtain ⟨group, name, rest, rfl, grouped, named⟩ := head_parts head value line read own parameters
  have noColon (s : List Char) (name : isName s = true) : ':' ∉ s :=
    isName_absent s ':' name (by decide)
  cases group with
  | none =>
    have mark := boundary_of_mark name (rest ++ ':' :: other) ';' (noColon name named) (Or.inl rfl)
    simpa [writtenGroup] using mark
  | some g =>
    have mark := boundary_of_mark g.toList (name ++ ';' :: (rest ++ ':' :: other)) '.'
      (noColon g.toList (grouped g rfl)) (Or.inr rfl)
    simpa [writtenGroup] using mark

theorem head_solid : ∃ c ∈ head.head?, Text.isBlank c = false := by
  obtain ⟨group, name, rest, rfl, grouped, named⟩ := head_parts head value line read own parameters
  have first (s more : List Char) (name : isName s = true) :
      ∃ c ∈ (s ++ more).head?, Text.isBlank c = false := by
    cases s with
    | nil => simp [isName] at name
    | cons c s => exact ⟨c, rfl, isName_solid _ name c (by simp)⟩
  cases group with
  | none => exact first name (';' :: rest) named
  | some g =>
    rw [writtenGroup, List.append_assoc, List.append_assoc]
    exact first g.toList _ (grouped g rfl)

end Head

end CardFile.Wire
