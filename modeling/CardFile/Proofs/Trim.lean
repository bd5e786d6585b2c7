import CardFile.Text.Ascii
import CardFile.Text.Blank
import Mathlib.Data.List.DropRight

/-!
Trimming and cutting. Trimming takes off blanks only, so every other character stays, and a
trimmed text has nothing more to take off.
-/
namespace CardFile.Text

private theorem trim_eq (s : List Char) : trim s = (s.dropWhile isBlank).rdropWhile isBlank :=
  rfl

theorem trim_sublist (s : List Char) : (trim s).Sublist s :=
  (List.rdropWhile_prefix isBlank _).sublist.trans (List.dropWhile_sublist isBlank)

theorem mem_of_mem_trim (s : List Char) (c : Char) (member : c ∈ trim s) : c ∈ s :=
  (trim_sublist s).subset member

private theorem mem_dropWhile (s : List Char) (c : Char) (member : c ∈ s)
    (solid : isBlank c = false) : c ∈ s.dropWhile isBlank := by
  induction s with
  | nil => simp at member
  | cons d s ih =>
    rw [List.dropWhile_cons]
    split
    · rename_i blank
      rcases List.mem_cons.mp member with rfl | member
      · simp [solid] at blank
      · exact ih member
    · exact member

theorem mem_trim (s : List Char) (c : Char) (member : c ∈ s) (solid : isBlank c = false) :
    c ∈ trim s := by
  have kept := mem_dropWhile s c member solid
  rw [trim, dropWhileEnd, List.mem_reverse]
  exact mem_dropWhile _ c (List.mem_reverse.mpr kept) solid

private theorem dropWhile_solid (s : List Char) (first : ∀ c ∈ s.head?, isBlank c = false) :
    s.dropWhile isBlank = s := by
  cases s with
  | nil => rfl
  | cons c s => rw [List.dropWhile_cons, if_neg (by simp [first c (by simp)])]

private theorem head_dropWhile (s : List Char) : ∀ c ∈ (s.dropWhile isBlank).head?,
    isBlank c = false := by
  intro c member
  have head := List.head?_dropWhile_not isBlank s
  rwa [Option.mem_def.mp member] at head

private theorem head_trim (s : List Char) : ∀ c ∈ (trim s).head?, isBlank c = false := by
  intro c member
  obtain ⟨tail, whole⟩ := List.rdropWhile_prefix isBlank (s.dropWhile isBlank)
  apply head_dropWhile s c
  rw [← whole]
  rw [trim_eq] at member
  simp [List.head?_append, Option.mem_def.mp member]

private theorem last_trim (s : List Char) : ∀ c ∈ (trim s).getLast?, isBlank c = false := by
  intro c member
  rw [trim_eq] at member
  have some : (s.dropWhile isBlank).rdropWhile isBlank ≠ [] := by
    intro empty
    simp [empty] at member
  rw [List.getLast?_eq_some_getLast some, Option.mem_some_iff] at member
  simpa [member] using List.rdropWhile_last_not isBlank _ some

/-- A text has nothing to take off if it neither starts nor ends with a blank. -/
theorem trim_eq_self_iff (s : List Char) : trim s = s ↔
    (∀ c ∈ s.head?, isBlank c = false) ∧ ∀ c ∈ s.getLast?, isBlank c = false := by
  constructor
  · intro same
    rw [← same]
    exact ⟨head_trim s, last_trim s⟩
  · rintro ⟨first, last⟩
    rw [trim_eq, dropWhile_solid s first, List.rdropWhile_eq_self_iff]
    intro some
    simp [last _ (List.getLast?_eq_some_getLast some)]

theorem trim_trim (s : List Char) : trim (trim s) = trim s := by
  rw [trim_eq (trim s), dropWhile_solid _ (head_trim s), trim_eq, List.rdropWhile_idempotent]

theorem trim_solid (s : List Char) (solid : ∀ c ∈ s, isBlank c = false) : trim s = s := by
  rw [trim_eq, dropWhile_solid s fun c member => solid c (List.mem_of_mem_head? member),
    List.rdropWhile_eq_self_iff]
  intro some
  simp [solid _ (List.getLast_mem some)]

theorem trim_concat (s : List Char) (c : Char) (blank : isBlank c = true) :
    trim (s ++ [c]) = trim s := by
  rw [trim_eq, trim_eq, List.dropWhile_append]
  cases kept : s.dropWhile isBlank with
  | nil => simp [blank]
  | cons d rest =>
    rw [List.isEmpty_cons, if_neg Bool.false_ne_true, List.rdropWhile_concat_pos _ _ _ blank]

/-- What stands between two trimmed texts is kept. -/
theorem trim_between (front middle back : List Char) (before : front ≠ [])
    (started : trim front = front) (after : back ≠ []) (ended : trim back = back) :
    trim (front ++ (middle ++ back)) = front ++ (middle ++ back) := by
  rw [trim_eq_self_iff] at started ended ⊢
  rw [List.head?_append_of_ne_nil _ before, ← List.append_assoc,
    List.getLast?_append_of_ne_nil _ after]
  exact ⟨started.1, ended.2⟩

theorem trim_intercalate (separator : List Char) (parts : List (List Char))
    (solid : ∀ part ∈ parts, part ≠ [] ∧ trim part = part) :
    trim (separator.intercalate parts) = separator.intercalate parts := by
  induction parts with
  | nil => rfl
  | cons first others ih =>
    obtain ⟨before, started⟩ := solid first List.mem_cons_self
    have later := fun part member => solid part (List.mem_cons_of_mem first member)
    cases others with
    | nil => rwa [List.intercalate_singleton]
    | cons second others =>
      have after : separator.intercalate (second :: others) ≠ [] := by
        have next := (later second List.mem_cons_self).1
        cases others with
        | nil => rwa [List.intercalate_singleton]
        | cons third others => simp [List.intercalate_cons_cons, next]
      rw [List.intercalate_cons_cons, List.append_assoc]
      exact trim_between first separator _ before started after (ih later)

section Stop

variable (p : Char → Bool) (front back : List Char) (c : Char) (stop : p c = false)

include stop

/-- A character that is kept keeps everything behind it. -/
theorem dropWhile_stop : (front ++ c :: back).dropWhile p = front.dropWhile p ++ c :: back := by
  rw [List.dropWhile_append]
  cases first : front.dropWhile p with
  | nil => simp [stop]
  | cons d rest => rfl

theorem dropWhileEnd_stop : dropWhileEnd p (front ++ c :: back) =
    front ++ c :: dropWhileEnd p back := by
  have reversed : (front ++ c :: back).reverse = back.reverse ++ c :: front.reverse := by simp
  rw [dropWhileEnd, reversed, dropWhile_stop p _ _ c stop, List.reverse_append, List.reverse_cons,
    List.reverse_reverse, List.append_assoc, List.singleton_append, dropWhileEnd]

end Stop

theorem trim_around (front back : List Char) (c : Char) (solid : isBlank c = false) :
    trim (front ++ c :: back) = front.dropWhile isBlank ++ c :: dropWhileEnd isBlank back := by
  rw [trim, dropWhile_stop isBlank _ _ c solid, dropWhileEnd_stop isBlank _ _ c solid]

theorem cut_append (sep : Char) (s rest : List Char) (absent : sep ∉ s) :
    cut sep (s ++ rest) = (cut sep rest).map fun (a, b) => (s ++ a, b) := by
  induction s with
  | nil => simp
  | cons c s ih =>
    obtain ⟨first, others⟩ : c ≠ sep ∧ sep ∉ s := by simpa [eq_comm, not_or] using absent
    rw [List.cons_append, cut, if_neg first, ih others]
    cases cut sep rest <;> rfl

theorem cut_separator (sep : Char) (s rest : List Char) (absent : sep ∉ s) :
    cut sep (s ++ sep :: rest) = some (s, rest) := by
  simp [cut_append sep s _ absent, cut]

theorem cut_absent (sep : Char) (s : List Char) (absent : sep ∉ s) : cut sep s = none := by
  have := cut_append sep s [] absent
  simpa [cut] using this

theorem cut_eq (sep : Char) (s before after : List Char)
    (found : cut sep s = some (before, after)) : s = before ++ sep :: after := by
  induction s generalizing before with
  | nil => simp [cut] at found
  | cons c s ih =>
    rw [cut] at found
    split at found
    · rename_i here
      cases found
      rw [here, List.nil_append]
    · obtain ⟨⟨front, back⟩, later, same⟩ := Option.map_eq_some_iff.mp found
      cases same
      rw [ih front later, List.cons_append]

theorem mem_of_sameLetters (a b : List Char) (c : Char) (same : sameLetters a b = true)
    (member : c ∈ a) : c.toLower ∈ b.map Char.toLower := by
  rw [← beq_iff_eq.mp same]
  exact List.mem_map_of_mem member

end CardFile.Text
