import CardFile.Wire.Structured

/-!
Structured values read back as the components that they were joined from, whatever semicolons and
backslashes these hold.
-/
namespace CardFile.Wire

private theorem split_escaped_char (c : Char) (rest : List Char) :
    splitComponents (escapeComponent [c] ++ rest) = consFirst c (splitComponents rest) := by
  by_cases slash : c = '\\'
  · subst c
    rfl
  · by_cases semicolon : c = ';'
    · subst c
      rfl
    · simp only [escapeComponent, slash, semicolon, or_self, if_false, List.cons_append,
        List.nil_append]
      rw [splitComponents]
      all_goals simp_all

private theorem escapeComponent_cons (c : Char) (s : List Char) :
    escapeComponent (c :: s) = escapeComponent [c] ++ escapeComponent s := by
  simp only [escapeComponent]
  split <;> simp

theorem splitComponents_escaped (s rest : List Char) :
    splitComponents (escapeComponent s ++ ';' :: rest) = s :: splitComponents rest := by
  induction s with
  | nil => rfl
  | cons c s ih =>
    rw [escapeComponent_cons, List.append_assoc, split_escaped_char, ih]
    rfl

private theorem splitComponents_last (s : List Char) :
    splitComponents (escapeComponent s) = [s] := by
  induction s with
  | nil => rfl
  | cons c s ih =>
    rw [escapeComponent_cons, split_escaped_char, ih]
    rfl

private theorem joinComponents_single (component : List Char) :
    joinComponents [component] = escapeComponent component := by
  simp [joinComponents, List.intercalate]

private theorem joinComponents_cons (first second : List Char) (others : List (List Char)) :
    joinComponents (first :: second :: others) =
      escapeComponent first ++ ';' :: joinComponents (second :: others) := by
  simp [joinComponents, List.intercalate]

/-- Splitting a value undoes joining it. -/
theorem splitComponents_join (components : List (List Char)) (some : components ≠ []) :
    splitComponents (joinComponents components) = components := by
  induction components with
  | nil => contradiction
  | cons first others ih =>
    cases others with
    | nil => rw [joinComponents_single, splitComponents_last]
    | cons second others => rw [joinComponents_cons, splitComponents_escaped, ih (by simp)]

private theorem splitComponents_before (components : List (List Char)) (some : components ≠ [])
    (rest : List Char) : splitComponents (joinComponents components ++ ';' :: rest) =
      components ++ splitComponents rest := by
  induction components with
  | nil => contradiction
  | cons first others ih =>
    cases others with
    | nil => rw [joinComponents_single, splitComponents_escaped, List.singleton_append]
    | cons second others =>
      rw [joinComponents_cons, List.append_assoc, List.cons_append, splitComponents_escaped,
        ih (by simp)]
      rfl

/-- Components that are joined come apart again as they were, and nothing they end in acts on the
text behind the next semicolon. Only no components at all are not told from a single empty one. -/
theorem splitComponents_join_iff (components : List (List Char)) :
    (splitComponents (joinComponents components) = components ∧
      ∀ rest, splitComponents (joinComponents components ++ ';' :: rest) =
        components ++ splitComponents rest) ↔ components ≠ [] := by
  constructor
  · rintro ⟨whole, -⟩ rfl
    cases whole
  · intro some
    exact ⟨splitComponents_join components some, splitComponents_before components some⟩

example : joinComponents ["a\\".toList, ";".toList, []] = "a\\\\;\\;;".toList := by decide

end CardFile.Wire
