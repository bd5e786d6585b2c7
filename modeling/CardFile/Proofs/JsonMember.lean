import CardFile.Json.Member
import CardFile.Proofs.JsonText

/-!
Structures read back from their members. The members that a table writes are met one by one, each of
them once, and every field that must be there is; so what is read is decided by the fields alone.
-/
namespace CardFile.Json

theorem isWritten_ofOption {α : Type} (write : α → Json) (x? : Option α)
    (each : ∀ x ∈ x?, (write x).IsWritten) : (ofOption write x?).IsWritten := by
  cases x? with
  | none => exact .null
  | some x => exact each x rfl

theorem isWritten_ofList {α : Type} (write : α → Json) (l : List α)
    (each : ∀ x ∈ l, (write x).IsWritten) : (ofList write l).IsWritten := by
  refine .array _ fun j member => ?_
  obtain ⟨x, present, rfl⟩ := List.mem_map.mp member
  exact each x present

theorem asOption_ofOption {α : Type} (write : α → Json) (read : Json → Except Fault α)
    (x? : Option α) (each : ∀ x ∈ x?, read (write x) = .ok x ∧ write x ≠ null) :
    asOption read (ofOption write x?) = .ok x? := by
  cases x? with
  | none => rfl
  | some x =>
    obtain ⟨back, some⟩ := each x rfl
    rw [ofOption, asOption, back]
    · rfl
    · exact some

theorem asList_ofList {α : Type} (write : α → Json) (read : Json → Except Fault α) (l : List α) :
    asList read (ofList write l) = l.mapM fun x => read (write x) := by
  rw [ofList, asList, List.mapM_map]
  rfl

theorem mapM_congr {α β : Type} (f g : α → Except Fault β) (l : List α)
    (each : ∀ x ∈ l, f x = g x) : l.mapM f = l.mapM g := by
  induction l with
  | nil => rfl
  | cons x l ih =>
    rw [List.mapM_cons, List.mapM_cons, each x (by simp),
      ih fun y member => each y (by simp [member])]

/-- A list comes back whole exactly if each of its items does. -/
theorem mapM_eq_self {α : Type} (f : α → Except Fault α) (l : List α) :
    l.mapM f = .ok l ↔ ∀ x ∈ l, f x = .ok x := by
  refine ⟨fun whole => ?_, fun each => ?_⟩
  · induction l with
    | nil => simp
    | cons x l ih =>
      rw [List.mapM_cons] at whole
      cases first : f x with
      | error fault =>
        rw [first] at whole
        cases whole
      | ok y =>
        cases others : l.mapM f with
        | error fault =>
          rw [first, others] at whole
          cases whole
        | ok ys =>
          rw [first, others] at whole
          cases whole
          exact List.forall_mem_cons.mpr ⟨first, ih others⟩
  · rw [mapM_congr f (fun x => pure x) l each, List.mapM_pure, List.map_id']
    rfl

theorem isWritten_text (s? : Option String) : (ofOption string s?).IsWritten :=
  isWritten_ofOption _ s? fun s _ => .string s

namespace Member

variable {α β : Type} (name : String) (write : β → Json) (read : Json → Except Fault β)

theorem write_field (get : α → β) (set : β → α → α) (a : α) :
    (field name write read get set).write a = write (get a) :=
  rfl

theorem read_field (get : α → β) (set : β → α → α) (j : Json) (b : α) :
    (field name write read get set).read j b = (read j).map (set · b) :=
  rfl

theorem write_optional (get : α → Option β) (set : Option β → α → α) (a : α) :
    (optional name write read get set).write a = ofOption write (get a) :=
  rfl

theorem read_optional (get : α → Option β) (set : Option β → α → α) (j : Json) (b : α) :
    (optional name write read get set).read j b = (asOption read j).map (set · b) :=
  rfl

theorem write_text (get : α → Option String) (set : Option String → α → α) (a : α) :
    (text name get set).write a = ofOption string (get a) :=
  rfl

theorem read_text (get : α → Option String) (set : Option String → α → α) (s? : Option String)
    (b : α) : (text name get set).read (ofOption string s?) b = .ok (set s? b) := by
  have back := asOption_ofOption string asString s? fun s _ => ⟨rfl, by simp⟩
  rw [text, read_optional, back]
  rfl

end Member

section Table

variable {α : Type}

theorem isWritten_ofMembers (table : List (Member α)) (a : α)
    (each : ∀ m ∈ table, (m.write a).IsWritten) : (ofMembers table a).IsWritten := by
  refine .object _ fun entry member => ?_
  obtain ⟨m, present, rfl⟩ := List.mem_map.mp member
  exact each m present

variable (table : List (Member α)) (distinct : (table.map Member.name).Nodup)

include distinct

private theorem find?_member (m : Member α) (member : m ∈ table) :
    table.find? (·.name == m.name) = some m := by
  induction table with
  | nil => simp at member
  | cons first table ih =>
    obtain ⟨fresh, distinct⟩ := List.nodup_cons.mp distinct
    rcases List.mem_cons.mp member with rfl | later
    · simp
    · have other : first.name ≠ m.name := by
        intro same
        exact fresh (same ▸ List.mem_map_of_mem later)
      rw [List.find?_cons_of_neg (by simpa using other), ih distinct later]

/-- The members that are left after those already met. -/
private theorem takeMembers_written (a b : α) (rest : List (Member α)) (met : List String)
    (subset : ∀ m ∈ rest, m ∈ table) (once : (rest.map Member.name).Nodup)
    (fresh : ∀ m ∈ rest, m.name ∉ met) (complete : ∀ m ∈ table, m.name ∈ met ∨ m ∈ rest)
    (written : ∀ m ∈ rest, (m.write a).IsWritten) :
    takeMembers table met b (rest.map fun m => (m.name, m.write a)) =
      rest.foldlM (fun b m => m.read (m.write a) b) b := by
  induction rest generalizing met b with
  | nil =>
    have all : (table.all fun m => !m.required || met.contains m.name) = true := by
      rw [List.all_eq_true]
      intro m member
      have seen : m.name ∈ met := by simpa using complete m member
      simp [seen]
    rw [List.map_nil, takeMembers, if_pos all]
    rfl
  | cons m rest ih =>
    have named (value : Json) (same : m.write a = nameless value) : False := by
      have whole := written m (by simp)
      rw [same] at whole
      cases whole
    have new : met.contains m.name = false := by simpa using fresh m (by simp)
    obtain ⟨other, once⟩ := List.nodup_cons.mp once
    have fresh' : ∀ m' ∈ rest, m'.name ∉ m.name :: met := by
      intro m' member seen
      rcases List.mem_cons.mp seen with same | seen
      · exact other (same ▸ List.mem_map_of_mem member)
      · exact fresh m' (by simp [member]) seen
    have complete' : ∀ m' ∈ table, m'.name ∈ m.name :: met ∨ m' ∈ rest := by
      intro m' member
      rcases complete m' member with seen | left
      · exact Or.inl (by simp [seen])
      · rcases List.mem_cons.mp left with rfl | left
        · exact Or.inl (by simp)
        · exact Or.inr left
    have later (b : α) := ih b (m.name :: met) (fun m' member => subset m' (by simp [member])) once
      fresh' complete' fun m' member => written m' (by simp [member])
    rw [List.map_cons, takeMembers, find?_member table distinct m (subset m (by simp)),
      List.foldlM_cons]
    · simp only [new, later]
      rfl
    · exact named

/-- What is read from the members of a structure is read from each of its fields. -/
theorem asMembers_ofMembers (a start : α) (written : ∀ m ∈ table, (m.write a).IsWritten) :
    asMembers table start (ofMembers table a) =
      table.foldlM (fun b m => m.read (m.write a) b) start :=
  takeMembers_written table distinct a start table [] (fun _ member => member) distinct (by simp)
    (fun _ member => Or.inr member) written

end Table

end CardFile.Json
