import CardFile.Proofs.Step

/-!
Where the properties of a parsed text come from. Each is made of a content line whose group, name
and parameters stood together on one logical line; only its value may have been put together from
several. So what holds of every line that is read, whatever its value, holds of what each property
was made of.
-/
namespace CardFile.Wire

theorem absent_splitOn (sep : Char) (s : List Char) :
    ∀ part ∈ s.splitOn sep, sep ∉ part := by
  induction s with
  | nil => simp
  | cons c s ih =>
    rw [List.splitOn_cons_eq_if_modifyHead]
    split
    · simpa using ih
    · rename_i other
      cases parts : s.splitOn sep with
      | nil => simp
      | cons part parts =>
        rw [parts] at ih
        intro longer member
        rcases List.mem_cons.mp member with rfl | old
        · have different : sep ≠ c := by
            rintro rfl
            simp at other
          simpa [different] using ih part (by simp)
        · exact ih longer (by simp [old])

theorem logicalLines_single (text : List Char) : ∀ line ∈ logicalLines text, '\n' ∉ line := by
  intro line member
  have segments := absent_splitOn '\n' (unfold text)
  rcases List.mem_append.mp (List.mem_filter.mp member).1 with ended | last
  · obtain ⟨segment, present, rfl⟩ := List.mem_map.mp ended
    have single := segments segment (List.dropLast_subset _ present)
    rw [Text.dropCarriageReturn]
    split
    · exact fun feed => single (List.dropLast_subset _ feed)
    · exact single
  · have stored := Option.mem_toList.mp (List.mem_filter.mp last).1
    exact segments line (List.mem_of_getLast? stored)

/-- What is true of every content line that is read, and stays true under another value. -/
structure ReadInvariant (P : ContentLine → Prop) : Prop where
  read (line : List Char) (single : '\n' ∉ line) (content : ContentLine)
    (ok : ContentLine.read line = .ok content) : P content
  value (content : ContentLine) (held : P content) (value : List Char) :
    P { content with value := value }

variable {P : ContentLine → Prop}

/-- A property made of a content line that has `P`. -/
def Property.MadeOf (P : ContentLine → Prop) (p : CardFile.Property) : Prop :=
  ∃ line, P line ∧ line.toProperty = p

def OpenRecord.MadeOf (P : ContentLine → Prop) (r : OpenRecord) : Prop :=
  ∀ p ∈ r.properties, Property.MadeOf P p

structure Record.MadeOf (P : ContentLine → Prop) (r : CardFile.Record) : Prop where
  name : r.name = vcard
  properties : ∀ p ∈ r.properties, Property.MadeOf P p

def Place.MadeOf (P : ContentLine → Prop) : Place → Prop
  | .outside => True
  | .inside r => r.MadeOf P
  | .continuing r line => r.MadeOf P ∧ P line
  | .skipping r _ _ => r.MadeOf P

structure Reader.MadeOf (P : ContentLine → Prop) (s : Reader) : Prop where
  records : ∀ r ∈ s.records, Record.MadeOf P r
  place : s.place.MadeOf P

namespace OpenRecord

variable (r : OpenRecord) (record : r.MadeOf P)

include record

theorem madeOf_add (line : ContentLine) (held : P line) : (r.add line).MadeOf P := by
  intro p member
  rcases List.mem_append.mp member with old | new
  · exact record p old
  · exact ⟨line, held, (List.mem_singleton.mp new).symm⟩

theorem madeOf_close : Record.MadeOf P r.close :=
  ⟨rfl, record⟩

variable (invariant : ReadInvariant P)

include invariant

theorem madeOf_take (line : ContentLine) (held : P line) : (r.take line).MadeOf P := by
  rw [take]
  split
  · exact ⟨record, invariant.value line held _⟩
  · exact r.madeOf_add record line held

theorem madeOf_content (line : List Char) (single : '\n' ∉ line) : (r.content line).MadeOf P := by
  rw [content]
  split
  · rename_i content ok
    exact r.madeOf_take record invariant content (invariant.read line single content ok)
  · exact record

theorem madeOf_next (number : Nat) (line : List Char) (single : '\n' ∉ line) :
    (r.next number line).MadeOf P := by
  have content := r.madeOf_content record invariant line single
  rw [next]
  split
  · split
    · trivial
    · exact content
  · exact record
  · exact content

end OpenRecord

namespace Place

theorem madeOf_closed (place : Place) (made : place.MadeOf P) (line : List Char) :
    ∀ r ∈ place.closed? line, Record.MadeOf P r := by
  intro r closed
  cases place with
  | outside => simp [closed?] at closed
  | inside record =>
    obtain ⟨-, rfl⟩ : closesCard line = true ∧ record.close = r := by simpa [closed?] using closed
    exact record.madeOf_close made
  | continuing record waiting =>
    obtain ⟨-, rfl⟩ : closesCard line = true ∧ (record.add waiting).close = r := by
      simpa [closed?] using closed
    exact (record.add waiting).madeOf_close (record.madeOf_add made.1 waiting made.2)
  | skipping => simp [closed?] at closed

variable (invariant : ReadInvariant P)

include invariant

theorem madeOf_next (place : Place) (made : place.MadeOf P) (number : Nat) (line : List Char)
    (single : '\n' ∉ line) : (place.next number line).MadeOf P := by
  cases place with
  | outside =>
    rw [next]
    split
    · split
      · simp [MadeOf, OpenRecord.MadeOf]
      · trivial
    · trivial
  | inside r => exact r.madeOf_next made invariant number line single
  | continuing r waiting =>
    rw [next]
    split
    · have added := r.madeOf_add made.1 waiting made.2
      exact (r.add waiting).madeOf_next added invariant number line single
    · exact r.madeOf_take made.1 invariant _ (invariant.value waiting made.2 _)
  | skipping r block outer =>
    rw [next]
    split
    · split
      · cases outer <;> exact made
      · exact made
    · exact made
    · exact made

end Place

namespace Reader

variable (invariant : ReadInvariant P)

include invariant

theorem madeOf_step (s : Reader) (made : s.MadeOf P) (line : List Char) (single : '\n' ∉ line) :
    (s.step line).MadeOf P := by
  rw [step_eq]
  refine ⟨?_, s.place.madeOf_next invariant made.place _ line single⟩
  intro r member
  rcases List.mem_append.mp member with old | new
  · exact made.records r old
  · exact s.place.madeOf_closed made.place line r (Option.mem_toList.mp new)

theorem madeOf_run (lines : List (List Char)) (single : ∀ line ∈ lines, '\n' ∉ line) (s : Reader)
    (made : s.MadeOf P) : (lines.foldl step s).MadeOf P := by
  induction lines generalizing s with
  | nil => exact made
  | cons line lines ih =>
    exact ih (fun l member => single l (by simp [member])) _
      (madeOf_step invariant s made line (single line (by simp)))

end Reader

/-- The records of a text are made of content lines that have what all that are read have. -/
theorem madeOf_parse (invariant : ReadInvariant P) (text : String) (rs : List Record)
    (parsed : parse text = .ok rs) : ∀ r ∈ rs, Record.MadeOf P r := by
  have made := Reader.madeOf_run invariant _ (logicalLines_single text.toList) .initial
    ⟨by simp [Reader.initial], trivial⟩
  rw [parse, readLines, Reader.finish] at parsed
  split at parsed <;> cases parsed
  exact made.records

end CardFile.Wire
