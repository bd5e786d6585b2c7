import CardFile.Proofs.FlagSet
import CardFile.Proofs.Trim

/-!
Flags read back from their text. The names of a table stand between bars without being mistaken for
one another or for the number of the bits that have no name, so a set without such bits comes back.
-/
namespace CardFile

/-- Every name of a table can stand between bars, and is read as its bit. -/
def FlagTable.Legible (table : FlagTable) : Prop :=
  ∀ entry ∈ table.names.zipIdx, isAllBlank entry.1 = false ∧
    Text.trim entry.1.toList = entry.1.toList ∧ '|' ∉ entry.1.toList ∧
    FlagSet.piece? table entry.1.toList = some (1 <<< entry.2)

theorem phoneTable_legible : phoneTable.Legible := by
  rw [FlagTable.Legible]
  decide

theorem addressTable_legible : addressTable.Legible := by
  rw [FlagTable.Legible]
  decide

private theorem splitOn_blank (rest : List Char) :
    ((' ' :: rest).splitOn '|').map Text.trim = (rest.splitOn '|').map Text.trim := by
  rw [List.splitOn_cons_eq_if_modifyHead, if_neg (by decide)]
  obtain ⟨first, others, parts⟩ := List.exists_cons_of_ne_nil (List.splitOn_ne_nil '|' rest)
  rw [parts]
  simp [Text.trim, Text.isBlank]

private theorem splitOn_bars (names : List String) (some : names ≠ [])
    (clean : ∀ name ∈ names, Text.trim name.toList = name.toList ∧ '|' ∉ name.toList) :
    ((" | ".intercalate names).toList.splitOn '|').map Text.trim = names.map String.toList := by
  induction names with
  | nil => exact absurd rfl some
  | cons name names ih =>
    obtain ⟨trimmed, noBar⟩ := clean name (by simp)
    cases names with
    | nil => simp [List.splitOn_eq_singleton noBar, trimmed]
    | cons next names =>
      have bar : (" | ".intercalate (name :: next :: names)).toList =
          name.toList ++ [' '] ++ '|' :: ' ' :: (" | ".intercalate (next :: names)).toList := by
        rw [String.intercalate_cons_cons, String.toList_append, String.toList_append,
          List.append_assoc, List.append_assoc]
        rfl
      have noBar' : '|' ∉ name.toList ++ [' '] := by simp [noBar]
      rw [bar, List.splitOn_append_cons_self_of_not_mem noBar', List.map_cons, splitOn_blank,
        ih (by simp) fun n member => clean n (by simp [member]), Text.trim_concat _ _ rfl, trimmed]
      rfl

private theorem mapM_some {α β : Type} (f : α → Option β) (g : α → β) (l : List α)
    (each : ∀ x ∈ l, f x = some (g x)) : l.mapM f = some (l.map g) := by
  induction l with
  | nil => rfl
  | cons x l ih =>
    rw [List.mapM_cons, each x (by simp), ih fun y member => each y (by simp [member])]
    rfl

namespace FlagSet

variable {table : FlagTable}

private def entries (f : FlagSet table) : List (String × Nat) :=
  table.names.zipIdx.filter fun entry => f.contains entry.2

private theorem flagNames_entries (f : FlagSet table) : f.flagNames = f.entries.map Prod.fst := by
  rw [flagNames, entries]
  induction table.names.zipIdx with
  | nil => rfl
  | cons entry rest ih => 
    obtain ⟨name, bit⟩ := entry
    cases set : f.contains bit <;> simp [set, ih]

private theorem foldl_bits (bits : List Nat) (f : FlagSet table) :
    (bits.map (1 <<< ·)).foldl (· ||| ·) f.bits = (bits.foldl insert f).bits := by
  induction bits generalizing f with
  | nil => rfl
  | cons bit bits ih => exact ih (f.insert bit)

private theorem foldl_entries (f : FlagSet table) (named : f.unnamed = 0) :
    (f.entries.map fun entry => 1 <<< entry.2).foldl (· ||| ·) 0 = f.bits := by
  have place (i : Nat) (set : f.bits.testBit i = true) :
      ∃ name, (name, i) ∈ table.names.zipIdx := by
    rw [← f.known_eq named, known, Nat.testBit_mod_two_pow, Bool.and_eq_true,
      decide_eq_true_eq] at set
    exact (zipIdx_place _ i).mp set.1
  have bits := foldl_bits (f.entries.map Prod.snd) (empty : FlagSet table)
  rw [List.map_map] at bits
  refine Eq.trans bits (Nat.eq_of_testBit_eq fun i => ?_)
  rw [Bool.eq_iff_iff, testBit_inserted]
  constructor
  · rintro (none | set)
    · simp [empty] at none
    · obtain ⟨entry, member, rfl⟩ := List.mem_map.mp set
      exact (List.mem_filter.mp member).2
  · intro set
    obtain ⟨name, member⟩ := place i set
    exact Or.inr (List.mem_map.mpr ⟨(name, i), List.mem_filter.mpr ⟨member, set⟩, rfl⟩)

private theorem toText_solid (f : FlagSet table) (entry : String × Nat)
    (others : List (String × Nat)) (set : f.entries = entry :: others)
    (solid : isAllBlank entry.1 = false) (named : f.unnamed = 0) : isAllBlank f.toText = false := by
  have text : ∃ rest, f.toText.toList = entry.1.toList ++ rest := by
    rw [toText, if_pos named, List.append_nil, flagNames_entries, set, List.map_cons]
    cases others with
    | nil => exact ⟨[], by simp⟩
    | cons next others =>
      rw [List.map_cons, String.intercalate_cons_cons, String.toList_append, String.toList_append,
        List.append_assoc]
      exact ⟨_, rfl⟩
  obtain ⟨rest, text⟩ := text
  simp_all [isAllBlank]

/-- A set whose bits all have names is read from its text. -/
theorem ofText?_toText (legible : table.Legible) (f : FlagSet table) (named : f.unnamed = 0) :
    ofText? f.toText = some f := by
  have whole := f.foldl_entries named
  have known : ∀ entry ∈ f.entries, entry ∈ table.names.zipIdx :=
    fun entry member => List.mem_of_mem_filter member
  cases set : f.entries with
  | nil =>
    have none : f.toText = "" := by
      rw [toText, if_pos named, List.append_nil, flagNames_entries, set]
      rfl
    rw [set] at whole
    rw [none, ofText?, if_pos (by decide), empty]
    congr
  | cons entry others =>
    have solid := f.toText_solid entry others set (legible entry (known entry (by simp [set]))).1
      named
    have names : f.flagNames ≠ [] := by simp [flagNames_entries, set]
    have split := splitOn_bars f.flagNames names fun name member => by
      rw [flagNames_entries] at member
      obtain ⟨e, present, rfl⟩ := List.mem_map.mp member
      obtain ⟨-, trimmed, noBar, -⟩ := legible e (known e present)
      exact ⟨trimmed, noBar⟩
    have pieces := mapM_some (piece? table ∘ String.toList ∘ Prod.fst) (fun e => 1 <<< e.2)
      f.entries fun e member => (legible e (known e member)).2.2.2
    rw [ofText?, if_neg (by simp [solid]), toText, if_pos named, List.append_nil, split,
      flagNames_entries, List.map_map, List.mapM_map, pieces]
    exact congrArg (fun bits => some (⟨bits⟩ : FlagSet table)) whole

end FlagSet

end CardFile
