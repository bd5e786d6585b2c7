import CardFile.FlagSet
import Mathlib.Data.Nat.Bitwise

/-!
Flags read back from their markers. Only the bits that a flag stands for have a marker, so a set
comes back without its other bits; what else a property carries does not matter.
-/
namespace CardFile

/-- Every name of a table stands for the bit of its own place. -/
def FlagTable.Distinct (table : FlagTable) : Prop :=
  ∀ entry ∈ table.names.zipIdx, FlagSet.bitOf? table entry.1 = some entry.2

theorem phoneTable_distinct : phoneTable.Distinct := by
  rw [FlagTable.Distinct]
  decide

theorem addressTable_distinct : addressTable.Distinct := by
  rw [FlagTable.Distinct]
  decide

namespace FlagSet

variable {table : FlagTable}

def known (f : FlagSet table) : FlagSet table :=
  ⟨f.bits % 2 ^ table.names.length⟩

theorem known_eq (f : FlagSet table) (named : f.unnamed = 0) : f.known = f := by
  obtain ⟨bits⟩ := f
  rw [unnamed, Nat.shiftLeft_eq, Nat.shiftRight_eq_div_pow] at named
  rw [known, mk.injEq]
  exact Nat.mod_eq_of_lt (by simpa using named)

theorem testBit_insert (f : FlagSet table) (bit i : Nat) :
    (f.insert bit).bits.testBit i = (f.bits.testBit i || decide (bit = i)) := by
  rw [insert, Nat.testBit_or, Nat.one_shiftLeft, Nat.testBit_two_pow]

theorem testBit_inserted (bits : List Nat) (f : FlagSet table) (i : Nat) :
    (bits.foldl insert f).bits.testBit i = true ↔ f.bits.testBit i = true ∨ i ∈ bits := by
  induction bits generalizing f with
  | nil => simp
  | cons bit bits ih =>
    rw [List.foldl_cons, ih, testBit_insert, Bool.or_eq_true, decide_eq_true_eq, or_assoc,
      List.mem_cons, eq_comm (a := bit)]

theorem testBit_ofAttributes (attributes : List Attribute) (i : Nat) :
    (ofAttributes attributes : FlagSet table).bits.testBit i = true ↔
      ∃ a ∈ attributes, i ∈ bitsOf table a := by
  rw [ofAttributes, testBit_inserted, List.mem_flatMap]
  simp [empty]

private theorem bitsOf_marker (distinct : table.Distinct) (name : String) (bit : Nat)
    (entry : (name, bit) ∈ table.names.zipIdx) : bitsOf table (.marker name) = [bit] := by
  have found := distinct _ entry
  dsimp only at found
  simp [bitsOf, Attribute.marker, Attribute.text?, found]

theorem mem_toMarkers (f : FlagSet table) (a : Attribute) :
    a ∈ f.toMarkers ↔ ∃ name bit, (name, bit) ∈ table.names.zipIdx ∧ f.bits.testBit bit = true ∧
      .marker name = a := by
  rw [toMarkers, flagNames, List.mem_map]
  constructor
  · rintro ⟨flag, named, marker⟩
    obtain ⟨⟨name, bit⟩, entry, kept⟩ := List.mem_filterMap.mp named
    obtain ⟨set, rfl⟩ : f.bits.testBit bit = true ∧ name = flag :=
      Option.ite_none_right_eq_some.mp kept |>.imp_right Option.some.inj
    exact ⟨name, bit, entry, set, marker⟩
  · rintro ⟨name, bit, entry, set, marker⟩
    exact ⟨name, List.mem_filterMap.mpr ⟨(name, bit), entry, by simp [contains, set]⟩, marker⟩

theorem zipIdx_place (names : List String) (i : Nat) :
    i < names.length ↔ ∃ name, (name, i) ∈ names.zipIdx := by
  simp only [List.mem_zipIdx_iff_getElem?]
  constructor
  · exact fun bound => ⟨names[i], List.getElem?_eq_getElem bound⟩
  · rintro ⟨name, found⟩
    exact (List.getElem?_eq_some_iff.mp found).1

/-- The flags of a set are read from its markers, beside attributes that name no flag. -/
theorem ofAttributes_toMarkers (distinct : table.Distinct) (f : FlagSet table)
    (others : List Attribute) (silent : ∀ a ∈ others, bitsOf table a = []) :
    ofAttributes (f.toMarkers ++ others) = f.known := by
  have bits : ∀ i, (ofAttributes (f.toMarkers ++ others) : FlagSet table).bits.testBit i =
      f.known.bits.testBit i := by
    intro i
    rw [Bool.eq_iff_iff, testBit_ofAttributes, known, Nat.testBit_mod_two_pow, Bool.and_eq_true,
      decide_eq_true_eq, zipIdx_place]
    constructor
    · rintro ⟨a, member, named⟩
      rcases List.mem_append.mp member with marker | other
      · obtain ⟨name, bit, entry, set, rfl⟩ := (mem_toMarkers f a).mp marker
        obtain rfl : i = bit := by simpa [bitsOf_marker distinct name bit entry] using named
        exact ⟨⟨name, entry⟩, set⟩
      · simp [silent a other] at named
    · rintro ⟨⟨name, entry⟩, set⟩
      refine ⟨.marker name, List.mem_append_left _ ?_, ?_⟩
      · exact (mem_toMarkers f _).mpr ⟨name, i, entry, set, rfl⟩
      · simp [bitsOf_marker distinct name i entry]
  have same := Nat.eq_of_testBit_eq bits
  rwa [← mk.injEq] at same

end FlagSet

end CardFile
