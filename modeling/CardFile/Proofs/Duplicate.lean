import CardFile.Proofs.Canonical
import CardFile.Proofs.ScoreText

/-!
Duplicates. Whatever a card holds, one pass through its own record brings every field into the form
in which a second pass leaves it, so the cards that are their own duplicates are just the
duplicates. A card that was read is one of them unless a date is out of range or its score is
infinite.
-/
namespace CardFile

/-- A score that was read from its own text is read from it again. -/
theorem Score.recovered_survives (s : Score) :
    s.recovered = .zero ∨ ofText s.recovered.toText = s.recovered := by
  rw [recovered]
  split
  · exact Or.inl rfl
  · by_cases finite : s.isFinite = true
    · have same := s.ofText_toText finite
      exact Or.inr (by rw [same, same])
    · exact Or.inl (s.ofText_toText_infinite finite)

namespace Card

private theorem range_clamped (date? : Option Date) : ∀ d ∈ date?.map Date.clamp, d.InRange := by
  intro d member
  obtain ⟨date, -, rfl⟩ := Option.map_eq_some_iff.mp member
  exact date.inRange_clamp

/-- The duplicate of any card is a canonical one. -/
theorem canonical_duplicate (c : Card) : c.duplicate.Canonical := by
  have decoded : c.duplicate.Decoded := decoded_ofRecord c.toRecord
  rw [duplicate_eq] at decoded ⊢
  exact ⟨decoded, ⟨range_clamped c.birthDate, range_clamped c.anniversary,
    range_clamped c.lastUse⟩, c.useScore.recovered_survives⟩

/-- A second duplicate is like the first, whatever the card holds. -/
theorem duplicate_duplicate (c : Card) : c.duplicate.duplicate = c.duplicate :=
  duplicate_canonical c.duplicate (canonical_duplicate c)

/-- A card that is read from a record comes back from its own record exactly if its dates are in
range and its score, unless it is zero, is read back from its text. -/
theorem ofRecord_toRecord_iff (r : Record) : ofRecord (ofRecord r).toRecord = ofRecord r ↔
    (ofRecord r).DatesInRange ∧ ((ofRecord r).useScore = .zero ∨
      Score.ofText (ofRecord r).useScore.toText = (ofRecord r).useScore) := by
  constructor
  · intro same
    have canonical : (ofRecord r).Canonical := same ▸ canonical_duplicate (ofRecord r)
    exact ⟨canonical.toDatesInRange, canonical.useScore⟩
  · rintro ⟨dates, score⟩
    exact duplicate_canonical (ofRecord r) ⟨decoded_ofRecord r, dates, score⟩

end Card

end CardFile
