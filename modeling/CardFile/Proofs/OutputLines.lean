import CardFile.Command.Run
import CardFile.Proofs.Digits
import CardFile.Proofs.Fold
import CardFile.Proofs.Origin

/-!
The lines that the commands put out. A file-as is written as it is, so a search puts out one line
for each card, and a ranking one line with one tab, exactly if no file-as holds a mark that means
something to whoever takes the output apart.
-/
namespace CardFile

theorem Wire.splitOn_terminated_iff (lines : List (List Char)) :
    (lines.flatMap (· ++ ['\n'])).splitOn '\n' = lines ++ [[]] ↔ ∀ line ∈ lines, '\n' ∉ line := by
  refine ⟨fun parts line member => ?_, Wire.splitOn_terminated lines⟩
  apply Wire.absent_splitOn '\n' (lines.flatMap (· ++ ['\n']))
  rw [parts]
  exact List.mem_append_left _ member

private theorem Decimal.pointAt_chars (places n : Nat) :
    ∀ c ∈ pointAt places n, c.isDigit = true ∨ c = '.' := by
  intro c member
  have digits := Date.isDigit_padded (places + 1) n
  have whole : c ∈ (Date.padded (places + 1) n).take
      ((Date.padded (places + 1) n).length - places) → c.isDigit = true ∨ c = '.' :=
    fun front => Or.inl (digits c (List.mem_of_mem_take front))
  change c ∈ (if places = 0 then _ else _ ++ '.' :: _) at member
  split at member
  · exact whole member
  · rcases List.mem_append.mp member with front | back
    · exact whole front
    · rcases List.mem_cons.mp back with point | fraction
      · exact Or.inr point
      · exact Or.inl (digits c (List.mem_of_mem_drop fraction))

namespace Command

/-- True of a text that is made of these lines, each of them ended by a line feed. -/
def IsLines (text : String) (lines : List (List Char)) : Prop :=
  text.toList.splitOn '\n' = lines ++ [[]]

private theorem scoreText_solid (score : Option Score) (c : Char) (mark : c = '\n' ∨ c = '\t') :
    c ∉ (scoreText score).toList := by
  cases score with
  | none => rcases mark with rfl | rfl <;> decide
  | some s =>
    rw [scoreText, Score.fixed]
    split
    · rw [String.toList_ofList]
      intro member
      rcases Decimal.pointAt_chars 3 _ c member with digit | rfl
      · rcases mark with rfl | rfl <;> exact absurd digit (by decide)
      · exact absurd mark (by decide)
    · rcases mark with rfl | rfl <;> decide

def rankedLine (today : Date) (c : Card) : List Char :=
  c.fileAsText.toList ++ '\t' :: (scoreText (c.effectiveScore? today)).toList

private theorem rankedLine_single (today : Date) (c : Card) :
    '\n' ∉ rankedLine today c ↔ '\n' ∉ c.fileAsText.toList := by
  have score := scoreText_solid (c.effectiveScore? today) '\n' (Or.inl rfl)
  simp [rankedLine, score]

private theorem rankedLine_tabs (today : Date) (c : Card) :
    (rankedLine today c).count '\t' = 1 ↔ '\t' ∉ c.fileAsText.toList := by
  have score := List.count_eq_zero.mpr
    (scoreText_solid (c.effectiveScore? today) '\t' (Or.inr rfl))
  rw [rankedLine, List.count_append, List.count_cons_self, score, ← List.count_eq_zero]
  omega

/-- The highest score comes first, and cards of one score keep their order. -/
private def ranking (today : Date) (cards : List Card) : List Card :=
  cards.mergeSort fun a b => rank (b.effectiveScore? today) ≤ rank (a.effectiveScore? today)

private theorem scoreOutput_lines (today : Date) (cards : List Card) :
    (scoreOutput today cards).toList =
      ((ranking today cards).map (rankedLine today)).flatMap (· ++ ['\n']) := by
  have sorted : (cards.map fun c => (c, c.effectiveScore? today)).mergeSort
      (fun a b => rank b.2 ≤ rank a.2) =
      (ranking today cards).map fun c => (c, c.effectiveScore? today) := by
    rw [ranking, List.map_mergeSort]
    exact fun _ _ _ _ => rfl
  rw [scoreOutput, sorted, String.toList_join]
  simp [List.flatMap_map, rankedLine]

private theorem findOutput_lines (query : Query) (cards : List Card)
    (filled : isAllBlank query.text = false) :
    ∃ out, findOutput query cards = .ok out ∧ out.toList =
      ((cards.filter query.matchesCard).map fun c => c.fileAsText.toList).flatMap
        (· ++ ['\n']) := by
  refine ⟨_, by rw [findOutput, filled]; rfl, ?_⟩
  rw [String.toList_join]
  simp [List.flatMap_map]

/-- A search puts out the file-as of each card that matches on a line of its own exactly if none of
them holds a line feed. A ranking puts out one line with one tab for each card exactly if no file-as
holds a line feed or a tab. -/
theorem output_lines_iff (query : Query) (cards : List Card) (today : Date)
    (filled : isAllBlank query.text = false) :
    (∃ out, findOutput query cards = .ok out ∧
      (IsLines out ((cards.filter query.matchesCard).map fun c => c.fileAsText.toList) ↔
        ∀ c ∈ cards.filter query.matchesCard, '\n' ∉ c.fileAsText.toList)) ∧
    ∃ ranked : List Card, ranked.Perm cards ∧
      ((IsLines (scoreOutput today cards) (ranked.map (rankedLine today)) ∧
          ∀ c ∈ ranked, (rankedLine today c).count '\t' = 1) ↔
        ∀ c ∈ cards, '\n' ∉ c.fileAsText.toList ∧ '\t' ∉ c.fileAsText.toList) := by
  obtain ⟨out, found, lines⟩ := findOutput_lines query cards filled
  have perm : (ranking today cards).Perm cards := List.mergeSort_perm cards _
  refine ⟨⟨out, found, ?_⟩, ranking today cards, perm, ?_⟩
  · rw [IsLines, lines, Wire.splitOn_terminated_iff, List.forall_mem_map]
  · rw [IsLines, scoreOutput_lines, Wire.splitOn_terminated_iff, List.forall_mem_map, ← forall₂_and]
    simp only [rankedLine_single, rankedLine_tabs, perm.mem_iff]

def plainCards : String :=
  "BEGIN:VCARD\r\nFN:Jon Smith\r\nEND:VCARD\r\nBEGIN:VCARD\r\nFN:Bill Gates\r\nEND:VCARD\r\n"

theorem output_lines_plainCards :
    isAllBlank "jon smith" = false ∧
    (∃ out, findOutput (.name "jon smith") (Card.load plainCards) = .ok out ∧
      IsLines out ["Smith, Jon".toList]) ∧
    ∃ ranked : List Card, ranked.Perm (Card.load plainCards) ∧
      IsLines (scoreOutput ⟨2024, 3, 1⟩ (Card.load plainCards))
        (ranked.map (rankedLine ⟨2024, 3, 1⟩)) ∧
      ∀ c ∈ ranked, (rankedLine ⟨2024, 3, 1⟩ c).count '\t' = 1 := by
  have filled : isAllBlank "jon smith" = false := by decide
  have names : (Card.load plainCards).map (fun c => c.fileAsText.toList) =
      ["Smith, Jon".toList, "Gates, Bill".toList] := by
    decide +kernel
  have hits : ((Card.load plainCards).filter (Query.matchesCard (.name "jon smith"))).map
      (fun c => c.fileAsText.toList) = ["Smith, Jon".toList] := by
    decide +kernel
  have single : ∀ c ∈ Card.load plainCards,
      '\n' ∉ c.fileAsText.toList ∧ '\t' ∉ c.fileAsText.toList := by
    rw [← List.forall_mem_map (P := fun name => '\n' ∉ name ∧ '\t' ∉ name), names]
    decide
  obtain ⟨⟨out, found, lines⟩, ranked, perm, ranks⟩ :=
    output_lines_iff (.name "jon smith") (Card.load plainCards) ⟨2024, 3, 1⟩ filled
  rw [hits] at lines
  exact ⟨filled,
    ⟨out, found, lines.mpr fun c member => (single c (List.mem_of_mem_filter member)).1⟩,
    ranked, perm, ranks.mpr single⟩

/-- A card whose file-as has a line feed in it, brought in by quoted-printable. -/
def brokenFileAs : String :=
  "BEGIN:VCARD\r\nFN:Jon Smith\r\nX-EVOLUTION-FILE-AS;QUOTED-PRINTABLE:Smith=0AJon\r\nEND:VCARD\r\n"

/-- The one card of that text takes up two lines of a search and two lines of a ranking, the first
of which has no tab. -/
theorem output_broken : ∃ c, Card.loadStrict brokenFileAs = .ok [c] ∧
    c.fileAsText = "Smith\nJon" ∧
    findOutput (.name "jon smith") [c] = .ok "Smith\nJon\n" ∧
    scoreOutput ⟨2024, 3, 1⟩ [c] = "Smith\nJon\t0.000\n" ∧
    IsLines "Smith\nJon\n" ["Smith".toList, "Jon".toList] ∧
    ¬IsLines "Smith\nJon\n" [c.fileAsText.toList] ∧
    IsLines "Smith\nJon\t0.000\n" ["Smith".toList, "Jon\t0.000".toList] := by
  have hits : [Card.first brokenFileAs].filter (Query.matchesCard (.name "jon smith")) =
      [Card.first brokenFileAs] := by
    decide +kernel
  have text : (Card.first brokenFileAs).fileAsText = "Smith\nJon" := by decide +kernel
  have found : findOutput (.name "jon smith") [Card.first brokenFileAs] = .ok "Smith\nJon\n" := by
    rw [findOutput, hits, if_neg (by decide), List.map_singleton, text]
    rfl
  unfold IsLines
  refine ⟨Card.first brokenFileAs, ?_, text, found, ?_, ?_, ?_, ?_⟩ <;> decide +kernel

end Command

end CardFile
