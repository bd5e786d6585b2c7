import CardFile.Proofs.NameMatching
import CardFile.Proofs.NameSplitting

/-!
Forms of a name. Words that match are the same to the walk, whatever their case and whichever of the
nicknames they are, so a query may be put in other forms; and a name of two or more words matches
itself in any form, the text that it was split from included.
-/
namespace CardFile.Name

def lowered (word : String) : String :=
  String.ofList (Text.lower word.toList)

def properName? (word : String) : Option String :=
  (nicknames.find? fun (_, nickname) => nickname == lowered word).map (·.1)

theorem canonical_eq (word : String) : canonical word = (properName? word).getD (lowered word) :=
  rfl

private theorem canonical_lowered (a b : String) (same : lowered a = lowered b) :
    canonical a = canonical b := by
  rw [canonical_eq, canonical_eq, properName?, properName?, same]

/-- Words match if they are the same up to case, or if one of them is a nickname and both come to
the same name. -/
theorem wordsMatch_iff_lowered (a b : String) : wordsMatch a b = true ↔ lowered a = lowered b ∨
    ((properName? a).isSome ∨ (properName? b).isSome) ∧ canonical a = canonical b := by
  rw [wordsMatch_iff]
  constructor
  · intro same
    by_cases known : (properName? a).isSome ∨ (properName? b).isSome
    · exact Or.inr ⟨known, same⟩
    · rw [not_or, Option.not_isSome_iff_eq_none, Option.not_isSome_iff_eq_none] at known
      rw [canonical_eq, canonical_eq, known.1, known.2] at same
      exact Or.inl same
  · rintro (same | ⟨-, same⟩)
    · exact canonical_lowered a b same
    · exact same

/-- Texts of as many words, which match one by one. -/
def SameWords (a b : List String) : Prop :=
  List.Forall₂ (fun asked shown => wordsMatch asked shown = true) a b

theorem sameWords_iff (a b : List String) :
    SameWords a b ↔ a.map canonical = b.map canonical := by
  rw [SameWords, ← List.forall₂_eq_eq_eq, List.forall₂_map_left_iff, List.forall₂_map_right_iff]
  simp only [wordsMatch_iff]

instance : DecidableRel SameWords := fun a b =>
  decidable_of_iff _ (sameWords_iff a b).symm

section

variable {a b : String} (same : wordsMatch a b = true)

include same

theorem wordsMatch_left (word : String) : wordsMatch a word = wordsMatch b word := by
  rw [wordsMatch, wordsMatch, (wordsMatch_iff a b).mp same]

theorem seek_word (words : List String) : seek words a = seek words b := by
  have test : (wordsMatch · a) = (wordsMatch · b) := by
    funext word
    rw [wordsMatch_comm word a, wordsMatch_comm word b, wordsMatch_left same]
  rw [seek, seek, test]

end

theorem seek_words {query other : List String} (same : SameWords query other) (word : String) :
    seek query word = seek other word := by
  induction same with
  | nil => rfl
  | cons first _ ih => rw [seek_cons, seek_cons, wordsMatch_left first, ih]

/-- A query is walked along a name as any other form of it is. -/
theorem align_sameWords {query other : List String} (same : SameWords query other)
    (name : List String) : align query name = align other name := by
  induction size : query.length + name.length using Nat.strong_induction_on
    generalizing query other name with
  | _ size ih =>
    cases name with
    | nil => rw [align_nil_name, align_nil_name]
    | cons n ns =>
      cases same with
      | nil => rfl
      | @cons q q' qs qs' first rest =>
        have asked : seek (q :: qs) n = seek (q' :: qs') n := seek_words (.cons first rest) n
        have shown : seek (n :: ns) q = seek (n :: ns) q' := seek_word first (n :: ns)
        have later (i j : Nat) :
            align (qs.drop i) (ns.drop j) = align (qs'.drop i) (ns.drop j) := by
          refine ih _ ?_ (List.forall₂_drop i rest) (ns.drop j) rfl
          simp only [List.length_drop, List.length_cons] at size ⊢
          omega
        -- The steps that drop words of one side only.
        have inQuery (i : Nat) : align (qs.drop i) ns = align (qs'.drop i) ns := later i 0
        have inName (j : Nat) : align qs (ns.drop j) = align qs' (ns.drop j) := later 0 j
        rw [align_cons, align_cons, asked, shown, rest.length_eq, later, inQuery, inName]

theorem align_self (words : List String) : align words words = some words.length := by
  induction words with
  | nil => rw [align_nil, List.length_nil]
  | cons w words ih =>
    have first : seek (w :: words) w = 0 := by
      rw [seek_cons, if_pos ((wordsMatch_iff w w).mpr rfl)]
    rw [align_cons, first]
    simp [ih]

private theorem matchesQuery_shown (n : Name) (query : String)
    (same : SameWords (wordsOf query) (wordsOf n.display)) (two : 2 ≤ (wordsOf query).length) :
    n.matchesQuery query = true := by
  have length := same.length_eq
  rw [matchesQuery_iff, align_sameWords same, align_self]
  exact ⟨_, rfl, by omega⟩

/-- Names are matched by the canonical forms of words alone, which is to say by case and nicknames.
Queries whose words match one by one are answered alike, and the answer is yes for the words that a
name is displayed with, if there are two; so a name that is split from a text without commas matches
that text. -/
theorem matchesQuery_canonical :
    (∀ a b : String, wordsMatch a b = true ↔ lowered a = lowered b ∨
      ((properName? a).isSome ∨ (properName? b).isSome) ∧ canonical a = canonical b) ∧
    (∀ (n : Name) (query other : String), SameWords (wordsOf query) (wordsOf other) →
      n.matchesQuery query = n.matchesQuery other) ∧
    (∀ (n : Name) (query : String), SameWords (wordsOf query) (wordsOf n.display) →
      2 ≤ (wordsOf query).length → n.matchesQuery query = true) ∧
    ∀ fullName : String, ',' ∉ fullName.toList → 2 ≤ (wordsOf fullName).length →
      (parse fullName).matchesQuery fullName = true := by
  refine ⟨wordsMatch_iff_lowered, ?_, matchesQuery_shown, ?_⟩
  · intro n query other same
    rw [matchesQuery, matchesQuery, align_sameWords same]
  · intro fullName noComma two
    have shown : SameWords (wordsOf fullName) (wordsOf (parse fullName).display) := by
      rw [wordsOf_parse fullName noComma, sameWords_iff]
    exact matchesQuery_shown (parse fullName) fullName shown two

theorem matchesQuery_canonical_captain :
    SameWords (wordsOf "jim KIRK") (wordsOf "James kirk") ∧
    captain.matchesQuery "jim KIRK" = captain.matchesQuery "James kirk" ∧
    SameWords (wordsOf "CAPT Jim tiberius kirk") (wordsOf captain.display) ∧
    2 ≤ (wordsOf "CAPT Jim tiberius kirk").length ∧
    captain.matchesQuery "CAPT Jim tiberius kirk" = true ∧
    ',' ∉ "Dr. Ludwig  van Beethoven III".toList ∧
    2 ≤ (wordsOf "Dr. Ludwig  van Beethoven III").length ∧
    (parse "Dr. Ludwig  van Beethoven III").matchesQuery "Dr. Ludwig  van Beethoven III" =
      true := by
  have forms : SameWords (wordsOf "jim KIRK") (wordsOf "James kirk") := by decide +kernel
  have shown : SameWords (wordsOf "CAPT Jim tiberius kirk") (wordsOf captain.display) := by
    decide +kernel
  have words : 2 ≤ (wordsOf "CAPT Jim tiberius kirk").length := by decide +kernel
  have noComma : ',' ∉ "Dr. Ludwig  van Beethoven III".toList := by decide
  have two : 2 ≤ (wordsOf "Dr. Ludwig  van Beethoven III").length := by decide +kernel
  obtain ⟨-, alike, own, split⟩ := matchesQuery_canonical
  exact ⟨forms, alike captain _ _ forms, shown, words, own captain _ shown words, noComma, two,
    split _ noComma two⟩

end CardFile.Name
