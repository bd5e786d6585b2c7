import CardFile.Address.Western
import CardFile.Proofs.Words

/-!
The lines of a label by what they stand for. Every label has one layout: the country is found at its
end, the locality before it, and the box among what is left. What is read from the label is what its
layout gives, so no line is lost, and no word of the locality.
-/
namespace CardFile.Address

/-- The lines of a label from top to bottom. The box, if there is one, stands in the body of the
label, between its front and its back. -/
structure Layout where
  front : List (List Char)
  box : Option (List Char)
  back : List (List Char)
  locality : Option (List Char)
  country : Option (List Char)

def namesCountry (line : List Char) : Bool :=
  !hasDigit line && !line.contains ','

private theorem takeCountry_concat (lines : List (List Char)) (last : List Char) :
    takeCountry (lines ++ [last]) =
      if 2 ≤ lines.length ∧ namesCountry last = true then (some last, lines)
      else (none, lines ++ [last]) := by
  have names : namesCountry last = true ↔ hasDigit last = false ∧ last.contains ',' = false := by
    simp [namesCountry]
  have more : 2 < (lines ++ [last]).length ↔ 2 ≤ lines.length := by
    rw [List.length_append, List.length_singleton]
    omega
  simp only [takeCountry, List.getLast?_concat, List.dropLast_concat, Bool.not_eq_true', more,
    names]

private theorem takeLocality_concat (lines : List (List Char)) (last : List Char) :
    takeLocality (lines ++ [last]) =
      if lines = [] then (none, [last]) else (some last, lines) := by
  have more : 1 < (lines ++ [last]).length ↔ lines ≠ [] := by
    rw [List.length_append, List.length_singleton, ← List.length_pos_iff]
    omega
  by_cases alone : lines = []
  · simp [takeLocality, alone]
  · rw [takeLocality, if_pos (more.mpr alone), if_neg alone, List.getLast?_concat,
      List.dropLast_concat]

namespace Layout

def body (l : Layout) : List (List Char) :=
  l.front ++ (l.box.toList ++ l.back)

def streets (l : Layout) : List (List Char) :=
  l.front ++ l.back

def lines (l : Layout) : List (List Char) :=
  l.body ++ (l.locality.toList ++ l.country.toList)

/-- A layout that leaves no choice: the first box of the body is the box, the last of several lines
is the locality, and a line that may name a country is one if it is the last of more than two. -/
structure Settled (l : Layout) : Prop where
  front : ∀ line ∈ l.front, isPostBox line = false
  box : ∀ line ∈ l.box, isPostBox line = true
  back : l.box = none → l.back = []
  located : ∀ line ∈ l.locality, l.body ≠ []
  single : l.locality = none → l.body.length ≤ 1 ∧ l.country = none
  country : ∀ line ∈ l.country, namesCountry line = true
  last : l.country = none → ∀ line ∈ l.locality, 1 < l.body.length → namesCountry line = false

def address (l : Layout) : Address :=
  let (city, region, code) := (l.locality.map splitLocality).getD (none, none, none)
  { po := l.box.map String.ofList
    ext := joinNonEmpty ", " ((l.streets.drop 1).map String.ofList)
    street := l.streets.head?.map String.ofList
    city, region, code
    country := l.country.map String.ofList }

section Take

variable (l : Layout) (settled : l.Settled)

include settled

private theorem takeCountry_lines :
    takeCountry l.lines = (l.country, l.body ++ l.locality.toList) := by
  have located := settled.located
  have single := settled.single
  have country := settled.country
  have last := settled.last
  rw [lines]
  generalize l.body = body at *
  cases locality : l.locality with
  | none =>
    obtain ⟨short, absent⟩ := single locality
    rw [absent]
    rcases List.eq_nil_or_concat body with rfl | ⟨others, only, rfl⟩
    · rfl
    · have few : ¬2 ≤ others.length := by
        simp only [List.concat_eq_append, List.length_append, List.length_singleton] at short
        omega
      simp [takeCountry_concat, few]
  | some line =>
    have filled : 1 ≤ body.length := List.length_pos_iff.mpr (located line locality)
    cases given : l.country with
    | none =>
      have kept : ¬(2 ≤ body.length ∧ namesCountry line = true) := by
        rintro ⟨more, names⟩
        rw [last given line locality more] at names
        cases names
      simp [takeCountry_concat, kept]
    | some name =>
      have two : 2 ≤ (body ++ [line]).length := by
        rw [List.length_append, List.length_singleton]
        omega
      rw [Option.toList_some, Option.toList_some, ← List.append_assoc, takeCountry_concat,
        if_pos ⟨two, country name given⟩]

private theorem takeLocality_lines :
    takeLocality (l.body ++ l.locality.toList) = (l.locality, l.body) := by
  cases locality : l.locality with
  | none =>
    have short := (settled.single locality).1
    have few : ¬1 < l.body.length := by omega
    rw [Option.toList_none, List.append_nil, takeLocality, if_neg few]
  | some line =>
    rw [Option.toList_some, takeLocality_concat, if_neg (settled.located line locality)]

private theorem takePostBox_body : takePostBox l.body = (l.box, l.streets) := by
  have front : ∀ line ∈ l.front, ¬isPostBox line = true := by simpa using settled.front
  rw [takePostBox, body, streets, List.find?_append, List.eraseP_append_right _ front,
    List.find?_eq_none.mpr front]
  cases box : l.box with
  | none => simp [settled.back box]
  | some line => simp [settled.box line box]

/-- What is read from a label is what its layout gives. -/
theorem parse_lines (text : String) (whole : l.lines = labelLines text.toList) :
    parse text = l.address := by
  rw [parse, ← whole, takeCountry_lines l settled]
  dsimp only
  rw [takeLocality_lines l settled]
  dsimp only
  rw [takePostBox_body l settled]
  rfl

end Take

end Layout

section Locality

def headWords (s : List Char) : List (List Char) :=
  (Text.words s).rdropWhile hasDigit

def codeWords (s : List Char) : List (List Char) :=
  (Text.words s).rtakeWhile hasDigit

theorem splitLocality_comma (city rest : List Char) (noComma : ',' ∉ city) :
    splitLocality (city ++ ',' :: rest) =
      (filled (some (String.ofList (Text.trim city))), joinedWords (headWords rest),
        joinedWords (codeWords rest)) := by
  rw [splitLocality, Text.cut_separator ',' city rest noComma]
  rfl

end Locality

end CardFile.Address
