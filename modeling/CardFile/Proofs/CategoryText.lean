import CardFile.Card.Basic
import CardFile.Proofs.Category

/-!
The text that shows the categories of a card, taken back as its categories. The text holds the
entries as they are, with a comma and a space between them, while commas and backslashes are marks
where it is read. So an entry comes back as it was only if it has no mark in it: a backslash is
always taken out, and a comma stays only behind a backslash.
-/
namespace CardFile

namespace Category

def isMark (c : Char) : Bool :=
  c == '\\' || c == ','

theorem plain_iff (s : List Char) : (∀ c ∈ s, isMark c = false) ↔ ',' ∉ s ∧ '\\' ∉ s := by
  constructor
  · intro plain
    exact ⟨fun comma => absurd (plain ',' comma) (by decide),
      fun slash => absurd (plain '\\' slash) (by decide)⟩
  · rintro ⟨comma, slash⟩ c member
    have notSlash : c ≠ '\\' := fun same => slash (same ▸ member)
    have notComma : c ≠ ',' := fun same => comma (same ▸ member)
    simp [isMark, notSlash, notComma]

private theorem escape_plain (s : List Char) (plain : ∀ c ∈ s, isMark c = false) :
    escape s = s := by
  induction s with
  | nil => rfl
  | cons c s ih =>
    have first : ¬(c = '\\' ∨ c = ',') := by simpa [isMark] using plain c List.mem_cons_self
    rw [escape, if_neg first, ih fun d member => plain d (List.mem_cons_of_mem c member)]

private theorem flatten_consFirst (c : Char) (parts : List (List Char)) :
    (Wire.consFirst c parts).flatten = c :: parts.flatten := by
  cases parts with
  | nil => rfl
  | cons first others => rfl

/-- Each mark that is left in a segment took a backslash before it that is not. -/
theorem count_segments (s : List Char) :
    (segments s).flatten.count '\\' + (segments s).flatten.countP isMark ≤ s.count '\\' := by
  fun_induction segments s with
  | case1 => simp
  | case2 => simp
  | case3 c rest ih =>
    have escaped : (if isMark c then 1 else 0) ≤ 1 := by split <;> omega
    rw [flatten_consFirst, List.count_cons, List.countP_cons, List.count_cons_self, List.count_cons]
    omega
  | case4 rest ih => simpa using ih
  | case5 c rest last escaping comma ih =>
    have slash : c ≠ '\\' := by
      cases rest with
      | nil => exact fun same => last same rfl
      | cons d rest => exact fun same => escaping d rest same rfl
    have plain : isMark c = false := by simp [isMark, slash, show c ≠ ',' from comma]
    rw [flatten_consFirst, List.count_cons_of_ne slash, List.countP_cons_of_neg (by simp [plain]),
      List.count_cons_of_ne slash]
    exact ih

/-- Reading takes characters out and puts none in. -/
private theorem addAll_sublist (list : List String) (text : String) :
    ((addAll list text).flatMap String.toList).Sublist
      (list.flatMap String.toList ++ (segments text.toList).flatten) := by
  rw [addAll]
  induction segments text.toList generalizing list with
  | nil => simp
  | cons segment later ih =>
    have taken : ((add list (String.ofList segment)).flatMap String.toList).Sublist
        (list.flatMap String.toList ++ segment) := by
      rw [add]
      split
      · exact List.sublist_append_left _ _
      · have trimmed : (trimmed (String.ofList segment)).toList.Sublist segment := by
          simpa [CardFile.trimmed] using Text.trim_sublist segment
        simpa using trimmed
    rw [List.foldl_cons, List.flatten_cons, ← List.append_assoc]
    exact (ih _).trans (taken.append_right _)

private theorem count_shown (list : List String) :
    (", ".intercalate list).toList.count '\\' = (list.flatMap String.toList).count '\\' := by
  induction list with
  | nil => rfl
  | cons first others ih =>
    cases others with
    | nil => simp
    | cons second others =>
      have separator : ", ".toList.count '\\' = 0 := by decide
      rw [String.intercalate_cons_cons, String.toList_append, String.toList_append,
        List.count_append, List.count_append, ih, separator, Nat.add_zero,
        List.flatMap_cons (x := first), List.count_append]

/-- If the text that shows a list reads as the list, no entry has a mark in it. -/
theorem plain_of_shown (list : List String) (same : addAll [] (", ".intercalate list) = list) :
    ∀ entry ∈ list, ∀ c ∈ entry.toList, isMark c = false := by
  have kept := addAll_sublist [] (", ".intercalate list)
  rw [same, List.flatMap_nil, List.nil_append] at kept
  have marks := count_segments (", ".intercalate list).toList
  rw [count_shown] at marks
  have slashes := kept.count_le '\\'
  have all := kept.countP_le (p := isMark)
  have none : (list.flatMap String.toList).countP isMark = 0 := by omega
  intro entry present c inside
  have plain := List.countP_eq_zero.mp none c (List.mem_flatMap.mpr ⟨entry, present, inside⟩)
  simpa using plain

private theorem intercalate_spaced (first : List Char) (others : List (List Char)) :
    [',', ' '].intercalate (first :: others) =
      [','].intercalate (first :: others.map (' ' :: ·)) := by
  induction others generalizing first with
  | nil => rfl
  | cons second others ih =>
    have moved : [',', ' '].intercalate ((' ' :: second) :: others) =
        ' ' :: [',', ' '].intercalate (second :: others) := by
      cases others with
      | nil => simp
      | cons third others => simp [List.intercalate_cons_cons]
    rw [List.intercalate_cons_cons, List.map_cons, List.intercalate_cons_cons, ← ih, moved]
    simp

theorem segments_shown (first : String) (others : List String)
    (plain : ∀ entry ∈ first :: others, ∀ c ∈ entry.toList, isMark c = false) :
    segments (", ".intercalate (first :: others)).toList =
      first.toList :: others.map fun entry => ' ' :: entry.toList := by
  have comma : ", ".toList = [',', ' '] := rfl
  have spaced : others.map ((' ' :: ·) ∘ String.toList) =
      others.map fun entry => ' ' :: entry.toList := rfl
  have unescaped : (first.toList :: others.map fun entry => ' ' :: entry.toList).map escape =
      first.toList :: others.map fun entry => ' ' :: entry.toList := by
    refine (List.map_congr_left fun part member => escape_plain part ?_).trans (List.map_id _)
    rcases List.mem_cons.mp member with rfl | later
    · exact plain first List.mem_cons_self
    · obtain ⟨entry, present, rfl⟩ := List.mem_map.mp later
      intro c inside
      rcases List.mem_cons.mp inside with rfl | inside
      · rfl
      · exact plain entry (List.mem_cons_of_mem first present) c inside
  rw [String.toList_intercalate, comma, List.map_cons, intercalate_spaced, List.map_map, spaced,
    ← unescaped, segments_join _ (by simp), unescaped]

private theorem trimmed_indented (entry : String) : trimmed (" " ++ entry) = trimmed entry := by
  have space : " ".toList = [' '] := rfl
  rw [trimmed, trimmed, String.toList_append, space, List.singleton_append, Text.trim, Text.trim,
    List.dropWhile_cons_of_pos (by decide)]

theorem addAll_shown (list : List String) (clean : Clean list)
    (plain : ∀ entry ∈ list, ∀ c ∈ entry.toList, isMark c = false) :
    addAll [] (", ".intercalate list) = list := by
  cases list with
  | nil => exact addAll_clean [] clean
  | cons first others =>
    have trimmedAlike : (segments (", ".intercalate (first :: others)).toList).map
        (trimmed ∘ String.ofList) = (first :: others).map trimmed := by
      rw [segments_shown first others plain]
      simp [trimmed_indented, Function.comp_def]
    have added : addAll [] (", ".intercalate (first :: others)) =
        (first :: others).foldl add [] := by
      rw [addAll, ← List.foldl_map, foldl_add, List.map_map, trimmedAlike, ← foldl_add]
    rw [added, ← addAll_join, addAll_clean _ clean]

end Category

namespace Card

/-- The categories of a card come back from their own text exactly if no entry has a comma or a
backslash in it. -/
theorem setCategories_categoriesText (c : Card) (list : List String)
    (given : c.categories = some list) (clean : Category.Clean list) :
    c.categoriesText.map c.setCategories = some c ↔
      ∀ entry ∈ list, ',' ∉ entry.toList ∧ '\\' ∉ entry.toList := by
  have text : c.categoriesText = some (", ".intercalate list) := by rw [categoriesText, given]; rfl
  have same : c.categoriesText.map c.setCategories = some c ↔
      Category.addAll [] (", ".intercalate list) = list := by
    rw [text, Option.map_some, Option.some_inj, setCategories]
    constructor
    · intro kept
      have categories := congrArg Card.categories kept
      rw [given] at categories
      exact Option.some.inj categories
    · intro kept
      rw [kept, ← given]
  simp only [same, ← Category.plain_iff]
  exact ⟨Category.plain_of_shown list, Category.addAll_shown list clean⟩

def booksCard : Card :=
  { id := "u", categories := some ["Work", "Book  Club", "#1; a: b"] }

theorem setCategories_categoriesText_books :
    booksCard.categories = some ["Work", "Book  Club", "#1; a: b"] ∧
    Category.Clean ["Work", "Book  Club", "#1; a: b"] ∧
    booksCard.categoriesText.map booksCard.setCategories = some booksCard := by
  have clean : Category.Clean ["Work", "Book  Club", "#1; a: b"] :=
    ⟨by decide, by decide +kernel, by decide⟩
  have given : booksCard.categories = some ["Work", "Book  Club", "#1; a: b"] := rfl
  exact ⟨given, clean, (setCategories_categoriesText booksCard _ given clean).mpr (by decide)⟩

def commaCard : Card :=
  { id := "u", categories := some ["A,B"] }

def backslashCard : Card :=
  { id := "u", categories := some ["C\\D"] }

/-- Marks are shown as they are, but a comma is read as the end of an entry and a backslash is taken
out. -/
theorem setCategories_marked :
    (commaCard.categories = some ["A,B"] ∧ Category.Clean ["A,B"] ∧
      commaCard.categoriesText = some "A,B" ∧
      commaCard.setCategories "A,B" = { id := "u", categories := some ["A", "B"] } ∧
      commaCard.categoriesText.map commaCard.setCategories ≠ some commaCard) ∧
    backslashCard.categories = some ["C\\D"] ∧ Category.Clean ["C\\D"] ∧
    backslashCard.categoriesText = some "C\\D" ∧
    backslashCard.setCategories "C\\D" = { id := "u", categories := some ["CD"] } ∧
    backslashCard.categoriesText.map backslashCard.setCategories ≠ some backslashCard := by
  have comma : Category.Clean ["A,B"] := ⟨by decide, by decide +kernel, by decide⟩
  have backslash : Category.Clean ["C\\D"] := ⟨by decide, by decide +kernel, by decide⟩
  refine ⟨⟨rfl, comma, ?_, ?_, ?_⟩, rfl, backslash, ?_, ?_, ?_⟩ <;> decide +kernel

end Card

end CardFile
