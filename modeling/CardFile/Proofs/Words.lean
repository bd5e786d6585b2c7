import CardFile.Proofs.Trim
import CardFile.Text.Join
import Mathlib.Data.List.DropRight

/-!
The words of a text. A blank separates the words before it from those after it, and that is all that
blanks do: texts joined by spaces have the words of their parts, and trimming takes off none.
-/
namespace CardFile

namespace Text

@[simp] theorem words_nil : words [] = [] := by
  simp [words, List.splitOnP_nil]

theorem words_append (s t : List Char) (c : Char) (blank : isBlank c = true) :
    words (s ++ c :: t) = words s ++ words t := by
  rw [words, List.splitOnP_append_cons s t blank, List.filter_append, words, words]

theorem words_solid (s : List Char) (filled : s ≠ []) (solid : ∀ c ∈ s, isBlank c = false) :
    words s = [s] := by
  rw [words, List.splitOnP_eq_singleton solid]
  simp [filled]

theorem words_cons (c : Char) (s : List Char) (blank : isBlank c = true) :
    words (c :: s) = words s := by
  simpa using words_append [] s c blank

private theorem words_dropWhile (s : List Char) : words (s.dropWhile isBlank) = words s := by
  induction s with
  | nil => rfl
  | cons c s ih =>
    rw [List.dropWhile_cons]
    split
    · rename_i blank
      rw [ih, words_cons c s blank]
    · rfl

theorem words_dropWhileEnd (s : List Char) : words (dropWhileEnd isBlank s) = words s := by
  change words (s.rdropWhile isBlank) = words s
  induction s using List.reverseRecOn with
  | nil => rfl
  | append_singleton s c ih =>
    cases blank : isBlank c with
    | true =>
      rw [List.rdropWhile_concat_pos _ _ _ blank, ih, words_append s [] c blank, words_nil,
        List.append_nil]
    | false => rw [List.rdropWhile_concat_neg _ _ _ (by simp [blank])]

theorem words_trim (s : List Char) : words (trim s) = words s := by
  rw [trim, words_dropWhileEnd, words_dropWhile]

theorem words_afterBlank (front s : List Char) (ends : ∀ c ∈ front.getLast?, isBlank c = true) :
    words (front ++ s) = words front ++ words s := by
  rcases List.eq_nil_or_concat front with rfl | ⟨front, last, rfl⟩
  · simp
  · have blank : isBlank last = true := ends last (by simp)
    rw [List.concat_eq_append, List.append_assoc, List.singleton_append,
      words_append front s last blank, words_append front [] last blank, words_nil,
      List.append_nil]

theorem words_beforeBlank (s back : List Char) (starts : ∀ c ∈ back.head?, isBlank c = true) :
    words (s ++ back) = words s ++ words back := by
  cases back with
  | nil => simp
  | cons c back =>
    have blank : isBlank c = true := starts c rfl
    rw [words_append s back c blank, words_cons c back blank]

/-- The word that a character stands in takes up the text around it as far as the next blanks; the
other words are those of the texts that are left. -/
theorem words_around (front before after back : List Char) (c : Char) (solid : isBlank c = false)
    (inside : ∀ d ∈ before ++ after, isBlank d = false)
    (ends : ∀ d ∈ front.getLast?, isBlank d = true)
    (starts : ∀ d ∈ back.head?, isBlank d = true) :
    words (front ++ (before ++ c :: after ++ back)) =
      words front ++ (before ++ c :: after) :: words back := by
  have word : ∀ d ∈ before ++ c :: after, isBlank d = false := by
    intro d member
    rcases List.mem_append.mp member with early | late
    · exact inside d (List.mem_append_left after early)
    · rcases List.mem_cons.mp late with rfl | late
      · exact solid
      · exact inside d (List.mem_append_right before late)
  rw [words_afterBlank front _ ends, words_beforeBlank _ back starts,
    words_solid _ (by simp) word, List.singleton_append]

/-- Texts joined by spaces have the words of all of them. -/
theorem words_intercalate (parts : List (List Char)) :
    words ([' '].intercalate parts) = parts.flatMap words := by
  induction parts with
  | nil => simp
  | cons first others ih =>
    cases others with
    | nil => simp [List.intercalate_singleton]
    | cons second others =>
      rw [List.intercalate_cons_cons, List.append_assoc, List.singleton_append,
        words_append first _ ' ' (by decide), ih, ← List.flatMap_cons]

private theorem mem_splitOnP (p : Char → Bool) (s part : List Char)
    (member : part ∈ s.splitOnP p) : ∀ c ∈ part, c ∈ s ∧ p c = false := by
  induction s generalizing part with
  | nil =>
    obtain rfl : part = [] := by simpa [List.splitOnP_nil] using member
    simp
  | cons d s ih =>
    have later (part : List Char) (member : part ∈ s.splitOnP p) :
        ∀ c ∈ part, c ∈ d :: s ∧ p c = false :=
      fun c inside => (ih part member c inside).imp_left (List.mem_cons_of_mem d)
    rw [List.splitOnP_cons_eq_if_modifyHead] at member
    split at member
    · rcases List.mem_cons.mp member with rfl | member
      · simp
      · exact later part member
    · rename_i other
      obtain ⟨head, tail, parts⟩ := List.exists_cons_of_ne_nil (List.splitOnP_ne_nil p s)
      rw [parts] at later
      rw [parts, List.modifyHead_cons] at member
      rcases List.mem_cons.mp member with rfl | member
      · intro c inside
        rcases List.mem_cons.mp inside with rfl | inside
        · exact ⟨List.mem_cons_self, by simpa using other⟩
        · exact later head List.mem_cons_self c inside
      · exact later part (List.mem_cons_of_mem head member)

/-- A word is not empty, and its characters are those of the text that are not blank. -/
theorem word_solid (s word : List Char) (member : word ∈ words s) :
    word ≠ [] ∧ ∀ c ∈ word, c ∈ s ∧ isBlank c = false := by
  rw [words, List.mem_filter] at member
  obtain ⟨present, filled⟩ := member
  exact ⟨by simpa using filled, mem_splitOnP isBlank s word present⟩

end Text

theorem wordsOf_trimmed (s : String) : wordsOf (trimmed s) = wordsOf s := by
  rw [wordsOf, trimmed, String.toList_ofList, Text.words_trim, wordsOf]

theorem wordsOf_solid (s : String) (filled : s ≠ "")
    (solid : ∀ c ∈ s.toList, Text.isBlank c = false) : wordsOf s = [s] := by
  have some : s.toList ≠ [] := by simpa using filled
  rw [wordsOf, Text.words_solid s.toList some solid, List.map_singleton, String.ofList_toList]

/-- A word is its own only word, and no character is new in it. -/
theorem wordsOf_word (s word : String) (member : word ∈ wordsOf s) :
    wordsOf word = [word] ∧ ∀ c ∈ word.toList, c ∈ s.toList := by
  obtain ⟨chars, present, rfl⟩ := List.mem_map.mp member
  obtain ⟨filled, solid⟩ := Text.word_solid s.toList chars present
  have own := Text.words_solid chars filled fun c inside => (solid c inside).2
  rw [wordsOf, String.toList_ofList, own]
  exact ⟨rfl, fun c inside => (solid c inside).1⟩

theorem filled_solid (text? : Option String) : filled text? ≠ some "" := by
  cases text? with
  | none => simp [filled]
  | some s => by_cases empty : s = "" <;> simp [filled, empty]

theorem filled_eq_self (text? : Option String) (solid : text? ≠ some "") :
    filled text? = text? := by
  cases text? with
  | none => rfl
  | some s =>
    have filled : s ≠ "" := fun empty => solid (congrArg some empty)
    simp [CardFile.filled, filled]

theorem filled_some (s : String) (solid : s ≠ "") : filled (some s) = some s :=
  filled_eq_self _ fun empty => solid (Option.some.inj empty)

@[simp] theorem filled_filled (text? : Option String) : filled (filled text?) = filled text? :=
  filled_eq_self _ (filled_solid text?)

theorem getD_filled (text? : Option String) : (filled text?).getD "" = text?.getD "" := by
  cases text? with
  | none => rfl
  | some s => by_cases empty : s = "" <;> simp [filled, empty]

@[simp] theorem wordsOf_empty : wordsOf "" = [] := by
  simp [wordsOf]

private theorem wordsOf_intercalate (parts : List String) :
    wordsOf (" ".intercalate parts) = parts.flatMap wordsOf := by
  have space : " ".toList = [' '] := rfl
  rw [wordsOf, String.toList_intercalate, space, Text.words_intercalate, List.map_flatMap,
    List.flatMap_map]
  rfl

/-- Joining texts adds no words to theirs; missing ones and empty ones have none. -/
theorem wordsOf_joinFilled (parts : List (Option String)) :
    wordsOf (joinFilled " " parts) = parts.flatMap fun part => wordsOf (part.getD "") := by
  rw [joinFilled, wordsOf_intercalate]
  induction parts with
  | nil => rfl
  | cons part parts ih =>
    rw [List.flatMap_cons, ← ih, ← getD_filled part, List.filterMap_cons]
    cases filled part with
    | none => rw [Option.getD_none, wordsOf_empty, List.nil_append]
    | some text => rw [List.flatMap_cons, Option.getD_some]

theorem wordsOf_joinNonEmpty (parts : List String) :
    wordsOf ((joinNonEmpty " " parts).getD "") = parts.flatMap wordsOf := by
  rw [joinNonEmpty, getD_filled, Option.getD_some, wordsOf_joinFilled, List.flatMap_map]
  rfl

theorem filled_eq_some (text? : Option String) (s : String) (found : filled text? = some s) :
    text? = some s ∧ s ≠ "" := by
  have solid := filled_solid text?
  cases text? with
  | none => cases found
  | some text =>
    rw [found] at solid
    rw [filled] at found
    split at found
    · cases found
    · exact ⟨found, fun empty => solid (congrArg some empty)⟩

private theorem joinNonEmpty_eq (separator : String) (parts : List String) :
    joinNonEmpty separator parts =
      filled (some (separator.intercalate (parts.filterMap fun part => filled (some part)))) := by
  rw [joinNonEmpty, joinFilled, List.filterMap_map]
  rfl

private theorem intercalate_filled (separator first : String) (others : List String)
    (filled : first ≠ "") : separator.intercalate (first :: others) ≠ "" := by
  cases others with
  | nil => rwa [String.intercalate_singleton]
  | cons second others =>
    rw [String.intercalate_cons_cons, String.append_assoc]
    intro empty
    exact filled (String.append_eq_empty_iff.mp empty).1

/-- Texts that are not empty are joined as they are. -/
theorem joinNonEmpty_filled (separator : String) (parts : List String)
    (solid : ∀ part ∈ parts, part ≠ "") : joinNonEmpty separator parts =
      if parts = [] then none else some (separator.intercalate parts) := by
  have all : parts.filterMap (fun part => filled (some part)) = parts := by
    have kept : ∀ part ∈ parts, filled (some part) = some part := fun part member =>
      filled_some part (solid part member)
    rw [List.filterMap_congr kept]
    exact List.filterMap_some
  rw [joinNonEmpty_eq, all]
  cases parts with
  | nil => rfl
  | cons first others =>
    rw [if_neg (List.cons_ne_nil first others)]
    exact filled_some _ (intercalate_filled separator first others (solid first List.mem_cons_self))

/-- Texts may be joined in two steps. -/
theorem joinNonEmpty_append (parts others : List String) : joinNonEmpty " " (parts ++ others) =
    joinNonEmpty " " ((joinNonEmpty " " parts).toList ++ others) := by
  rw [joinNonEmpty_eq, joinNonEmpty_eq " " parts, joinNonEmpty_eq, List.filterMap_append,
    List.filterMap_append]
  generalize others.filterMap (fun part => filled (some part)) = later
  cases kept : parts.filterMap fun part => filled (some part) with
  | nil => simp [filled]
  | cons first rest =>
    have solid : first ≠ "" := by
      have member : first ∈ parts.filterMap fun part => filled (some part) := by simp [kept]
      obtain ⟨part, -, found⟩ := List.mem_filterMap.mp member
      exact (filled_eq_some _ first found).2
    have joined : filled (some (" ".intercalate (first :: rest))) =
        some (" ".intercalate (first :: rest)) :=
      filled_some _ (intercalate_filled " " first rest solid)
    have alone : [" ".intercalate (first :: rest)].filterMap (fun part => filled (some part)) =
        [" ".intercalate (first :: rest)] := List.filterMap_cons_some joined
    rw [joined, Option.toList_some, alone]
    cases later with
    | nil => simp
    | cons next more =>
      rw [String.intercalate_append_of_ne_nil (List.cons_ne_nil _ _) (List.cons_ne_nil _ _),
        List.singleton_append, String.intercalate_cons_cons]

theorem joinNonEmpty_concat_empty (parts : List String) :
    joinNonEmpty " " (parts ++ [""]) = joinNonEmpty " " parts := by
  rw [joinNonEmpty_eq, joinNonEmpty_eq, List.filterMap_append]
  simp [filled]

/-- A text of words with a space between each two of them, and no other blanks. -/
def Spaced (s : String) : Prop :=
  " ".intercalate (wordsOf s) = s

section Spaced

theorem spaced_word (s word : String) (member : word ∈ wordsOf s) : Spaced word := by
  rw [Spaced, (wordsOf_word s word member).1, String.intercalate_singleton]

theorem wordsOf_filled (s : String) (spaced : Spaced s) (filled : s ≠ "") :
    wordsOf s ≠ [] := by
  intro none
  rw [Spaced, none, String.intercalate_nil] at spaced
  exact filled spaced.symm

private theorem intercalate_words (texts : List String)
    (spaced : ∀ text ∈ texts, Spaced text ∧ text ≠ "") :
    " ".intercalate (texts.flatMap wordsOf) = " ".intercalate texts := by
  induction texts with
  | nil => rfl
  | cons first others ih =>
    obtain ⟨own, filled⟩ := spaced first List.mem_cons_self
    have later := fun text member => spaced text (List.mem_cons_of_mem first member)
    rw [List.flatMap_cons]
    cases others with
    | nil => rw [List.flatMap_nil, List.append_nil, own, String.intercalate_singleton]
    | cons second others =>
      obtain ⟨next, nextFilled⟩ := later second List.mem_cons_self
      have rest : (second :: others).flatMap wordsOf ≠ [] := by
        rw [List.flatMap_cons]
        exact List.append_ne_nil_of_left_ne_nil (wordsOf_filled second next nextFilled) _
      rw [String.intercalate_append_of_ne_nil (wordsOf_filled first own filled) rest, own, ih later,
        String.intercalate_cons_cons]

/-- Texts that are spaced stay so when they are joined by spaces. -/
theorem spaced_joinFilled (parts : List (Option String))
    (spaced : ∀ part ∈ parts, Spaced (part.getD "")) : Spaced (joinFilled " " parts) := by
  rw [Spaced, joinFilled, wordsOf_intercalate]
  apply intercalate_words
  intro text member
  obtain ⟨part, present, found⟩ := List.mem_filterMap.mp member
  obtain ⟨rfl, filled⟩ := filled_eq_some part text found
  exact ⟨spaced (some text) present, filled⟩

theorem spaced_joinNonEmpty (parts : List String) (spaced : ∀ part ∈ parts, Spaced part) :
    Spaced ((joinNonEmpty " " parts).getD "") := by
  rw [joinNonEmpty, getD_filled, Option.getD_some]
  apply spaced_joinFilled
  intro part member
  obtain ⟨text, present, rfl⟩ := List.mem_map.mp member
  exact spaced text present

theorem spaced_trimmed (s : String) (spaced : Spaced s) : trimmed s = s := by
  have space : " ".toList = [' '] := rfl
  have text : s.toList = [' '].intercalate (Text.words s.toList) := by
    conv_lhs => rw [← spaced, String.toList_intercalate, space, wordsOf, List.map_map]
    congr 1
    exact (List.map_congr_left fun word _ => String.toList_ofList).trans (List.map_id _)
  have solid : Text.trim s.toList = s.toList := by
    rw [text]
    apply Text.trim_intercalate
    intro word member
    obtain ⟨filled, inside⟩ := Text.word_solid s.toList word member
    exact ⟨filled, Text.trim_solid word fun c present => (inside c present).2⟩
  rw [trimmed, solid, String.ofList_toList]

/-- The words of a spaced text are joined to the text. -/
theorem joinNonEmpty_words (text? : Option String)
    (spaced : ∀ text ∈ text?, text ≠ "" ∧ Spaced text) :
    joinNonEmpty " " (wordsOf (text?.getD "")) = text? := by
  cases text? with
  | none => rw [Option.getD_none, wordsOf_empty, joinNonEmpty_filled _ _ (by simp), if_pos rfl]
  | some text =>
    obtain ⟨filled, own⟩ := spaced text rfl
    have solid : ∀ word ∈ wordsOf text, word ≠ "" := by
      rintro word member rfl
      simpa using (wordsOf_word text "" member).1
    rw [Option.getD_some, joinNonEmpty_filled _ _ solid, if_neg (wordsOf_filled text own filled),
      own]

end Spaced

/-- Joining words adds no character to theirs but spaces. -/
theorem mem_intercalate (words : List String) (c : Char)
    (member : c ∈ (" ".intercalate words).toList) : c = ' ' ∨ ∃ w ∈ words, c ∈ w.toList := by
  induction words with
  | nil => simp at member
  | cons first others ih =>
    cases others with
    | nil =>
      rw [String.intercalate_singleton] at member
      exact Or.inr ⟨first, List.mem_cons_self, member⟩
    | cons second others =>
      rw [String.intercalate_cons_cons, String.toList_append, String.toList_append,
        List.mem_append, List.mem_append] at member
      rcases member with (inFirst | space) | later
      · exact Or.inr ⟨first, List.mem_cons_self, inFirst⟩
      · exact Or.inl (List.mem_singleton.mp space)
      · rcases ih later with space | ⟨w, present, inside⟩
        · exact Or.inl space
        · exact Or.inr ⟨w, List.mem_cons_of_mem first present, inside⟩

end CardFile
