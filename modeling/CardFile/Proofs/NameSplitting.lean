import CardFile.Name.Western
import CardFile.Proofs.Words

/-!
How a name is split. Honorifics are taken off the front of its words and suffixes off their end, and
what is between is parted in order: no word is lost, added or moved. So a name that was split from a
text without commas is displayed as the words of that text. In one with the family name before a
comma, this holds of the words after it.
-/
namespace CardFile.Name

section Parts

variable (p : String → Bool) (keep : Nat) (words : List String)

theorem takeLeading_append :
    (takeLeading p keep words).1 ++ (takeLeading p keep words).2 = words := by
  induction words with
  | nil => rfl
  | cons w words ih =>
    rw [takeLeading]
    split
    · rw [List.cons_append, ih]
    · rfl

theorem takeTrailing_append :
    (takeTrailing p keep words).2 ++ (takeTrailing p keep words).1 = words := by
  rw [takeTrailing, ← List.reverse_append, takeLeading_append, List.reverse_reverse]

theorem splitMiddle_append :
    (splitMiddle words).1 ++ ((splitMiddle words).2.1 ++ (splitMiddle words).2.2) = words := by
  match words with
  | [] => rfl
  | [only] => rfl
  | first :: second :: more =>
    have family := takeTrailing_append isParticle 0 (second :: more).dropLast
    have last : (second :: more).dropLast ++ (second :: more).getLast?.toList = second :: more := by
      rw [List.getLast?_eq_some_getLast (by simp), Option.toList_some]
      exact List.dropLast_append_getLast _
    rw [splitMiddle, List.singleton_append, ← List.append_assoc, family, last]

theorem takeLeading_left (enough : keep ≤ words.length) :
    keep ≤ (takeLeading p keep words).2.length := by
  induction words with
  | nil => exact enough
  | cons w words ih =>
    rw [takeLeading]
    split
    · rename_i more
      exact ih more.1
    · exact enough

theorem takeTrailing_left (enough : keep ≤ words.length) :
    keep ≤ (takeTrailing p keep words).2.length := by
  rw [takeTrailing, List.length_reverse]
  exact takeLeading_left p keep words.reverse (by rwa [List.length_reverse])

theorem splitMiddle_given (some : words ≠ []) : (splitMiddle words).1 ≠ [] := by
  match words with
  | [only] => exact List.cons_ne_nil _ _
  | first :: second :: more => exact List.cons_ne_nil _ _

end Parts

/-- The components of a name in its usual order are its words, parted in that order; the first that
is neither an honorific nor a suffix is the given name. -/
theorem parseForward_parts (fullName : String) :
    ∃ honorifics given additional family suffixes,
      honorifics ++ (given ++ (additional ++ (family ++ suffixes))) = wordsOf fullName ∧
      (wordsOf fullName ≠ [] → given ≠ []) ∧
      parseForward fullName = ⟨joinNonEmpty " " honorifics, joinWords given, joinWords additional,
        joinWords family, joinWords suffixes⟩ := by
  have front := takeLeading_append isHonorific 1 (wordsOf fullName)
  have frontLeft := takeLeading_left isHonorific 1 (wordsOf fullName)
  rw [parseForward]
  generalize takeLeading isHonorific 1 (wordsOf fullName) = taken at front frontLeft ⊢
  obtain ⟨honorifics, rest⟩ := taken
  have back := takeTrailing_append isSuffix 1 rest
  have backLeft := takeTrailing_left isSuffix 1 rest
  dsimp only at front frontLeft ⊢
  generalize takeTrailing isSuffix 1 rest = taken at back backLeft ⊢
  obtain ⟨suffixes, middle⟩ := taken
  have parts := splitMiddle_append middle
  have first := splitMiddle_given middle
  dsimp only at back backLeft ⊢
  generalize splitMiddle middle = taken at parts first ⊢
  obtain ⟨given, additional, family⟩ := taken
  refine ⟨honorifics, given, additional, family, suffixes, ?_, ?_, rfl⟩
  · rw [← front, ← back, ← parts]
    simp
  · intro some
    apply first
    rw [← List.length_pos_iff] at some ⊢
    exact backLeft (frontLeft some)

/-- A name is displayed with the words of its components, in order. -/
theorem wordsOf_display (n : Name) :
    wordsOf n.display = n.components.flatMap fun component => wordsOf (component.getD "") :=
  wordsOf_joinFilled n.components

theorem stripCommas_absent (word : String) (noComma : ',' ∉ word.toList) :
    stripCommas word = word := by
  have kept : Text.dropWhileEnd (· == ',') word.toList = word.toList := by
    change word.toList.rdropWhile (· == ',') = word.toList
    rw [List.rdropWhile_eq_self_iff]
    intro some last
    have comma : word.toList.getLast some = ',' := by simpa using last
    exact noComma (comma ▸ List.getLast_mem some)
  rw [stripCommas, kept, String.ofList_toList]

section Words

variable (fullName : String) (words : List String) (own : ∀ w ∈ words, w ∈ wordsOf fullName)

include own

private theorem wordsOf_joined : wordsOf ((joinNonEmpty " " words).getD "") = words := by
  rw [wordsOf_joinNonEmpty]
  induction words with
  | nil => rfl
  | cons w words ih =>
    have others := ih fun v member => own v (List.mem_cons_of_mem w member)
    rw [List.flatMap_cons, others, (wordsOf_word fullName w (own w List.mem_cons_self)).1]
    rfl

private theorem joinWords_plain (noComma : ',' ∉ fullName.toList) :
    joinWords words = joinNonEmpty " " words := by
  have stripped : words.map stripCommas = words := by
    refine (List.map_congr_left fun w member => ?_).trans words.map_id
    have inName := (wordsOf_word fullName w (own w member)).2
    exact stripCommas_absent w fun comma => noComma (inName ',' comma)
  rw [joinWords, stripped]

private theorem joined_some (some : words ≠ []) : (joinNonEmpty " " words).isSome = true := by
  have joined := wordsOf_joined fullName words own
  cases found : joinNonEmpty " " words with
  | none =>
    rw [found] at joined
    exact absurd joined.symm (by simpa [wordsOf] using some)
  | some text => rfl

end Words

/-- The parts of the words of a text, in order, each put as a component. -/
private def PartedAs (text : String) (components : List (Option String)) : Prop :=
  ∃ parts : List (List String), parts.flatten = wordsOf text ∧
    components = parts.map (joinNonEmpty " ")

private theorem wordsOf_parted (text : String) (components : List (Option String))
    (parted : PartedAs text components) :
    (components.flatMap fun component => wordsOf (component.getD "")) = wordsOf text := by
  obtain ⟨parts, whole, rfl⟩ := parted
  rw [List.flatMap_map, ← whole]
  have own : ∀ part ∈ parts, wordsOf ((joinNonEmpty " " part).getD "") = part := by
    intro part present
    apply wordsOf_joined text part
    intro w member
    exact whole ▸ List.mem_flatten_of_mem present member
  rw [List.flatMap_def, List.map_congr_left own, List.map_id']

private theorem parseForward_parted (fullName : String) (noComma : ',' ∉ fullName.toList) :
    PartedAs fullName (parseForward fullName).components := by
  obtain ⟨honorifics, given, additional, family, suffixes, whole, -, split⟩ :=
    parseForward_parts fullName
  have own : ∀ w ∈ honorifics ++ (given ++ (additional ++ (family ++ suffixes))),
      w ∈ wordsOf fullName :=
    fun w member => whole ▸ member
  simp only [List.forall_mem_append] at own
  obtain ⟨-, inGiven, inAdditional, inFamily, inSuffixes⟩ := own
  refine ⟨[honorifics, given, additional, family, suffixes], by simpa using whole, ?_⟩
  have plain (words : List String) (inName : ∀ w ∈ words, w ∈ wordsOf fullName) :=
    joinWords_plain fullName words inName noComma
  rw [split, components, plain given inGiven, plain additional inAdditional, plain family inFamily,
    plain suffixes inSuffixes]
  rfl

/-- Without the family name, the components of a name that has it first are the parts of the words
after its comma. -/
private theorem parseReversed_parted (before after : String) (noComma : ',' ∉ after.toList) :
    PartedAs after [(parseReversed before after).honorific, (parseReversed before after).given,
      (parseReversed before after).additional, (parseReversed before after).suffix] := by
  have front := takeLeading_append isHonorific 0 (wordsOf after)
  rw [parseReversed]
  generalize takeLeading isHonorific 0 (wordsOf after) = taken at front ⊢
  obtain ⟨honorifics, rest⟩ := taken
  have back := takeTrailing_append isSuffix 0 rest
  dsimp only at front ⊢
  generalize takeTrailing isSuffix 0 rest = taken at back ⊢
  obtain ⟨suffixes, names⟩ := taken
  dsimp only at back ⊢
  have whole : honorifics ++ (names.take 1 ++ (names.drop 1 ++ suffixes)) = wordsOf after := by
    rw [← front, ← back, ← List.append_assoc (names.take 1), List.take_append_drop]
  have own : ∀ w ∈ honorifics ++ (names.take 1 ++ (names.drop 1 ++ suffixes)), w ∈ wordsOf after :=
    fun w member => whole ▸ member
  simp only [List.forall_mem_append] at own
  obtain ⟨-, inGiven, inAdditional, inSuffixes⟩ := own
  refine ⟨[honorifics, names.take 1, names.drop 1, suffixes], by simpa using whole, ?_⟩
  rw [joinWords_plain after _ inGiven noComma, joinWords_plain after _ inAdditional noComma,
    joinWords_plain after _ inSuffixes noComma]
  rfl

private theorem family_parseReversed (before after : String) :
    (parseReversed before after).family =
      if trimmed before = "" then none else some (trimmed before) := by
  simp only [parseReversed]
  by_cases blank : trimmed before = "" <;> simp [joinNonEmpty, joinFilled, filled, blank]

private theorem trimmed_noComma (text : String) (noComma : ',' ∉ text.toList) :
    ',' ∉ (trimmed text).toList := by
  rw [trimmed, String.toList_ofList]
  exact fun comma => noComma (Text.mem_of_mem_trim text.toList ',' comma)

theorem parse_noComma (fullName : String) (noComma : ',' ∉ fullName.toList) :
    parse fullName = parseForward (trimmed fullName) := by
  rw [parse, Text.cut_absent ',' _ (trimmed_noComma fullName noComma)]

/-- A full name without a comma is displayed with its own words. -/
theorem wordsOf_parse (fullName : String) (noComma : ',' ∉ fullName.toList) :
    wordsOf (parse fullName).display = wordsOf fullName := by
  have parted := parseForward_parted (trimmed fullName) (trimmed_noComma fullName noComma)
  rw [parse_noComma fullName noComma, wordsOf_display, wordsOf_parted _ _ parted, wordsOf_trimmed]

/-- Only the words of a name without a comma matter to how it is split. -/
theorem parse_congr (a b : String) (noCommaA : ',' ∉ a.toList) (noCommaB : ',' ∉ b.toList)
    (same : wordsOf a = wordsOf b) : parse a = parse b := by
  rw [parse_noComma a noCommaA, parse_noComma b noCommaB, parseForward, parseForward,
    wordsOf_trimmed, wordsOf_trimmed, same]

private theorem spaced_parse (fullName : String) (noComma : ',' ∉ fullName.toList) :
    Spaced (parse fullName).display := by
  obtain ⟨parts, whole, split⟩ :=
    parseForward_parted (trimmed fullName) (trimmed_noComma fullName noComma)
  rw [parse_noComma fullName noComma, display, split]
  apply spaced_joinFilled
  intro component member
  obtain ⟨part, present, rfl⟩ := List.mem_map.mp member
  apply spaced_joinNonEmpty
  intro w inside
  exact spaced_word (trimmed fullName) w (whole ▸ List.mem_flatten_of_mem present inside)

theorem display_parse (fullName : String) (noComma : ',' ∉ fullName.toList) :
    (parse fullName).display = " ".intercalate (wordsOf fullName) := by
  rw [← wordsOf_parse fullName noComma]
  exact (spaced_parse fullName noComma).symm

private theorem display_noComma (fullName : String) (noComma : ',' ∉ fullName.toList) :
    ',' ∉ (parse fullName).display.toList := by
  rw [display_parse fullName noComma]
  intro comma
  rcases mem_intercalate (wordsOf fullName) ',' comma with space | ⟨w, member, inside⟩
  · exact absurd space (by decide)
  · exact noComma ((wordsOf_word fullName w member).2 ',' inside)

theorem given_parse (fullName : String) (noComma : ',' ∉ fullName.toList)
    (some : wordsOf fullName ≠ []) : (parse fullName).given.isSome = true := by
  rw [← wordsOf_trimmed] at some
  obtain ⟨honorifics, given, additional, family, suffixes, whole, filled, split⟩ :=
    parseForward_parts (trimmed fullName)
  have own : ∀ w ∈ given, w ∈ wordsOf (trimmed fullName) := by
    intro w member
    rw [← whole]
    simp [member]
  rw [parse_noComma fullName noComma, split]
  change (joinWords given).isSome = true
  rw [joinWords_plain (trimmed fullName) given own (trimmed_noComma fullName noComma)]
  exact joined_some (trimmed fullName) given own (filled some)

private theorem parts_oneComma (fullName before after : String)
    (one : fullName.toList.count ',' = 1) (cut : trimmed fullName = before ++ "," ++ after) :
    (trimmed fullName).toList = before.toList ++ ',' :: after.toList ∧
      ',' ∉ before.toList ∧ ',' ∉ after.toList := by
  have chars : (trimmed fullName).toList = before.toList ++ ',' :: after.toList := by
    simp [cut]
  have kept : (trimmed fullName).toList.Sublist fullName.toList := by
    rw [trimmed, String.toList_ofList]
    exact (List.rdropWhile_prefix _ _).sublist.trans (List.dropWhile_suffix _).sublist
  have bound := kept.count_le ','
  rw [chars, List.count_append, List.count_cons_self, one] at bound
  refine ⟨chars, ?_, ?_⟩ <;> rw [← List.count_eq_zero] <;> omega

/-- A name with one comma is split there, unless suffixes and nothing else follow it. -/
theorem parse_oneComma (fullName before after : String) (one : fullName.toList.count ',' = 1)
    (cut : trimmed fullName = before ++ "," ++ after)
    (names : wordsOf after = [] ∨ ∃ w ∈ wordsOf after, isSuffix w = false) :
    parse fullName = parseReversed before after := by
  obtain ⟨chars, absent, -⟩ := parts_oneComma fullName before after one cut
  have reversed : onlySuffixes after = false := by
    rw [onlySuffixes]
    rcases names with none | ⟨w, member, other⟩
    · simp [none]
    · rw [Bool.and_eq_false_iff, List.all_eq_false]
      exact Or.inr ⟨w, member, by simp [other]⟩
  rw [parse, chars, Text.cut_separator ',' _ _ absent]
  simp [reversed]

/-- A full name without a comma is displayed as its words, so it is split in the same way once more,
and it has a given name if it has a word at all. In one with a comma, what stands before the comma
is the family name, and the other components are the words after it, in order. -/
theorem parse_parts (fullName : String) :
    (',' ∉ fullName.toList →
      (parse fullName).display = " ".intercalate (wordsOf fullName) ∧
      parse (parse fullName).display = parse fullName ∧
      (wordsOf fullName ≠ [] → (parse fullName).given.isSome = true)) ∧
    (∀ before after : String, fullName.toList.count ',' = 1 →
      trimmed fullName = before ++ "," ++ after →
      (wordsOf after = [] ∨ ∃ w ∈ wordsOf after, isSuffix w = false) →
      (parse fullName).family = (if trimmed before = "" then none else some (trimmed before)) ∧
      ([(parse fullName).honorific, (parse fullName).given, (parse fullName).additional,
        (parse fullName).suffix].flatMap fun component => wordsOf (component.getD "")) =
        wordsOf after) := by
  constructor
  · intro noComma
    have shown := display_noComma fullName noComma
    have again := parse_congr _ fullName shown noComma (wordsOf_parse fullName noComma)
    exact ⟨display_parse fullName noComma, again, given_parse fullName noComma⟩
  · intro before after one cut names
    obtain ⟨-, -, noComma⟩ := parts_oneComma fullName before after one cut
    rw [parse_oneComma fullName before after one cut names]
    exact ⟨family_parseReversed before after,
      wordsOf_parted after _ (parseReversed_parted before after noComma)⟩

def inOrder : String :=
  " Dr. Ludwig  van Beethoven III"

def familyFirst : String :=
  " van  Beethoven , Dr. Ludwig II Jr."

theorem parse_parts_beethoven :
    (',' ∉ inOrder.toList ∧ wordsOf inOrder ≠ [] ∧
      (parse inOrder).display = " ".intercalate (wordsOf inOrder) ∧
      parse (parse inOrder).display = parse inOrder ∧ (parse inOrder).given.isSome = true) ∧
    familyFirst.toList.count ',' = 1 ∧
    trimmed familyFirst = "van  Beethoven " ++ "," ++ " Dr. Ludwig II Jr." ∧
    ("Ludwig" ∈ wordsOf " Dr. Ludwig II Jr." ∧ isSuffix "Ludwig" = false) ∧
    (parse familyFirst).family =
      (if trimmed "van  Beethoven " = "" then none else some (trimmed "van  Beethoven ")) ∧
    ([(parse familyFirst).honorific, (parse familyFirst).given, (parse familyFirst).additional,
      (parse familyFirst).suffix].flatMap fun component => wordsOf (component.getD "")) =
      wordsOf " Dr. Ludwig II Jr." := by
  have noComma : ',' ∉ inOrder.toList := by decide
  have words : wordsOf inOrder ≠ [] := by decide +kernel
  have one : familyFirst.toList.count ',' = 1 := by decide +kernel
  have cut : trimmed familyFirst = "van  Beethoven " ++ "," ++ " Dr. Ludwig II Jr." := by
    decide +kernel
  have name : "Ludwig" ∈ wordsOf " Dr. Ludwig II Jr." ∧ isSuffix "Ludwig" = false := by
    decide +kernel
  obtain ⟨shown, again, given⟩ := (parse_parts inOrder).1 noComma
  obtain ⟨family, others⟩ := (parse_parts familyFirst).2 _ _ one cut (Or.inr ⟨_, name⟩)
  exact ⟨⟨noComma, words, shown, again, given words⟩, one, cut, name, family, others⟩

end CardFile.Name
