import CardFile.Proofs.NameDivision

/-!
Suffixes after a comma. A name is split at its blanks even where a comma has shown that only
suffixes follow, so they are told apart from the name before them if the comma ends the last word of
that name and a blank follows. Elsewhere the comma is in a word that is no suffix, and this word
becomes the last of the family name.
-/
namespace CardFile.Name

section Comma

theorem stripCommas_comma (x : List Char) :
    stripCommas (String.ofList (x ++ [','])) = stripCommas (String.ofList x) := by
  have dropped : Text.dropWhileEnd (· == ',') (x ++ [',']) = Text.dropWhileEnd (· == ',') x :=
    List.rdropWhile_concat_pos _ x ',' rfl
  rw [stripCommas, stripCommas, String.toList_ofList, String.toList_ofList, dropped]

theorem isSuffix_comma (x : List Char) :
    isSuffix (String.ofList (x ++ [','])) = isSuffix (String.ofList x) := by
  have dropped : Text.dropWhileEnd (fun c => c == ',' || c == '.') (x ++ [',']) =
      Text.dropWhileEnd (fun c => c == ',' || c == '.') x :=
    List.rdropWhile_concat_pos _ x ',' rfl
  rw [isSuffix, isSuffix, bare, bare, String.toList_ofList, String.toList_ofList, dropped]

/-- A suffix is more than commas and full stops. -/
theorem isSuffix_filled (word : String) (suffix : isSuffix word = true) :
    ∃ c ∈ word.toList, c ≠ ',' ∧ c ≠ '.' := by
  by_contra none
  have marks : Text.dropWhileEnd (fun c => c == ',' || c == '.') word.toList = [] := by
    change word.toList.rdropWhile _ = []
    rw [List.rdropWhile_eq_nil_iff]
    intro c member
    by_contra other
    simp only [Bool.or_eq_true, beq_iff_eq, not_or] at other
    exact none ⟨c, member, other⟩
  rw [isSuffix, bare, marks] at suffix
  exact absurd suffix (by decide)

private theorem mem_lower (s before : List Char) (comma : ',' ∈ s) :
    ',' ∈ Text.lowerAfter before s := by
  induction s generalizing before with
  | nil => simp at comma
  | cons c s ih =>
    rw [Text.lowerAfter, List.mem_append]
    rcases List.mem_cons.mp comma with rfl | later
    · have own : ',' ∈ Text.lowerChar ',' := by decide
      exact Or.inl (by rwa [if_neg (by decide)])
    · exact Or.inr (ih _ later)

private theorem mem_dropWhileEnd (p : Char → Bool) (x y : List Char)
    (stop : ∃ c ∈ y, p c = false) : ',' ∈ Text.dropWhileEnd p (x ++ ',' :: y) := by
  obtain ⟨c, member, kept⟩ := stop
  obtain ⟨y, rest, rfl⟩ := List.append_of_mem member
  rw [← List.cons_append, ← List.append_assoc, Text.dropWhileEnd_stop p _ rest c kept]
  simp

/-- A word with a comma before a suffix is no suffix. -/
theorem isSuffix_inner (x y : List Char) (suffix : isSuffix (String.ofList y) = true) :
    isSuffix (String.ofList (x ++ ',' :: y)) = false := by
  obtain ⟨c, member, other⟩ := isSuffix_filled _ suffix
  rw [String.toList_ofList] at member
  have comma := mem_dropWhileEnd (fun c => c == ',' || c == '.') x y ⟨c, member, by simp [other]⟩
  have inBare : ',' ∈ (bare (String.ofList (x ++ ',' :: y))).toList := by
    rw [bare, String.toList_ofList, String.toList_ofList]
    exact mem_lower _ [] comma
  have plain : ∀ s ∈ suffixes, ',' ∉ s.toList := by decide
  rw [isSuffix, ← Bool.not_eq_true, List.contains_iff_mem]
  intro known
  exact plain _ known inBare

/-- The comma stays where it is when commas at the end are dropped. -/
theorem comma_inner (x y : List Char) (suffix : isSuffix (String.ofList y) = true) :
    ',' ∈ (stripCommas (String.ofList (x ++ ',' :: y))).toList := by
  obtain ⟨c, member, other, -⟩ := isSuffix_filled _ suffix
  rw [String.toList_ofList] at member
  rw [stripCommas, String.toList_ofList, String.toList_ofList]
  exact mem_dropWhileEnd (· == ',') x y ⟨c, member, by simp [other]⟩

theorem isSuffix_particle (word : String) (particle : isParticle word = true) :
    isSuffix word = false := by
  have other : ∀ s ∈ particles, isSuffix s = false := by decide +kernel
  exact other word (List.contains_iff_mem.mp particle)

/-- A comma at the end of the last name does not show. -/
theorem assembled_comma (honorifics suffixes : List String) (first : String)
    (between : List String) (x : List Char) :
    assembled honorifics (first :: (between ++ [String.ofList (x ++ [','])])) suffixes =
      assembled honorifics (first :: (between ++ [String.ofList x])) suffixes := by
  rw [assembled, assembled, splitMiddle_concat, splitMiddle_concat]
  simp only [joinWords, List.map_append, List.map_cons, List.map_nil, stripCommas_comma]

/-- A comma that stands alone behind a particle does not show. -/
theorem assembled_alone (honorifics suffixes : List String) (first last : String)
    (between : List String) (particle : isParticle last = true) :
    assembled honorifics (first :: ((between ++ [last]) ++ [","])) suffixes =
      assembled honorifics (first :: (between ++ [last])) suffixes := by
  have stripped : stripCommas "," = "" := by decide
  rw [assembled, assembled, splitMiddle_concat, splitMiddle_concat,
    takeTrailing_concat isParticle between last particle]
  simp only [joinWords, List.map_append, List.map_cons, List.map_nil, stripped,
    joinNonEmpty_concat_empty]

end Comma

section Seam

private theorem exists_firstRun (s : List Char) : ∃ run back, s = run ++ back ∧
    (∀ c ∈ run, Text.isBlank c = false) ∧ ∀ c ∈ back.head?, Text.isBlank c = true := by
  induction s with
  | nil => exact ⟨[], [], rfl, by simp, by simp⟩
  | cons c s ih =>
    cases blank : Text.isBlank c with
    | true => exact ⟨[], c :: s, rfl, by simp, by simp [blank]⟩
    | false =>
      obtain ⟨run, back, rfl, solid, starts⟩ := ih
      exact ⟨c :: run, back, rfl, by simpa [blank] using solid, starts⟩

private theorem exists_lastRun (s : List Char) : ∃ front run, s = front ++ run ∧
    (∀ c ∈ run, Text.isBlank c = false) ∧ ∀ c ∈ front.getLast?, Text.isBlank c = true := by
  obtain ⟨run, back, reversed, solid, starts⟩ := exists_firstRun s.reverse
  refine ⟨back.reverse, run.reverse, ?_, by simpa using solid, by simpa using starts⟩
  rw [← List.reverse_append, ← reversed, List.reverse_reverse]

def startsBlank (text : String) : Bool :=
  text.toList.head?.any Text.isBlank

def endsBlank (text : String) : Bool :=
  text.toList.getLast?.any Text.isBlank

/-- Two texts with a comma between them. The comma stands in a word with `x`, which is the end of
the last word of the first text, and `y`, the start of the first word of the second. -/
structure Seam (before after : String) (front : List String) (x y : List Char)
    (back : List String) : Prop where
  words : wordsOf (before ++ "," ++ after) = front ++ String.ofList (x ++ ',' :: y) :: back
  wordsBefore : wordsOf before = front ++ wordsOf (String.ofList x)
  wordsAfter : wordsOf after = wordsOf (String.ofList y) ++ back
  solid : ∀ c ∈ x ++ y, Text.isBlank c = false
  ends : before ≠ "" → (x = [] ↔ endsBlank before = true)
  starts : after ≠ "" → (y = [] ↔ startsBlank after = true)

private theorem noRun_iff_endsBlank (text : String) (front run : List Char) (filled : text ≠ "")
    (parts : text.toList = front ++ run) (solid : ∀ c ∈ run, Text.isBlank c = false)
    (ends : ∀ c ∈ front.getLast?, Text.isBlank c = true) : run = [] ↔ endsBlank text = true := by
  rw [endsBlank, parts]
  rcases List.eq_nil_or_concat run with rfl | ⟨run, last, rfl⟩
  · rcases List.eq_nil_or_concat front with rfl | ⟨front, last, rfl⟩
    · exact absurd (by simpa using parts) filled
    · simp [ends last (by simp)]
  · simp [solid last (by simp)]

private theorem noRun_iff_startsBlank (text : String) (run back : List Char) (filled : text ≠ "")
    (parts : text.toList = run ++ back) (solid : ∀ c ∈ run, Text.isBlank c = false)
    (starts : ∀ c ∈ back.head?, Text.isBlank c = true) : run = [] ↔ startsBlank text = true := by
  rw [startsBlank, parts]
  cases run with
  | nil =>
    cases back with
    | nil => exact absurd (by simpa using parts) filled
    | cons first back => simp [starts first rfl]
  | cons first run => simp [solid first (by simp)]

theorem exists_seam (before after : String) :
    ∃ front x y back, Seam before after front x y back := by
  obtain ⟨front, x, early, solidX, blankFront⟩ := exists_lastRun before.toList
  obtain ⟨y, back, late, solidY, blankBack⟩ := exists_firstRun after.toList
  have solid : ∀ c ∈ x ++ y, Text.isBlank c = false :=
    List.forall_mem_append.mpr ⟨solidX, solidY⟩
  refine ⟨(Text.words front).map String.ofList, x, y, (Text.words back).map String.ofList,
    ?_, ?_, ?_, solid, fun filled => noRun_iff_endsBlank _ _ _ filled early solidX blankFront,
    fun filled => noRun_iff_startsBlank _ _ _ filled late solidY blankBack⟩
  · have chars : (before ++ "," ++ after).toList = front ++ (x ++ ',' :: y ++ back) := by
      simp [early, late]
    rw [wordsOf, chars,
      Text.words_around front x y back ',' (by decide) solid blankFront blankBack]
    simp
  · rw [wordsOf, early, Text.words_afterBlank front x blankFront, List.map_append, wordsOf,
      String.toList_ofList]
  · rw [wordsOf, late, Text.words_beforeBlank y back blankBack, List.map_append, wordsOf,
      String.toList_ofList]

end Seam

/-- After a comma, suffixes alone leave a name in its usual order. -/
theorem parse_suffixesAfter (before after : String) (noComma : ',' ∉ before.toList)
    (suffixes : wordsOf after ≠ [] ∧ ∀ w ∈ wordsOf after, isSuffix w = true) :
    parse (before ++ "," ++ after) = parseForward (before ++ "," ++ after) := by
  have chars : (trimmed (before ++ "," ++ after)).toList = before.toList.dropWhile Text.isBlank ++
      ',' :: Text.dropWhileEnd Text.isBlank after.toList := by
    rw [trimmed, String.toList_ofList, String.toList_append, String.toList_append,
      List.append_assoc]
    exact Text.trim_around _ _ ',' (by decide)
  have absent : ',' ∉ before.toList.dropWhile Text.isBlank :=
    fun comma => noComma ((List.dropWhile_suffix _).subset comma)
  have words : wordsOf (String.ofList (Text.dropWhileEnd Text.isBlank after.toList)) =
      wordsOf after := by
    rw [wordsOf, String.toList_ofList, Text.words_dropWhileEnd, wordsOf]
  have only : onlySuffixes (String.ofList (Text.dropWhileEnd Text.isBlank after.toList)) =
      true := by
    rw [onlySuffixes, words]
    simpa using suffixes
  rw [parse, chars, Text.cut_separator ',' _ _ absent]
  dsimp only
  rw [if_pos only, parseForward, parseForward, wordsOf_trimmed]

private theorem wordsOf_run (run : List Char) (solid : ∀ c ∈ run, Text.isBlank c = false)
    (some : run ≠ []) : wordsOf (String.ofList run) = [String.ofList run] := by
  apply wordsOf_solid
  · simpa using some
  · simpa using solid

private theorem wordsOf_noRun : wordsOf (String.ofList []) = [] :=
  wordsOf_empty

private theorem wordsOf_stripCommas (word : String)
    (solid : ∀ c ∈ word.toList, Text.isBlank c = false) (filled : stripCommas word ≠ "") :
    wordsOf (stripCommas word) = [stripCommas word] := by
  apply wordsOf_solid _ filled
  intro c kept
  rw [stripCommas, String.toList_ofList] at kept
  exact solid c ((List.rdropWhile_prefix _ word.toList).subset kept)

/-- The words of the family name are words of the name. -/
private theorem family_words (fullName : String) (noComma : ',' ∉ fullName.toList) :
    ∀ w ∈ wordsOf ((parse fullName).family.getD ""), w ∈ wordsOf fullName := by
  intro w member
  rw [← wordsOf_parse fullName noComma, wordsOf_display, List.mem_flatMap]
  exact ⟨_, by simp [components], member⟩

section Split

variable {before after : String} {front : List String} {x y : List Char} {back : List String}
  (seam : Seam before after front x y back) (noComma : ',' ∉ before.toList)
  (suffixes_after : wordsOf after ≠ [] ∧ ∀ w ∈ wordsOf after, isSuffix w = true)
  {honorifics names suffixes : List String}

include seam suffixes_after

private theorem back_suffix : ∀ w ∈ back, isSuffix w = true := by
  intro w member
  apply suffixes_after.2 w
  rw [seam.wordsAfter]
  exact List.mem_append_right _ member

variable (divided : Divided (wordsOf before) honorifics names suffixes)

include divided

/-- The word with the comma is the last of the names, if it is no suffix. -/
private theorem divided_comma (other : isSuffix (String.ofList (x ++ ',' :: y)) = false) :
    ∃ first between, front = honorifics ++ first :: between ∧ isHonorific first = false ∧
      Divided (wordsOf (before ++ "," ++ after)) honorifics
        (first :: (between ++ [String.ofList (x ++ ',' :: y)])) back := by
  have short : (wordsOf (String.ofList x)).length ≤ 1 := by
    by_cases none : x = []
    · rw [none, wordsOf_noRun]
      exact Nat.zero_le 1
    · rw [wordsOf_run x (fun c member => seam.solid c (List.mem_append_left y member)) none]
      exact Nat.le_refl 1
  have parted := seam.wordsBefore ▸ divided
  obtain ⟨others, some, early, -, head⟩ := front_divided parted short
  obtain ⟨first, between, rfl⟩ := List.exists_cons_of_ne_nil some
  have honorific : isHonorific first = false := divided.first first (by rw [← head]; rfl)
  refine ⟨first, between, early, honorific, ?_⟩
  rw [seam.words, early, List.append_assoc]
  simpa using divided_of between divided.honorific honorific other (back_suffix seam suffixes_after)

include noComma

/-- A comma inside a word shows in the family name. -/
private theorem family_inside (inside : y ≠ []) :
    (parse (before ++ "," ++ after)).family ≠ (parse before).family := by
  have solidY : ∀ c ∈ y, Text.isBlank c = false :=
    fun c member => seam.solid c (List.mem_append_right x member)
  have suffix : isSuffix (String.ofList y) = true := by
    apply suffixes_after.2
    rw [seam.wordsAfter, wordsOf_run y solidY inside]
    exact List.mem_cons_self
  obtain ⟨first, between, -, -, whole⟩ :=
    divided_comma seam suffixes_after divided (isSuffix_inner x y suffix)
  rw [parse_suffixesAfter before after noComma suffixes_after, parseForward_divided _ whole]
  intro same
  have solid : ∀ c ∈ (String.ofList (x ++ ',' :: y)).toList, Text.isBlank c = false := by
    have comma : Text.isBlank ',' = false := by decide
    intro c member
    rw [String.toList_ofList, List.mem_append, List.mem_cons] at member
    rcases member with early | rfl | late
    · exact seam.solid c (List.mem_append_left y early)
    · exact comma
    · exact solidY c late
  have comma := comma_inner x y suffix
  have own : wordsOf (stripCommas (String.ofList (x ++ ',' :: y))) =
      [stripCommas (String.ofList (x ++ ',' :: y))] := by
    apply wordsOf_stripCommas _ solid
    intro empty
    rw [empty] at comma
    simp at comma
  have shown : stripCommas (String.ofList (x ++ ',' :: y)) ∈
      wordsOf ((parse before).family.getD "") := by
    rw [← same, assembled]
    change _ ∈ wordsOf ((joinWords (splitMiddle _).2.2).getD "")
    rw [splitMiddle_concat, joinWords, wordsOf_joinNonEmpty, List.mem_flatMap]
    exact ⟨_, by simp, own ▸ List.mem_cons_self⟩
  -- All words of that family name are words of a name without a comma.
  have plain := wordsOf_word before _ (family_words before noComma _ shown)
  exact noComma (plain.2 ',' comma)

/-- A comma at the end of a word does not change how the words before it are split. -/
private theorem parse_ended (ending : x ≠ []) (last : y = []) :
    parse (before ++ "," ++ after) = (parse before).withSuffixes (wordsOf after) := by
  subst last
  have solid : ∀ c ∈ x, Text.isBlank c = false :=
    fun c member => seam.solid c (List.mem_append_left [] member)
  have words := seam.wordsBefore
  have wordsAfter := seam.wordsAfter
  rw [wordsOf_run x solid ending] at words
  rw [wordsOf_noRun, List.nil_append] at wordsAfter
  rw [parse_suffixesAfter before after noComma suffixes_after, wordsAfter]
  cases suffix : isSuffix (String.ofList (x ++ [','])) with
  | true =>
    obtain ⟨others, rfl, early⟩ :=
      suffixes_ended (words ▸ divided) ((isSuffix_comma x).symm.trans suffix)
    have whole : Divided (wordsOf (before ++ "," ++ after)) honorifics names
        (others ++ [String.ofList (x ++ [','])] ++ back) := by
      refine { divided with whole := ?_, suffix := ?_ }
      · rw [seam.words, early]
        simp
      · simp only [List.forall_mem_append, List.forall_mem_singleton]
        have own := divided.suffix
        exact ⟨⟨fun w member => own w (List.mem_append_left _ member), suffix⟩,
          back_suffix seam suffixes_after⟩
    have same : joinWords (others ++ [String.ofList (x ++ [','])]) =
        joinWords (others ++ [String.ofList x]) := by
      simp only [joinWords, List.map_append, List.map_cons, List.map_nil, stripCommas_comma]
    rw [parseForward_divided _ whole, assembled_append, parse_divided before noComma divided,
      assembled, assembled, same]
  | false =>
    obtain ⟨first, between, early, honorific, whole⟩ :=
      divided_comma seam suffixes_after divided suffix
    have other : isSuffix (String.ofList x) = false := (isSuffix_comma x).symm.trans suffix
    have own := divided_of between divided.honorific honorific other
      (List.forall_mem_nil fun w => isSuffix w = true)
    have split : Divided (wordsOf before) honorifics
        (first :: (between ++ [String.ofList x])) [] := by
      rw [words, early, List.append_assoc]
      simpa using own
    rw [parseForward_divided _ whole, parse_divided before noComma split, assembled_comma,
      ← assembled_append, List.nil_append]

/-- A comma that stands alone is the family name, or the end of one that has particles only. -/
private theorem parse_alone (none : x = []) (last : y = [])
    (family : (parse before).family.isSome = true) :
    parse (before ++ "," ++ after) = (parse before).withSuffixes (wordsOf after) ↔
      (wordsOf before).getLast?.any isParticle = true := by
  subst none last
  have wordsBefore := seam.wordsBefore
  have wordsAfter := seam.wordsAfter
  rw [wordsOf_noRun, List.append_nil] at wordsBefore
  rw [wordsOf_noRun, List.nil_append] at wordsAfter
  have alone : String.ofList ([] ++ [',']) = "," := rfl
  have other : isSuffix (String.ofList ([] ++ [','])) = false := by decide +kernel
  obtain ⟨first, rest, early, honorific, whole⟩ :=
    divided_comma seam suffixes_after divided other
  rw [alone] at whole
  rw [parse_suffixesAfter before after noComma suffixes_after, wordsAfter]
  rcases List.eq_nil_or_concat rest with rfl | ⟨between, last, rfl⟩
  · -- One word is no given name and family name.
    have two := divided.two
    have length := congrArg List.length divided.whole
    rw [wordsBefore, early] at length
    simp only [List.length_append, List.length_cons, List.length_nil] at length
    omega
  · rw [List.concat_eq_append] at early whole
    have lastWord : (wordsOf before).getLast? = some last := by
      rw [wordsBefore, early, ← List.cons_append, ← List.append_assoc, List.getLast?_concat]
    rw [lastWord, Option.any_some, parseForward_divided _ whole]
    cases particle : isParticle last with
    | true =>
      have split : Divided (wordsOf before) honorifics (first :: (between ++ [last])) [] := by
        rw [wordsBefore, early]
        simpa using divided_of between divided.honorific honorific (isSuffix_particle last particle)
          (List.forall_mem_nil fun w => isSuffix w = true)
      rw [parse_divided before noComma split, ← assembled_append, List.nil_append,
        assembled_alone honorifics back first last between particle]
      simp
    | false =>
      have none : (assembled honorifics (first :: ((between ++ [last]) ++ [","])) back).family =
          none := by
        have comma : joinWords ([] ++ [","]) = Option.none := by decide
        rw [assembled, splitMiddle_concat, takeTrailing_none isParticle between last particle]
        exact comma
      constructor
      · intro same
        rw [← family_withSuffixes _ back, ← same, none] at family
        cases family
      · intro taken
        cases taken

end Split

/-- Where a comma and then nothing but suffixes follow a name that has a given name and a family
name, the name is split as before, and the suffixes are put behind its own, if a blank follows the
comma and none is before it. A blank before it does no harm if the last word of the name is a
particle. In all other places of the comma the name is split in another way. -/
theorem parse_suffixComma (before after : String) (noComma : ',' ∉ before.toList)
    (named : (parse before).given.isSome = true ∧ (parse before).family.isSome = true)
    (suffixes : wordsOf after ≠ [] ∧ ∀ w ∈ wordsOf after, isSuffix w = true) :
    parse (before ++ "," ++ after) = (parse before).withSuffixes (wordsOf after) ↔
      startsBlank after = true ∧
        (endsBlank before = false ∨ (wordsOf before).getLast?.any isParticle = true) := by
  obtain ⟨front, x, y, back, seam⟩ := exists_seam before after
  have family := named.2
  rw [parse_noComma before noComma] at family
  obtain ⟨honorifics, names, others, divided⟩ := exists_divided (trimmed before) family
  rw [wordsOf_trimmed] at divided
  have someAfter : after ≠ "" := by
    rintro rfl
    exact suffixes.1 wordsOf_empty
  have someBefore : before ≠ "" := by
    rintro rfl
    have two := divided.length
    simp at two
  rw [← seam.starts someAfter]
  by_cases last : y = []
  · cases ends : endsBlank before with
    | true =>
      have none := (seam.ends someBefore).mpr ends
      rw [parse_alone seam noComma suffixes divided none last named.2]
      simp [last]
    | false =>
      have some : x ≠ [] := fun none => by simp [(seam.ends someBefore).mp none] at ends
      simp [parse_ended seam noComma suffixes divided some last, last]
  · have different := family_inside seam noComma suffixes divided last
    constructor
    · intro same
      exact absurd (by rw [same, family_withSuffixes]) different
    · intro ended
      exact absurd ended.1 last

theorem parse_suffixComma_smith :
    ',' ∉ "Dr. Jon de  Smith II".toList ∧
    ((parse "Dr. Jon de  Smith II").given.isSome = true ∧
      (parse "Dr. Jon de  Smith II").family.isSome = true) ∧
    (wordsOf " Jr.,, PhD," ≠ [] ∧ ∀ w ∈ wordsOf " Jr.,, PhD,", isSuffix w = true) ∧
    (startsBlank " Jr.,, PhD," = true ∧ (endsBlank "Dr. Jon de  Smith II" = false ∨
      (wordsOf "Dr. Jon de  Smith II").getLast?.any isParticle = true)) ∧
    parse ("Dr. Jon de  Smith II" ++ "," ++ " Jr.,, PhD,") =
      (parse "Dr. Jon de  Smith II").withSuffixes (wordsOf " Jr.,, PhD,") := by
  have noComma : ',' ∉ "Dr. Jon de  Smith II".toList := by decide
  have named : (parse "Dr. Jon de  Smith II").given.isSome = true ∧
      (parse "Dr. Jon de  Smith II").family.isSome = true := by decide +kernel
  have suffixes : wordsOf " Jr.,, PhD," ≠ [] ∧ ∀ w ∈ wordsOf " Jr.,, PhD,", isSuffix w = true := by
    decide +kernel
  have place : startsBlank " Jr.,, PhD," = true ∧ (endsBlank "Dr. Jon de  Smith II" = false ∨
      (wordsOf "Dr. Jon de  Smith II").getLast?.any isParticle = true) := by decide +kernel
  exact ⟨noComma, named, suffixes, place, (parse_suffixComma _ _ noComma named suffixes).mpr place⟩

/-- Without a blank behind the comma, the suffix stays in the family name. -/
theorem parse_comma_unspaced :
    ',' ∉ "Jon Smith".toList ∧
    ((parse "Jon Smith").given.isSome = true ∧ (parse "Jon Smith").family.isSome = true) ∧
    (wordsOf "Jr." ≠ [] ∧ ∀ w ∈ wordsOf "Jr.", isSuffix w = true) ∧
    (parse "Jon Smith").withSuffixes (wordsOf "Jr.") =
      { given := some "Jon", family := some "Smith", suffix := some "Jr." } ∧
    parse ("Jon Smith" ++ "," ++ "Jr.") = { given := some "Jon", family := some "Smith,Jr." } ∧
    parse ("Jon Smith" ++ "," ++ "Jr.") ≠ (parse "Jon Smith").withSuffixes (wordsOf "Jr.") := by
  decide +kernel

end CardFile.Name
