import CardFile.Proofs.NameSplitting

/-!
How the words of a name divide. Honorifics and suffixes end at the first word from the front and
from the back that is none, so a division of the words is known by what it is made of. Every name
with a family name has one, and what the name is split into can be read off any of them.
-/
namespace CardFile.Name

section Take

variable (p : String → Bool) (keep : Nat)

theorem takeLeading_eq (taken rest : List String) (all : ∀ w ∈ taken, p w = true)
    (enough : keep ≤ rest.length) (stop : ∀ w ∈ rest.head?, p w = false) :
    takeLeading p keep (taken ++ rest) = (taken, rest) := by
  induction taken with
  | nil =>
    cases rest with
    | nil => rfl
    | cons w rest =>
      have first : p w = false := stop w rfl
      rw [List.nil_append, takeLeading, if_neg (by simp [first])]
  | cons w taken ih =>
    have more : keep ≤ (taken ++ rest).length := by
      rw [List.length_append]
      omega
    have later := ih fun v member => all v (List.mem_cons_of_mem w member)
    rw [List.cons_append, takeLeading, if_pos ⟨more, all w List.mem_cons_self⟩, later]

theorem takeTrailing_eq (rest taken : List String) (all : ∀ w ∈ taken, p w = true)
    (enough : keep ≤ rest.length) (stop : ∀ w ∈ rest.getLast?, p w = false) :
    takeTrailing p keep (rest ++ taken) = (taken, rest) := by
  have reversed := takeLeading_eq p keep taken.reverse rest.reverse
    (fun w member => all w (List.mem_reverse.mp member)) (by rwa [List.length_reverse])
    (by rwa [List.head?_reverse])
  rw [takeTrailing, List.reverse_append, reversed]
  simp

theorem takeLeading_all (words : List String) : ∀ w ∈ (takeLeading p keep words).1, p w = true := by
  induction words with
  | nil => simp [takeLeading]
  | cons w words ih =>
    rw [takeLeading]
    split
    · rename_i more
      intro v member
      rcases List.mem_cons.mp member with rfl | member
      · exact more.2
      · exact ih v member
    · simp

theorem takeTrailing_all (words : List String) :
    ∀ w ∈ (takeTrailing p keep words).1, p w = true := by
  intro w member
  rw [takeTrailing, List.mem_reverse] at member
  exact takeLeading_all p keep words.reverse w member

theorem takeLeading_stop (words : List String)
    (more : keep < (takeLeading p keep words).2.length) :
    ∀ w ∈ (takeLeading p keep words).2.head?, p w = false := by
  induction words with
  | nil => simp [takeLeading]
  | cons w words ih =>
    rw [takeLeading] at more ⊢
    split at more
    · rename_i taken
      rw [if_pos taken]
      exact ih more
    · rename_i kept
      rw [if_neg kept]
      rintro v ⟨⟩
      have left : keep ≤ words.length := by simpa [Nat.lt_succ_iff] using more
      simpa [left] using kept

theorem takeTrailing_stop (words : List String)
    (more : keep < (takeTrailing p keep words).2.length) :
    ∀ w ∈ (takeTrailing p keep words).2.getLast?, p w = false := by
  rw [takeTrailing, List.length_reverse] at more
  rw [takeTrailing, List.getLast?_reverse]
  exact takeLeading_stop p keep words.reverse more

/-- One more word at the end is taken as well, if it may be. -/
theorem takeTrailing_concat (words : List String) (last : String) (taken : p last = true) :
    takeTrailing p 0 (words ++ [last]) =
      ((takeTrailing p 0 words).1 ++ [last], (takeTrailing p 0 words).2) := by
  rw [takeTrailing, List.reverse_append, List.reverse_singleton, List.singleton_append, takeLeading,
    if_pos ⟨Nat.zero_le _, taken⟩, takeTrailing]
  simp

theorem takeTrailing_none (words : List String) (last : String) (kept : p last = false) :
    takeTrailing p 0 (words ++ [last]) = ([], words ++ [last]) := by
  simpa using takeTrailing_eq p 0 (words ++ [last]) [] (by simp) (Nat.zero_le _) (by simp [kept])

end Take

/-- Words that fall into honorifics, a given name with a family name some way behind it, and
suffixes. -/
structure Divided (words honorifics names suffixes : List String) : Prop where
  whole : honorifics ++ (names ++ suffixes) = words
  two : 2 ≤ names.length
  honorific : ∀ w ∈ honorifics, isHonorific w = true
  first : ∀ w ∈ names.head?, isHonorific w = false
  last : ∀ w ∈ names.getLast?, isSuffix w = false
  suffix : ∀ w ∈ suffixes, isSuffix w = true

theorem Divided.some {words honorifics names suffixes : List String}
    (divided : Divided words honorifics names suffixes) : names ≠ [] := by
  have two := divided.two
  rintro rfl
  simp at two

theorem Divided.length {words honorifics names suffixes : List String}
    (divided : Divided words honorifics names suffixes) : 2 ≤ words.length := by
  have two := divided.two
  rw [← divided.whole, List.length_append, List.length_append]
  omega

def assembled (honorifics names suffixes : List String) : Name :=
  { honorific := joinNonEmpty " " honorifics
    given := joinWords (splitMiddle names).1
    additional := joinWords (splitMiddle names).2.1
    family := joinWords (splitMiddle names).2.2
    suffix := joinWords suffixes }

theorem parseForward_divided (fullName : String) {honorifics names suffixes : List String}
    (divided : Divided (wordsOf fullName) honorifics names suffixes) :
    parseForward fullName = assembled honorifics names suffixes := by
  have two := divided.two
  have front : takeLeading isHonorific 1 (wordsOf fullName) = (honorifics, names ++ suffixes) := by
    rw [← divided.whole]
    apply takeLeading_eq isHonorific 1 _ _ divided.honorific
    · rw [List.length_append]
      omega
    · rw [List.head?_append_of_ne_nil _ divided.some]
      exact divided.first
  have back : takeTrailing isSuffix 1 (names ++ suffixes) = (suffixes, names) :=
    takeTrailing_eq isSuffix 1 names suffixes divided.suffix (by omega) divided.last
  rw [parseForward, front]
  dsimp only
  rw [back]
  rfl

theorem exists_divided (fullName : String)
    (family : (parseForward fullName).family.isSome = true) :
    ∃ honorifics names suffixes, Divided (wordsOf fullName) honorifics names suffixes := by
  have front := takeLeading_append isHonorific 1 (wordsOf fullName)
  have frontAll := takeLeading_all isHonorific 1 (wordsOf fullName)
  have frontStop := takeLeading_stop isHonorific 1 (wordsOf fullName)
  rw [parseForward] at family
  generalize takeLeading isHonorific 1 (wordsOf fullName) = taken at front frontAll frontStop family
  obtain ⟨honorifics, rest⟩ := taken
  have back := takeTrailing_append isSuffix 1 rest
  have backAll := takeTrailing_all isSuffix 1 rest
  have backStop := takeTrailing_stop isSuffix 1 rest
  dsimp only at front frontAll frontStop family
  generalize takeTrailing isSuffix 1 rest = taken at back backAll backStop family
  obtain ⟨suffixes, names⟩ := taken
  dsimp only at back backAll backStop family
  have two : 2 ≤ names.length := by
    cases names with
    | nil => cases family
    | cons first others =>
      cases others with
      | nil => cases family
      | cons second more => simp
  have some : names ≠ [] := by
    rintro rfl
    simp at two
  have longer : 1 < rest.length := by
    rw [← back, List.length_append]
    omega
  refine ⟨honorifics, names, suffixes, ?_, two, frontAll, ?_, backStop two, backAll⟩
  · rw [back, front]
  · have first := frontStop longer
    rwa [← back, List.head?_append_of_ne_nil _ some] at first

theorem splitMiddle_concat (first last : String) (between : List String) :
    splitMiddle (first :: (between ++ [last])) = ([first], (takeTrailing isParticle 0 between).2,
      (takeTrailing isParticle 0 between).1 ++ [last]) := by
  cases between with
  | nil => rfl
  | cons second more =>
    rw [List.cons_append, splitMiddle, ← List.cons_append, List.dropLast_concat,
      List.getLast?_concat]
    rfl

def withSuffixes (n : Name) (words : List String) : Name :=
  { n with suffix := joinNonEmpty " " (n.suffix.toList ++ words.map stripCommas) }

@[simp] theorem family_withSuffixes (n : Name) (words : List String) :
    (n.withSuffixes words).family = n.family :=
  rfl

theorem assembled_append (honorifics names suffixes others : List String) :
    assembled honorifics names (suffixes ++ others) =
      (assembled honorifics names suffixes).withSuffixes others := by
  have joined : joinWords (suffixes ++ others) =
      joinNonEmpty " " ((joinWords suffixes).toList ++ others.map stripCommas) := by
    rw [joinWords, joinWords, List.map_append, joinNonEmpty_append]
  rw [assembled, assembled, withSuffixes, joined]

theorem divided_of {honorifics suffixes : List String} {first last : String}
    (between : List String) (honorific : ∀ w ∈ honorifics, isHonorific w = true)
    (plain : isHonorific first = false) (other : isSuffix last = false)
    (suffix : ∀ w ∈ suffixes, isSuffix w = true) :
    Divided (honorifics ++ (first :: (between ++ [last]) ++ suffixes)) honorifics
      (first :: (between ++ [last])) suffixes := by
  constructor
  · rfl
  · simp
  · exact honorific
  · simpa using plain
  · intro w member
    rw [← List.cons_append, List.getLast?_concat] at member
    obtain rfl := Option.some.inj member
    exact other
  · exact suffix

theorem parse_divided (fullName : String) (noComma : ',' ∉ fullName.toList)
    {honorifics names suffixes : List String}
    (divided : Divided (wordsOf fullName) honorifics names suffixes) :
    parse fullName = assembled honorifics names suffixes := by
  rw [← wordsOf_trimmed] at divided
  rw [parse_noComma fullName noComma, parseForward_divided _ divided]

theorem front_divided {front last honorifics names suffixes : List String}
    (divided : Divided (front ++ last) honorifics names suffixes) (short : last.length ≤ 1) :
    ∃ others, others ≠ [] ∧ front = honorifics ++ others ∧
      names ++ suffixes = others ++ last ∧ others.head? = names.head? := by
  have two := divided.two
  have whole := divided.whole
  have length := congrArg List.length whole
  simp only [List.length_append] at length
  have early : honorifics <+: front := by
    apply List.prefix_of_prefix_length_le (List.prefix_append honorifics (names ++ suffixes))
    · rw [whole]
      exact List.prefix_append front last
    · omega
  obtain ⟨others, rfl⟩ := early
  rw [List.append_assoc] at whole
  have rest := List.append_cancel_left whole
  have some : others ≠ [] := by
    rintro rfl
    simp only [List.append_nil] at length
    omega
  refine ⟨others, some, rfl, rest, ?_⟩
  rw [← List.head?_append_of_ne_nil others some, ← rest, List.head?_append_of_ne_nil _ divided.some]

/-- The last word is among the suffixes, if it is one. -/
theorem suffixes_ended {front honorifics names suffixes : List String} {last : String}
    (divided : Divided (front ++ [last]) honorifics names suffixes)
    (suffix : isSuffix last = true) :
    ∃ others, suffixes = others ++ [last] ∧ front = honorifics ++ (names ++ others) := by
  have whole := divided.whole
  rcases List.eq_nil_or_concat suffixes with rfl | ⟨others, final, rfl⟩
  · have ending := congrArg List.getLast? whole
    rw [List.append_nil, List.getLast?_append_of_ne_nil _ divided.some,
      List.getLast?_concat] at ending
    rw [divided.last last ending] at suffix
    cases suffix
  · rw [List.concat_eq_append] at whole ⊢
    rw [← List.append_assoc, ← List.append_assoc] at whole
    obtain ⟨early, final⟩ := List.append_inj' whole rfl
    cases final
    exact ⟨others, rfl, by rw [← early, List.append_assoc]⟩

end CardFile.Name
