import CardFile.Proofs.LineHead
import CardFile.Wire.Structured
import Mathlib.Algebra.Group.Nat.Even

/-!
The segments of the head of a content line. The separator of the value is found by counting the
double quotes of the whole head; parameters are read with a count of their own, which starts at each
value. The two agree on where the parameters end exactly if quotes in the names of parameters come
in pairs, except that the last name may have one over if no semicolon comes after it.
-/
namespace CardFile.Wire

/-- A text cut in two at a semicolon; there is no second part if it was not cut. -/
structure Cut where
  front : List Char
  rest : Option (List Char)
  deriving DecidableEq

namespace Cut

def whole : Cut → List Char
  | ⟨front, none⟩ => front
  | ⟨front, some rest⟩ => front ++ ';' :: rest

def after (before : List Char) (cut : Cut) : Cut :=
  ⟨before ++ cut.front, cut.rest⟩

@[simp] theorem whole_after (before : List Char) (cut : Cut) :
    (cut.after before).whole = before ++ cut.whole := by
  obtain ⟨front, rest⟩ := cut
  cases rest <;> simp [after, whole]

theorem after_inj (before : List Char) (a b : Cut) : a.after before = b.after before ↔ a = b := by
  cases a
  cases b
  simp [after]

theorem rest_length (cut : Cut) : ∀ rest ∈ cut.rest, rest.length < cut.whole.length := by
  obtain ⟨front, rest⟩ := cut
  rintro rest ⟨⟩
  simp only [whole, List.length_append, List.length_cons]
  omega

theorem front_whole (cut : Cut) : cut.front <+: cut.whole := by
  obtain ⟨front, _ | rest⟩ := cut
  · exact List.prefix_rfl
  · exact List.prefix_append front _

theorem plain_whole (cut : Cut) : ';' ∉ cut.whole ↔ cut.rest = none ∧ ';' ∉ cut.front := by
  obtain ⟨front, rest⟩ := cut
  cases rest <;> simp [whole]

/-- Two cuts of one text are the same if their first parts are. -/
theorem eq_of_front (a b : Cut) (whole : a.whole = b.whole) (front : a.front = b.front) :
    a = b := by
  obtain ⟨front, restA⟩ := a
  obtain ⟨_, restB⟩ := b
  obtain rfl := front
  cases restA <;> cases restB <;> simp_all [Cut.whole]

def parts (split : List Char → List (List Char)) : Cut → List (List Char)
  | ⟨front, none⟩ => [front]
  | ⟨front, some rest⟩ => front :: split rest

theorem head_parts (cut : Cut) (split : List Char → List (List Char)) :
    (cut.parts split).head? = some cut.front := by
  obtain ⟨front, _ | rest⟩ := cut <;> rfl

/-- Two cuts of one text that agree in all of their parts. -/
theorem parts_inj (a b : Cut) (whole : a.whole = b.whole) (f g : List Char → List (List Char)) :
    a.parts f = b.parts g ↔ a = b ∧ ∀ rest ∈ b.rest, f rest = g rest := by
  constructor
  · intro same
    have front : a.front = b.front := by
      simpa [head_parts] using congrArg List.head? same
    obtain rfl := eq_of_front a b whole front
    refine ⟨rfl, fun rest member => ?_⟩
    obtain ⟨front, _ | rest'⟩ := a
    · cases member
    · cases member
      exact (List.cons.inj same).2
  · rintro ⟨rfl, same⟩
    obtain ⟨front, _ | rest⟩ := a
    · rfl
    · rw [parts, parts, same rest rfl]

end Cut

/-- Cuts at the first semicolon outside quotes, given whether the text starts inside of them. -/
def cutUnquoted (quoted : Bool) : List Char → Cut
  | [] => ⟨[], none⟩
  | c :: r =>
    if c = ';' ∧ quoted = false then ⟨[], some r⟩
    else (cutUnquoted (if c = '"' then !quoted else quoted) r).after [c]

def splitUnquoted (quoted : Bool) : List Char → List (List Char)
  | [] => [[]]
  | c :: r =>
    if c = ';' ∧ quoted = false then [] :: splitUnquoted false r
    else consFirst c (splitUnquoted (if c = '"' then !quoted else quoted) r)

/-- What stands before the equals sign of a parameter, or before the semicolon that ends it. -/
def writtenName (s : List Char) : List Char :=
  s.takeWhile fun c => c != '=' && c != ';'

/-- Cuts off the first parameter as it is read: a name is taken as it is, and quotes count from the
start of the value. -/
def cutParameter (s : List Char) : Cut :=
  match s.dropWhile fun c => c != '=' && c != ';' with
  | [] => ⟨s, none⟩
  | stop :: r =>
    if stop = '=' then (cutUnquoted false r).after (writtenName s ++ ['='])
    else ⟨writtenName s, some r⟩

theorem whole_cutUnquoted (quoted : Bool) (s : List Char) : (cutUnquoted quoted s).whole = s := by
  induction s generalizing quoted with
  | nil => rfl
  | cons c s ih =>
    rw [cutUnquoted]
    split
    · rename_i semicolon
      simp [Cut.whole, semicolon.1]
    · simp [ih]

private theorem name_or_stop (s : List Char) :
    s = writtenName s ∧ s.dropWhile (fun c => c != '=' && c != ';') = [] ∨
    ∃ stop r, s = writtenName s ++ stop :: r ∧ (stop = '=' ∨ stop = ';') ∧
      s.dropWhile (fun c => c != '=' && c != ';') = stop :: r := by
  have split := List.takeWhile_append_dropWhile (p := fun c => c != '=' && c != ';') (l := s)
  cases rest : s.dropWhile fun c => c != '=' && c != ';' with
  | nil =>
    rw [rest, List.append_nil] at split
    exact Or.inl ⟨split.symm, rfl⟩
  | cons stop r =>
    rw [rest] at split
    have ends := List.head_dropWhile_not (fun c => c != '=' && c != ';') (l := s) (by simp [rest])
    simp only [rest, List.head_cons] at ends
    refine Or.inr ⟨stop, r, split.symm, ?_, rfl⟩
    by_cases equals : stop = '='
    · exact Or.inl equals
    · exact Or.inr (by simpa [equals] using ends)

theorem whole_cutParameter (s : List Char) : (cutParameter s).whole = s := by
  rw [cutParameter]
  rcases name_or_stop s with ⟨-, last⟩ | ⟨stop, r, split, rfl | rfl, rest⟩
  · rw [last]
    rfl
  · rw [rest]
    simp [whole_cutUnquoted, ← split]
  · rw [rest]
    simp [Cut.whole, ← split]

def segments (s : List Char) : List (List Char) :=
  match _h : cutParameter s with
  | ⟨front, none⟩ => [front]
  | ⟨front, some rest⟩ => front :: segments rest
termination_by s.length
decreasing_by
  have shorter := (cutParameter s).rest_length rest (by simp [_h])
  rwa [whole_cutParameter] at shorter

section Split

private theorem segments_cut (s : List Char) : segments s = (cutParameter s).parts segments := by
  rw [segments]
  split <;> rename_i found <;> rw [found, Cut.parts]

private theorem splitUnquoted_cut (quoted : Bool) (s : List Char) :
    splitUnquoted quoted s = (cutUnquoted quoted s).parts (splitUnquoted false) := by
  induction s generalizing quoted with
  | nil => rfl
  | cons c s ih =>
    rw [splitUnquoted, cutUnquoted]
    split
    · rfl
    · rw [ih]
      obtain ⟨front, rest⟩ := cutUnquoted (if c = '"' then !quoted else quoted) s
      cases rest <;> rfl

private theorem cutUnquoted_cons (quoted : Bool) (c : Char) (s : List Char) (other : c ≠ ';') :
    cutUnquoted quoted (c :: s) =
      (cutUnquoted (if c = '"' then !quoted else quoted) s).after [c] := by
  rw [cutUnquoted, if_neg (by simp [other])]

private theorem cutUnquoted_append (quoted : Bool) (name rest : List Char) (absent : ';' ∉ name) :
    cutUnquoted quoted (name ++ rest) =
      (cutUnquoted (quoted ^^ name.count '"' % 2 == 1) rest).after name := by
  induction name generalizing quoted with
  | nil => simp [Cut.after]
  | cons c name ih =>
    obtain ⟨other, absent⟩ : c ≠ ';' ∧ ';' ∉ name := by simpa [eq_comm] using absent
    rw [List.cons_append, cutUnquoted_cons quoted c _ other, ih _ absent, toggled_count]
    simp [Cut.after]

private theorem cutUnquoted_flip (quoted : Bool) (s : List Char) :
    cutUnquoted quoted s = cutUnquoted (!quoted) s ↔ ';' ∉ s := by
  induction s generalizing quoted with
  | nil => simp [cutUnquoted]
  | cons c s ih =>
    by_cases semicolon : c = ';'
    · subst c
      cases quoted <;> simp [cutUnquoted, Cut.after]
    · have toggled : (if c = '"' then !(!quoted) else !quoted) =
          !(if c = '"' then !quoted else quoted) := by
        split <;> rfl
      have absent : ';' ∉ c :: s ↔ ';' ∉ s := by simp [Ne.symm semicolon]
      rw [cutUnquoted_cons quoted c s semicolon, cutUnquoted_cons (!quoted) c s semicolon, toggled,
        Cut.after_inj, ih, absent]

/-- The name of a parameter has its double quotes in pairs. -/
def Paired (segment : List Char) : Prop :=
  (writtenName segment).count '"' % 2 = 0

private theorem writtenName_plain (s : List Char) : ';' ∉ writtenName s := by
  intro member
  simpa using List.all_eq_true.mp (List.all_takeWhile (l := s)) _ member

private theorem writtenName_append (name rest : List Char)
    (chars : ∀ c ∈ name, (c != '=' && c != ';') = true) (stop : ∀ c ∈ rest.head?, c = '=') :
    writtenName (name ++ rest) = name := by
  rw [writtenName, List.takeWhile_append_of_pos chars]
  cases rest with
  | nil => simp
  | cons c rest =>
    obtain rfl : c = '=' := stop c rfl
    simp

/-- The ways in which a parameter is cut off: it ends with the text, at the semicolon after its
name, or where its value does. -/
private theorem cutParameter_cases (s : List Char) :
    s = writtenName s ∧ cutParameter s = ⟨writtenName s, none⟩ ∨
    (∃ r, s = writtenName s ++ ';' :: r ∧ cutParameter s = ⟨writtenName s, some r⟩) ∨
    ∃ r, s = writtenName s ++ '=' :: r ∧
      cutParameter s = (cutUnquoted false r).after (writtenName s ++ ['=']) := by
  rw [cutParameter]
  rcases name_or_stop s with ⟨split, last⟩ | ⟨stop, r, split, rfl | rfl, rest⟩
  · exact Or.inl ⟨split, by rw [last, ← split]⟩
  · exact Or.inr (Or.inr ⟨r, split, by rw [rest]; rfl⟩)
  · exact Or.inr (Or.inl ⟨r, split, by rw [rest]; rfl⟩)

private theorem writtenName_front (s : List Char) :
    writtenName (cutParameter s).front = writtenName s := by
  have chars := List.all_eq_true.mp
    (List.all_takeWhile (p := fun c => c != '=' && c != ';') (l := s))
  rcases cutParameter_cases s with ⟨-, cut⟩ | ⟨r, -, cut⟩ | ⟨r, -, cut⟩
  · rw [cut]
    simpa using writtenName_append (writtenName s) [] chars (by simp)
  · rw [cut]
    simpa using writtenName_append (writtenName s) [] chars (by simp)
  · rw [cut, Cut.after, List.append_assoc]
    exact writtenName_append (writtenName s) _ chars (by simp)

private theorem cut_agrees (s : List Char) : cutUnquoted false s = cutParameter s ↔
    Paired s ∨ (cutParameter s).rest = none ∧ ';' ∉ (cutParameter s).front := by
  have plain := writtenName_plain s
  have parity : Paired s ↔ ((writtenName s).count '"' % 2 == 1) = false := by
    rw [Paired]
    simp
  rcases cutParameter_cases s with ⟨split, cut⟩ | ⟨r, split, cut⟩ | ⟨r, split, cut⟩
  · have whole := cutUnquoted_append false (writtenName s) [] plain
    rw [← split] at whole cut plain
    rw [List.append_nil, cutUnquoted, Cut.after, List.append_nil] at whole
    simp [whole, cut, plain]
  · have stop := cutUnquoted_append false (writtenName s) (';' :: r) plain
    rw [← split, Bool.false_xor] at stop
    rw [stop, cut, parity]
    cases (writtenName s).count '"' % 2 == 1 <;> simp [cutUnquoted, Cut.after]
  · have value := cutUnquoted_append false (writtenName s ++ ['=']) r (by simp [plain])
    rw [List.append_assoc, List.singleton_append, ← split, Bool.false_xor] at value
    have ends : ((cutUnquoted false r).after (writtenName s ++ ['='])).rest = none ∧
        ';' ∉ ((cutUnquoted false r).after (writtenName s ++ ['='])).front ↔ ';' ∉ r := by
      rw [← Cut.plain_whole, Cut.whole_after, whole_cutUnquoted]
      simp [plain]
    rw [value, cut, Cut.after_inj, parity, ends, ← cutUnquoted_flip false r]
    have counted : (writtenName s ++ ['=']).count '"' = (writtenName s).count '"' := by
      simp [List.count_append]
    rw [counted]
    cases (writtenName s).count '"' % 2 == 1 <;> simp [eq_comm]

/-- Reading parameters by their own count of quotes is as good as counting quotes from the start. -/
def Agreeing (segments : List (List Char)) : Prop :=
  (∀ segment ∈ segments.dropLast, Paired segment) ∧
    ∀ segment ∈ segments.getLast?, Paired segment ∨ ';' ∉ segment

private theorem agreeing_cons (segment : List Char) (more : List (List Char)) (filled : more ≠ []) :
    Agreeing (segment :: more) ↔ Paired segment ∧ Agreeing more := by
  rw [Agreeing, Agreeing, List.dropLast_cons_of_ne_nil filled, List.getLast?_cons_of_ne_nil filled,
    List.forall_mem_cons, and_assoc]

private theorem paired_front (s : List Char) : Paired (cutParameter s).front ↔ Paired s := by
  rw [Paired, Paired, writtenName_front]

private theorem segments_filled (s : List Char) : segments s ≠ [] := by
  intro none
  have front := Cut.head_parts (cutParameter s) segments
  rw [← segments_cut, none] at front
  cases front

private theorem splitUnquoted_segments (s : List Char) : splitUnquoted false s = segments s ↔
    (Paired (cutParameter s).front ∨
      (cutParameter s).rest = none ∧ ';' ∉ (cutParameter s).front) ∧
    ∀ rest ∈ (cutParameter s).rest, splitUnquoted false rest = segments rest := by
  rw [splitUnquoted_cut, segments_cut, Cut.parts_inj, cut_agrees, paired_front]
  rw [whole_cutUnquoted, whole_cutParameter]

/-- The parameters of a text end at its semicolons outside quotes if their names have quotes in
pairs, and only then; a last parameter without semicolons need not. -/
theorem splitUnquoted_iff (s : List Char) :
    splitUnquoted false s = segments s ↔ Agreeing (segments s) := by
  rw [splitUnquoted_segments]
  fun_induction segments s with
  | case1 s front cut => simp [cut, Agreeing]
  | case2 s front rest cut ih =>
    rw [agreeing_cons front _ (segments_filled rest), ← ih, ← splitUnquoted_segments rest]
    simp [cut]

end Split

section Read

/-- A value ends where the text is cut. -/
private theorem readValue_cut (quoted : Bool) (s : List Char) :
    readValue quoted s =
        ((readValue quoted (cutUnquoted quoted s).front).1, (cutUnquoted quoted s).rest.getD []) ∧
      (readValue quoted (cutUnquoted quoted s).front).2 = [] := by
  fun_induction readValue quoted s with
  | case1 quoted => simp [cutUnquoted, readValue]
  | case2 quoted r ih => simpa [cutUnquoted, Cut.after, readValue] using ih
  | case3 r ih =>
    rw [ih.1]
    simp [cutUnquoted, Cut.after, readValue, consValue, ih.2]
  | case4 quoted r outside =>
    obtain rfl : quoted = false := by simpa using outside
    simp [cutUnquoted, readValue]
  | case5 quoted r ih | case6 quoted r ih | case7 quoted r ih =>
    rw [ih.1]
    simp [cutUnquoted, Cut.after, readValue, consValue, ih.2]
  | case8 quoted c r noQuote noStop noFeed noApostrophe noCaret ih =>
    -- A caret that is no escape in the text is none in its first part either.
    obtain ⟨more, whole⟩ := (cutUnquoted quoted r).front_whole
    rw [whole_cutUnquoted] at whole
    have first (d : Char) (s : List Char) (front : (cutUnquoted quoted r).front = d :: s) :
        r = d :: (s ++ more) := by
      rw [← whole, front, List.cons_append]
    have cut := cutUnquoted_cons quoted c r fun same => noStop same
    rw [if_neg fun same => noQuote same] at cut
    have step : readValue quoted (c :: (cutUnquoted quoted r).front) =
        consValue c (readValue quoted (cutUnquoted quoted r).front) := by
      rw [readValue]
      · exact noQuote
      · exact noStop
      · exact fun s caret front => noFeed _ caret (first 'n' s front)
      · exact fun s caret front => noApostrophe _ caret (first '\'' s front)
      · exact fun s caret front => noCaret _ caret (first '^' s front)
    rw [cut, Cut.after, List.singleton_append, step, ih.1]
    simp [consValue, ih.2]

private def readAfter (name : List Char) : List Char → Except ParameterFault (List Parameter)
  | [] => .ok (consMarker name [])
  | stop :: r =>
    if stop = '=' then
      if name.isEmpty then .error .emptyName
      else (readParameters (readValue false r).2).map
        (⟨String.ofList name, some (String.ofList (readValue false r).1)⟩ :: ·)
    else (readParameters r).map (consMarker name)

private theorem readParameters_after (s name rest : List Char) (split : s = name ++ rest)
    (own : writtenName s = name) : readParameters s = readAfter (Text.trim name) rest := by
  subst own
  have dropped : s.dropWhile (fun c => c != '=' && c != ';') = rest :=
    List.append_cancel_left ((List.takeWhile_append_dropWhile ..).trans split)
  rw [readParameters]
  split
  · rename_i empty
    obtain rfl := List.isEmpty_iff.mp empty
    obtain rfl : rest = [] := by simpa using dropped.symm
    rfl
  · split <;> rename_i found <;> rw [dropped] at found <;> subst found
    · rfl
    · rename_i stop r
      rw [readAfter, writtenName]
      cases readParameters (readValue false r).2 <;> cases readParameters r <;> rfl

private theorem consMarker_one (name : List Char) :
    ∃ p : Option Parameter, ∀ more, consMarker name more = p.toList ++ more := by
  by_cases empty : name.isEmpty = true
  · exact ⟨none, fun more => by rw [consMarker, if_pos empty]; rfl⟩
  · exact ⟨some ⟨String.ofList name, none⟩, fun more => by rw [consMarker, if_neg empty]; rfl⟩

private theorem readParameters_cut (s : List Char) (ps : List Parameter)
    (ok : readParameters s = .ok ps) : ∃ p : Option Parameter,
      readParameters (cutParameter s).front = .ok p.toList ∧
      ∃ more, readParameters ((cutParameter s).rest.getD []) = .ok more ∧
        ps = p.toList ++ more := by
  have own := writtenName_front s
  have none : readParameters [] = .ok [] := by simp [readParameters]
  obtain ⟨p, marker⟩ := consMarker_one (Text.trim (writtenName s))
  rcases cutParameter_cases s with ⟨split, cut⟩ | ⟨r, split, cut⟩ | ⟨r, split, cut⟩ <;>
    rw [cut] at own ⊢
  · have front := readParameters_after _ _ [] (List.append_nil _).symm own
    rw [readAfter, marker, List.append_nil] at front
    rw [← split] at front ⊢
    rw [ok] at front
    exact ⟨p, ok.trans front, [], none, by simpa using front⟩
  · have front := readParameters_after _ _ [] (List.append_nil _).symm own
    have whole := readParameters_after s _ _ split rfl
    rw [readAfter, marker, List.append_nil] at front
    rw [ok, readAfter, if_neg (by decide)] at whole
    cases later : readParameters r with
    | error fault => simp [later, Except.map] at whole
    | ok more =>
      rw [later] at whole
      cases whole
      exact ⟨p, front, more, later, marker more⟩
  · have value := readValue_cut false r
    have front := readParameters_after _ _ ('=' :: (cutUnquoted false r).front)
      (by simp [Cut.after]) own
    have whole := readParameters_after s _ _ split rfl
    rw [ok, readAfter, if_pos rfl] at whole
    rw [readAfter, if_pos rfl, value.2, none] at front
    rw [value.1] at whole
    split at whole
    · cases whole
    · rename_i named
      rw [if_neg named] at front
      cases later : readParameters ((cutUnquoted false r).rest.getD []) with
      | error fault => simp [later, Except.map] at whole
      | ok more =>
        rw [later] at whole
        cases whole
        exact ⟨some _, front, more, later, rfl⟩

/-- Each segment is read by itself, as one parameter or as none. -/
theorem readParameters_segments (s : List Char) (ps : List Parameter)
    (ok : readParameters s = .ok ps) : ∃ read : List (Option Parameter),
      List.Forall₂ (fun segment p => readParameters segment = .ok p.toList) (segments s) read ∧
      ps = read.flatMap Option.toList := by
  fun_induction segments s generalizing ps with
  | case1 s front cut =>
    obtain ⟨p, own, more, last, rfl⟩ := readParameters_cut s ps ok
    rw [cut] at own last
    obtain rfl : more = [] := by simpa [readParameters, eq_comm] using last
    exact ⟨[p], .cons own .nil, by simp⟩
  | case2 s front rest cut ih =>
    obtain ⟨p, own, more, later, rfl⟩ := readParameters_cut s ps ok
    rw [cut] at own later
    obtain ⟨read, each, rfl⟩ := ih more later
    exact ⟨p :: read, .cons own each, by simp⟩

theorem intercalate_segments (s : List Char) : [';'].intercalate (segments s) = s := by
  have whole := whole_cutParameter s
  fun_induction segments s with
  | case1 s front cut =>
    rw [cut, Cut.whole] at whole
    simpa using whole
  | case2 s front rest cut ih =>
    rw [cut, Cut.whole] at whole
    rw [List.intercalate_cons_of_ne_nil (segments_filled rest), ih (whole_cutParameter rest)]
    simpa using whole

end Read

/-- The texts that the head of a line is read in: its group and name, and its parameters. -/
def headSegments (head : List Char) : List (List Char) :=
  match Text.cut ';' head with
  | none => [head]
  | some (start, parameters) => start :: segments parameters

/-- A head that can be read starts with a group and a name, and these are no parameter. -/
private theorem head_start (text head : List Char) (line : ContentLine)
    (read : ContentLine.read text = .ok line)
    (cut : cutValue false text = some (head, line.value)) :
    ∃ start, '"' ∉ start ∧ ';' ∉ start ∧ (head = start ∧ line.parameters = [] ∨
      ∃ rest, head = start ++ ';' :: rest ∧ readParameters rest = .ok line.parameters) := by
  have noMark (s : List Char) (name : isName s = true) : '"' ∉ s ∧ ';' ∉ s :=
    ⟨isName_absent s '"' name (by decide), isName_absent s ';' name (by decide)⟩
  have group : '"' ∉ writtenGroup ((cutGroup head).1.map String.ofList) ∧
      ';' ∉ writtenGroup ((cutGroup head).1.map String.ofList) := by
    have named := cutGroup_named head
    cases found : (cutGroup head).1 with
    | none => simp [writtenGroup]
    | some g => simp [writtenGroup, noMark g (named g found)]
  have whole := cutGroup_eq head
  rw [ContentLine.read, cut] at read
  dsimp only at read
  split at read
  · rename_i named
    obtain ⟨noQuote, noStop⟩ := noMark _ named
    split at read
    · cases read
    · rename_i ps found
      obtain rfl : ps = line.parameters := congrArg ContentLine.parameters (Except.ok.inj read)
      refine ⟨writtenGroup ((cutGroup head).1.map String.ofList) ++ (cutName (cutGroup head).2).1,
        by simp [group.1, noQuote], by simp [group.2, noStop], ?_⟩
      cases more : Text.cut ';' (cutGroup head).2 with
      | none =>
        simp only [cutName, more, Option.getD_none] at found ⊢
        exact Or.inl ⟨whole, by simpa [readParameters, eq_comm] using found⟩
      | some parts =>
        simp only [cutName, more, Option.getD_some] at found ⊢
        refine Or.inr ⟨parts.2, ?_, found⟩
        rw [List.append_assoc, ← Text.cut_eq ';' _ parts.1 parts.2 more]
        exact whole
  · cases read

/-- The semicolons between the parameters of a line are those outside quotes if the names of the
parameters have their quotes in pairs, and only then; what is after the last semicolon need not. -/
theorem ContentLine.segments_iff (text : List Char) (line : ContentLine)
    (read : ContentLine.read text = .ok line) :
    ∃ head, cutValue false text = some (head, line.value) ∧
      [';'].intercalate (headSegments head) = head ∧
      (∃ read : List (Option Parameter), List.Forall₂
          (fun segment p => readParameters segment = .ok p.toList) (headSegments head).tail read ∧
        line.parameters = read.flatMap Option.toList) ∧
      (splitUnquoted false head = headSegments head ↔ Agreeing (headSegments head)) := by
  obtain ⟨head, cut⟩ := cut_of_read text line read
  obtain ⟨start, noQuote, noStop, parts⟩ := head_start text head line read cut
  have even : start.count '"' = 0 := List.count_eq_zero.mpr noQuote
  have first (rest : List Char) : cutUnquoted false (start ++ rest) =
      (cutUnquoted false rest).after start := by
    rw [cutUnquoted_append false start rest noStop, even]
    rfl
  refine ⟨head, cut, ?_⟩
  rcases parts with ⟨rfl, none⟩ | ⟨rest, rfl, found⟩
  · have alone : headSegments head = [head] := by
      rw [headSegments, Text.cut_absent ';' head noStop]
    have split : splitUnquoted false head = [head] := by
      have whole := first []
      rw [List.append_nil] at whole
      rw [splitUnquoted_cut, whole, cutUnquoted, Cut.after, List.append_nil, Cut.parts]
    rw [alone, split, none]
    exact ⟨List.intercalate_singleton, ⟨[], .nil, rfl⟩, by simp [Agreeing, noStop]⟩
  · have more : headSegments (start ++ ';' :: rest) = start :: segments rest := by
      rw [headSegments, Text.cut_separator ';' start rest noStop]
    have split :
        splitUnquoted false (start ++ ';' :: rest) = start :: splitUnquoted false rest := by
      rw [splitUnquoted_cut, first]
      simp [cutUnquoted, Cut.after, Cut.parts]
    have paired : Paired start := by
      have noQuote' : '"' ∉ writtenName start := fun quote =>
        noQuote ((List.takeWhile_sublist _).subset quote)
      rw [Paired, List.count_eq_zero.mpr noQuote']
    rw [more, split, List.cons.injEq, agreeing_cons _ _ (segments_filled rest), splitUnquoted_iff,
      List.intercalate_cons_of_ne_nil (segments_filled rest), intercalate_segments]
    exact ⟨by simp, readParameters_segments rest _ found, by simp [paired]⟩

theorem ContentLine.segments_iff_quoted :
    ContentLine.read "ADR;LABEL=\"to: a;b\";HOME:c".toList =
      .ok ⟨none, "ADR", [⟨"LABEL", some "to: a;b"⟩, ⟨"HOME", none⟩], "c".toList⟩ ∧
    ∃ head, cutValue false "ADR;LABEL=\"to: a;b\";HOME:c".toList = some (head, "c".toList) ∧
      splitUnquoted false head = ["ADR".toList, "LABEL=\"to: a;b\"".toList, "HOME".toList] ∧
      splitUnquoted false head = headSegments head := by
  have read : ContentLine.read "ADR;LABEL=\"to: a;b\";HOME:c".toList =
      .ok ⟨none, "ADR", [⟨"LABEL", some "to: a;b"⟩, ⟨"HOME", none⟩], "c".toList⟩ := by
    decide +kernel
  have found : cutValue false "ADR;LABEL=\"to: a;b\";HOME:c".toList =
      some ("ADR;LABEL=\"to: a;b\";HOME".toList, "c".toList) := by
    decide
  have segments : headSegments "ADR;LABEL=\"to: a;b\";HOME".toList =
      ["ADR".toList, "LABEL=\"to: a;b\"".toList, "HOME".toList] := by
    decide +kernel
  obtain ⟨head, cut, -, -, agree⟩ := ContentLine.segments_iff _ _ read
  obtain rfl : head = "ADR;LABEL=\"to: a;b\";HOME".toList :=
    congrArg Prod.fst (Option.some.inj (cut.symm.trans found))
  rw [segments] at agree
  have same := agree.mpr (by simp [Agreeing, Paired, writtenName])
  exact ⟨read, _, found, same, same.trans segments.symm⟩

/-- A quote in the name of a parameter is counted for the separator of the value, but not where the
parameter is read: here the separator is a colon inside the quotes of the value. -/
theorem ContentLine.segments_crossed :
    ContentLine.read "TEL;a\"=\"b;c:v\"".toList =
      .ok ⟨none, "TEL", [⟨"a\"", some "b;c"⟩], "v\"".toList⟩ ∧
    cutValue false "TEL;a\"=\"b;c:v\"".toList = some ("TEL;a\"=\"b;c".toList, "v\"".toList) ∧
    headSegments "TEL;a\"=\"b;c".toList = ["TEL".toList, "a\"=\"b;c".toList] ∧
    splitUnquoted false "TEL;a\"=\"b;c".toList =
      ["TEL".toList, "a\"=\"b".toList, "c".toList] := by
  decide +kernel

end CardFile.Wire
