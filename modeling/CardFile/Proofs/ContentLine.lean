import CardFile.Proofs.Parameter
import CardFile.Proofs.Trim
import CardFile.Wire.Document

/-!
Written content lines. A group, a name, parameters and a value that are put together on one line
come apart again, and the line is none that opens or closes a block.
-/
namespace CardFile.Wire

private theorem nameChar_code (c : Char) (name : isNameChar c = true) :
    0x2D ≤ c.toNat ∧ c.toNat ≤ 0x7A := by
  unfold isNameChar Char.isAlphanum Char.isAlpha Char.isUpper Char.isLower Char.isDigit at name
  simp only [Bool.or_eq_true, Bool.and_eq_true, decide_eq_true_eq, beq_iff_eq,
    UInt32.le_iff_toNat_le, ge_iff_le] at name
  rcases name with (((⟨low, high⟩ | ⟨low, high⟩) | ⟨low, high⟩) | rfl) | rfl
  · exact ⟨Nat.le_trans (by decide) low, Nat.le_trans high (by decide)⟩
  · exact ⟨Nat.le_trans (by decide) low, Nat.le_trans high (by decide)⟩
  · exact ⟨Nat.le_trans (by decide) low, Nat.le_trans high (by decide)⟩
  · decide
  · decide

private theorem nameChar_solid (c : Char) (name : isNameChar c = true) :
    Text.isBlank c = false := by
  obtain ⟨low, high⟩ := nameChar_code c name
  simp only [Text.isBlank, Bool.or_eq_false_iff, Bool.and_eq_false_iff, decide_eq_false_iff_not,
    beq_eq_false_iff_ne]
  omega

private theorem isName_chars (name : List Char) (named : isName name = true) :
    name ≠ [] ∧ ∀ c ∈ name, isNameChar c = true := by
  simpa only [isName, Bool.and_eq_true, Bool.not_eq_true', List.isEmpty_eq_false_iff,
    List.all_eq_true] using named

theorem isName_absent (name : List Char) (c : Char) (named : isName name = true)
    (other : isNameChar c = false) : c ∉ name := by
  intro member
  simp [(isName_chars name named).2 c member] at other

theorem isName_solid (name : List Char) (named : isName name = true) :
    ∀ c ∈ name, Text.isBlank c = false :=
  fun c member => nameChar_solid c ((isName_chars name named).2 c member)

private theorem nameChar_cases (c : Char) (name : isNameChar c = true) :
    isNameChar c.toUpper = true ∧ c.toUpper.toUpper = c.toUpper ∧
      c.toLower.toUpper = c.toUpper := by
  obtain ⟨-, high⟩ := nameChar_code c name
  have table : ∀ n < 0x7B, isNameChar (Char.ofNat n) = true →
      isNameChar (Char.ofNat n).toUpper = true ∧
      (Char.ofNat n).toUpper.toUpper = (Char.ofNat n).toUpper ∧
      (Char.ofNat n).toLower.toUpper = (Char.ofNat n).toUpper := by
    decide
  have code := table c.toNat (by omega)
  rw [Char.ofNat_toNat] at code
  exact code name

theorem isName_upper (name : List Char) (named : isName name = true) :
    isName (name.map Char.toUpper) = true := by
  obtain ⟨filled, chars⟩ := isName_chars name named
  simp only [isName, Bool.and_eq_true, Bool.not_eq_true', List.isEmpty_eq_false_iff,
    List.all_eq_true, List.forall_mem_map]
  exact ⟨by simpa using filled, fun c member => (nameChar_cases c (chars c member)).1⟩

theorem upper_upper (name : List Char) (named : isName name = true) :
    (name.map Char.toUpper).map Char.toUpper = name.map Char.toUpper := by
  rw [List.map_map]
  exact List.map_congr_left fun c member =>
    (nameChar_cases c ((isName_chars name named).2 c member)).2.1

theorem upper_lower (name : List Char) (named : isName name = true) :
    (name.map Char.toLower).map Char.toUpper = name.map Char.toUpper := by
  rw [List.map_map]
  exact List.map_congr_left fun c member =>
    (nameChar_cases c ((isName_chars name named).2 c member)).2.2

private theorem isName_extended (s rest : List Char) : isName (s ++ ';' :: rest) = false := by
  simp [isName, show isNameChar ';' = false by decide]

private theorem cutGroup_none (name rest : List Char) (named : isName name = true)
    (separator : ∀ c ∈ rest.head?, c = ';') : cutGroup (name ++ rest) = (none, name ++ rest) := by
  have noDot := isName_absent name '.' named (by decide)
  rw [cutGroup, Text.cut_append '.' name rest noDot]
  cases rest with
  | nil => rfl
  | cons c rest =>
    obtain rfl : c = ';' := separator c (by simp)
    rw [Text.cut, if_neg (by decide)]
    cases Text.cut '.' rest with
    | none => rfl
    | some parts => simp [isName_extended]

private theorem cutGroup_some (group rest : List Char) (named : isName group = true) :
    cutGroup (group ++ '.' :: rest) = (some group, rest) := by
  rw [cutGroup, Text.cut_separator '.' group rest (isName_absent group '.' named (by decide))]
  simp [named]

private theorem cutName_parts (name rest : List Char) (named : isName name = true)
    (separator : ∀ c ∈ rest.head?, c = ';') : cutName (name ++ rest) = (name, rest.tail) := by
  have noSemicolon := isName_absent name ';' named (by decide)
  cases rest with
  | nil => simp [cutName, Text.cut_absent ';' name noSemicolon]
  | cons c rest =>
    obtain rfl : c = ';' := separator c (by simp)
    simp [cutName, Text.cut_separator ';' name rest noSemicolon]

theorem quotedAfter_name (name : List Char) (chars : ∀ c ∈ name, c ≠ ':' ∧ c ≠ '"') :
    quotedAfter false name = some false := by
  induction name with
  | nil => rfl
  | cons c name ih =>
    obtain ⟨noColon, noQuote⟩ := chars c (by simp)
    rw [quotedAfter, if_neg (by simp [noColon]), if_neg noQuote]
    exact ih fun d member => chars d (by simp [member])

private theorem name_unquoted (name : List Char) (named : isName name = true) :
    ∀ c ∈ name, c ≠ ':' ∧ c ≠ '"' := by
  intro c member
  constructor <;> rintro rfl
  · exact isName_absent name ':' named (by decide) member
  · exact isName_absent name '"' named (by decide) member

theorem isName_writable (name : List Char) (named : isName name = true) : WritableName name where
  filled := (isName_chars name named).1
  trimmed := Text.trim_solid name (isName_solid name named)
  chars := by
    intro c member
    refine ⟨?_, ?_, ?_⟩ <;> rintro rfl
    · exact isName_absent name '\n' named (by decide) member
    · exact isName_absent name ';' named (by decide) member
    · exact isName_absent name '=' named (by decide) member
  quotes := quotedAfter_name name (name_unquoted name named)

def writtenGroup : Option String → List Char
  | some group => group.toList ++ ['.']
  | none => []

theorem group_single (group : Option String)
    (grouped : ∀ g ∈ group, isName g.toList = true) : '\n' ∉ writtenGroup group := by
  cases group with
  | none => simp [writtenGroup]
  | some g =>
    have noFeed := isName_absent g.toList '\n' (grouped g rfl) (by decide)
    simp [writtenGroup, noFeed]

private theorem cutValue_stop (rest tail value : List Char)
    (stop : ∀ c ∈ rest.head?, c = ';' ∨ c = ':')
    (found : cutValue false rest = some (tail, value)) : ∀ c ∈ tail.head?, c = ';' := by
  cases rest with
  | nil => simp [cutValue] at found
  | cons c rest =>
    rcases stop c (by simp) with rfl | rfl
    · cases more : cutValue false rest <;> simp [cutValue, more] at found
      simp [← found.1]
    · obtain ⟨rfl, -⟩ : tail = [] ∧ rest = value := by simpa [cutValue] using found
      simp

section Line

variable (group : Option String) (name : String) (grouped : ∀ g ∈ group, isName g.toList = true)
variable (named : isName name.toList = true)
variable (capitals : name.toList.map Char.toUpper = name.toList)

include grouped named

private theorem quotedAfter_start :
    quotedAfter false (writtenGroup group ++ name.toList) = some false := by
  apply quotedAfter_name _
  intro c member
  rcases List.mem_append.mp member with before | member
  · cases group with
    | none => simp [writtenGroup] at before
    | some g =>
      rcases List.mem_append.mp before with member | dot
      · exact name_unquoted _ (grouped g rfl) c member
      · obtain rfl : c = '.' := by simpa using dot
        decide
  · exact name_unquoted _ named c member

include capitals

private theorem read_cut (line tail value : List Char) (separator : ∀ c ∈ tail.head?, c = ';')
    (cut : cutValue false line = some (writtenGroup group ++ name.toList ++ tail, value)) :
    ContentLine.read line = match readParameters tail.tail with
      | .error fault => .error (.parameter fault)
      | .ok ps => .ok ⟨group, name, ps, value⟩ := by
  have parts : cutGroup (writtenGroup group ++ name.toList ++ tail) =
      (group.map String.toList, name.toList ++ tail) := by
    cases group with
    | none => simpa [writtenGroup] using cutGroup_none name.toList tail named separator
    | some g => simpa [writtenGroup] using cutGroup_some g.toList _ (grouped g rfl)
  rw [ContentLine.read, cut]
  simp only [parts, cutName_parts name.toList tail named separator, named, if_true, capitals]
  cases group <;> cases readParameters tail.tail <;> simp

/-- A content line comes apart into the parts that it was made of. -/
theorem read_parts (tail value : List Char) (separator : ∀ c ∈ tail.head?, c = ';')
    (closed : quotedAfter false tail = some false) :
    ContentLine.read (writtenGroup group ++ name.toList ++ tail ++ ':' :: value) =
      match readParameters tail.tail with
      | .error fault => .error (.parameter fault)
      | .ok ps => .ok ⟨group, name, ps, value⟩ := by
  have head : quotedAfter false (writtenGroup group ++ name.toList ++ tail) = some false := by
    rw [quotedAfter_append, quotedAfter_start group name grouped named, Option.bind_some, closed]
  apply read_cut group name grouped named capitals _ tail value separator
  rw [cutValue_append false false _ _ head]
  simp [cutValue]

theorem read_written (ps : List Parameter) (value : List Char)
    (names : ∀ p ∈ ps, WritableName p.name.toList) :
    ContentLine.read (writtenGroup group ++ name.toList ++ ps.flatMap Parameter.written ++
      ':' :: value) = .ok ⟨group, name, ps.map Parameter.kept, value⟩ := by
  have read := readParameters_append ps (fun p member => (names p member).toParameterName) []
    (by simp)
  rw [List.append_nil] at read
  rw [read_parts group name grouped named capitals _ value (head_written ps)
    (quotedAfter_parameters ps names), read]
  simp [readParameters, Except.map]

theorem read_name (rest : List Char) (stop : ∀ c ∈ rest.head?, c = ';' ∨ c = ':')
    (content : ContentLine)
    (ok : ContentLine.read (writtenGroup group ++ name.toList ++ rest) = .ok content) :
    content.name = name := by
  have start := quotedAfter_start group name grouped named
  have cut := cutValue_append false false _ rest start
  cases found : cutValue false rest with
  | none =>
    rw [found, Option.map_none] at cut
    rw [ContentLine.read, cut] at ok
    cases ok
  | some parts =>
    obtain ⟨tail, value⟩ := parts
    rw [found, Option.map_some] at cut
    have separator := cutValue_stop rest tail value stop found
    rw [read_cut group name grouped named capitals _ tail value separator cut] at ok
    split at ok
    · cases ok
    · cases ok
      rfl

end Line

private theorem mark_distinguishes (tag letters : List Char) (c : Char) (member : c ∈ tag)
    (solid : Text.isBlank c = false) (other : c.toLower ∉ letters.map Char.toLower) :
    Text.sameLetters (Text.trim tag) letters = false := by
  refine Bool.eq_false_iff.mpr fun same => other ?_
  exact Text.mem_of_sameLetters _ _ c same (Text.mem_trim tag c member solid)

theorem boundary_of_mark (before after : List Char) (c : Char) (noColon : ':' ∉ before)
    (mark : c = ';' ∨ c = '.') : Boundary.ofLine? (before ++ c :: after) = none := by
  have other : c ≠ ':' := by rcases mark with rfl | rfl <;> decide
  rw [Boundary.ofLine?, Text.cut_append ':' before _ noColon, Text.cut, if_neg other]
  cases Text.cut ':' after with
  | none => rfl
  | some parts =>
    have member : c ∈ before ++ c :: parts.1 := by simp
    have noBegin := mark_distinguishes _ "BEGIN".toList c member
      (by rcases mark with rfl | rfl <;> decide) (by rcases mark with rfl | rfl <;> decide)
    have noEnd := mark_distinguishes _ "END".toList c member
      (by rcases mark with rfl | rfl <;> decide) (by rcases mark with rfl | rfl <;> decide)
    simp only [Option.map_some, noBegin, noEnd, Bool.false_eq_true, if_false]

def isBoundaryName (name : List Char) : Bool :=
  Text.sameLetters name "BEGIN".toList || Text.sameLetters name "END".toList

private theorem boundary_of_name (name value : List Char) (named : isName name = true)
    (other : isBoundaryName name = false) : Boundary.ofLine? (name ++ ':' :: value) = none := by
  obtain ⟨noBegin, noEnd⟩ := Bool.or_eq_false_iff.mp other
  have noColon := isName_absent name ':' named (by decide)
  rw [Boundary.ofLine?, Text.cut_separator ':' name value noColon]
  simp only [Text.trim_solid name (isName_solid name named), noBegin, noEnd, Bool.false_eq_true,
    if_false]

/-- A line with a property's name is no boundary, however its parameters and value look. -/
theorem boundary_of_property (group : Option String) (name rest : List Char)
    (grouped : ∀ g ∈ group, isName g.toList = true) (named : isName name = true)
    (other : isBoundaryName name = false) (stop : ∃ c ∈ rest.head?, c = ';' ∨ c = ':') :
    Boundary.ofLine? (writtenGroup group ++ name ++ rest) = none := by
  cases group with
  | some g =>
    have noColon := isName_absent g.toList ':' (grouped g rfl) (by decide)
    simpa [writtenGroup] using boundary_of_mark g.toList (name ++ rest) '.' noColon (Or.inr rfl)
  | none =>
    obtain ⟨c, head, mark⟩ := stop
    cases rest with
    | nil => simp at head
    | cons d rest =>
      obtain rfl : d = c := by simpa using head
      rcases mark with rfl | rfl
      · exact boundary_of_mark name rest ';' (isName_absent name ':' named (by decide)) (Or.inl rfl)
      · exact boundary_of_name name rest named other

end CardFile.Wire
