import CardFile.Wire.ContentLine
import Mathlib.Data.List.Basic

/-!
Parameters read back as they were written, up to the control characters that their values cannot
hold. A name has no escapes, so it has to be one that the grammar can read: what that asks of it is
`WritableName`.
-/
namespace CardFile.Wire

/-- What the written form of a value keeps of it: all but control characters other than LF. -/
def keptValue (s : List Char) : List Char :=
  s.filter fun c => !Text.isControl c || c == '\n'

/-- Whether a text leaves a double quote open, given whether one is open before it; `none` if it
has a colon outside quotes. -/
def quotedAfter (quoted : Bool) : List Char → Option Bool
  | [] => some quoted
  | c :: r =>
    if c = ':' ∧ quoted = false then none
    else quotedAfter (if c = '"' then !quoted else quoted) r

/-- The name of a parameter as reading gives it: trimmed and not empty, without a character that
ends a parameter or a line. -/
structure ParameterName (name : List Char) : Prop where
  filled : name ≠ []
  trimmed : Text.trim name = name
  chars : ∀ c ∈ name, c ≠ '\n' ∧ c ≠ ';' ∧ c ≠ '='

/-- A name that can stand on a content line: its double quotes come in pairs and its colons stand
inside them. -/
structure WritableName (name : List Char) : Prop extends ParameterName name where
  quotes : quotedAfter false name = some false

instance (name : List Char) : Decidable (WritableName name) :=
  decidable_of_iff (name ≠ [] ∧ Text.trim name = name ∧
    (name.all fun c => c != '\n' && c != ';' && c != '=') ∧ quotedAfter false name = some false)
    ⟨fun ⟨filled, trimmed, chars, quotes⟩ =>
        ⟨⟨filled, trimmed, by simpa [and_assoc] using chars⟩, quotes⟩,
      fun writable => ⟨writable.filled, writable.trimmed,
        by simpa [and_assoc] using writable.chars, writable.quotes⟩⟩

namespace Parameter

def written (p : Parameter) : List Char :=
  ';' :: p.name.toList ++
    match p.value with
    | some value => '=' :: writeValue value.toList
    | none => []

def kept (p : Parameter) : Parameter :=
  { p with value := p.value.map fun value => String.ofList (keptValue value.toList) }

end Parameter

private theorem readValue_cons (quoted : Bool) (c : Char) (rest : List Char) (noQuote : c ≠ '"')
    (noCaret : c ≠ '^') (separator : c = ';' → quoted = true) :
    readValue quoted (c :: rest) = consValue c (readValue quoted rest) := by
  by_cases semicolon : c = ';'
  · subst c
    simp [readValue, separator rfl]
  · rw [readValue]
    all_goals simp_all

private theorem needsQuotes_cons (quoted : Bool) (c : Char) (s : List Char)
    (inside : quoted = true ∨ needsQuotes (c :: s) = false) :
    (c = '"' ∨ c = ':' ∨ c = ';' → quoted = true) ∧ (quoted = true ∨ needsQuotes s = false) := by
  rcases inside with rfl | plain
  · simp
  · simp only [needsQuotes, List.any_cons, Bool.or_eq_false_iff] at plain ⊢
    refine ⟨?_, Or.inr plain.2⟩
    rintro (rfl | rfl | rfl) <;> simp at plain

theorem readValue_escaped (quoted : Bool) (s rest : List Char)
    (inside : quoted = true ∨ needsQuotes s = false) :
    readValue quoted (escapeValue s ++ rest) =
      (keptValue s ++ (readValue quoted rest).1, (readValue quoted rest).2) := by
  induction s with
  | nil => rfl
  | cons c s ih =>
    obtain ⟨first, others⟩ := needsQuotes_cons quoted c s inside
    specialize ih others
    by_cases caret : c = '^'
    · subst c
      simp [escapeValue, readValue, ih, consValue, keptValue, Text.isControl]
    by_cases feed : c = '\n'
    · subst c
      simp [escapeValue, readValue, ih, consValue, keptValue]
    by_cases quote : c = '"'
    · subst c
      simp [escapeValue, readValue, ih, consValue, keptValue, Text.isControl]
    rw [escapeValue]
    · cases control : Text.isControl c with
      | true => simp [ih, keptValue, control, feed]
      | false =>
        rw [if_neg (by simp), List.cons_append,
          readValue_cons quoted c _ quote caret fun semicolon => first (by simp [semicolon]), ih]
        simp [consValue, keptValue, control]
    all_goals assumption

/-- A written value is read to its end, and no further. -/
theorem readValue_written (s rest : List Char) (separator : ∀ c ∈ rest.head?, c = ';') :
    readValue false (writeValue s ++ rest) = (keptValue s, rest.tail) := by
  have stop : readValue false rest = ([], rest.tail) := by
    cases rest with
    | nil => rfl
    | cons c rest =>
      obtain rfl : c = ';' := separator c (by simp)
      simp [readValue]
  cases plain : needsQuotes s with
  | true =>
    simp only [writeValue, plain, if_true, List.cons_append, List.append_assoc, List.nil_append]
    rw [readValue, Bool.not_false, readValue_escaped true s _ (Or.inl rfl), readValue,
      Bool.not_true, stop]
    simp
  | false =>
    rw [writeValue, plain, if_neg (by simp), readValue_escaped false s rest (Or.inr plain), stop]
    simp

theorem quotedAfter_append (quoted : Bool) (s rest : List Char) :
    quotedAfter quoted (s ++ rest) = (quotedAfter quoted s).bind (quotedAfter · rest) := by
  induction s generalizing quoted with
  | nil => rfl
  | cons c s ih =>
    simp only [List.cons_append, quotedAfter]
    split
    · rfl
    · exact ih _

/-- A double quote turns the count of those before it around. -/
theorem toggled_count (quoted : Bool) (c : Char) (s : List Char) :
    ((if c = '"' then !quoted else quoted) ^^ s.count '"' % 2 == 1) =
      (quoted ^^ (c :: s).count '"' % 2 == 1) := by
  by_cases quote : c = '"'
  · subst c
    rcases Nat.mod_two_eq_zero_or_one (s.count '"') with even | odd <;>
      cases quoted <;> simp [Nat.add_mod, *]
  · simp [quote]

theorem quotedAfter_count (quoted closed : Bool) (s : List Char)
    (after : quotedAfter quoted s = some closed) :
    closed = (quoted ^^ s.count '"' % 2 == 1) := by
  induction s generalizing quoted with
  | nil => simpa [quotedAfter, eq_comm] using after
  | cons c s ih =>
    rw [quotedAfter] at after
    split at after
    · cases after
    · rw [ih _ after, toggled_count]

private theorem quotedAfter_escaped (quoted : Bool) (s : List Char)
    (inside : quoted = true ∨ needsQuotes s = false) :
    quotedAfter quoted (escapeValue s) = some quoted := by
  induction s with
  | nil => rfl
  | cons c s ih =>
    obtain ⟨first, others⟩ := needsQuotes_cons quoted c s inside
    specialize ih others
    by_cases caret : c = '^'
    · subst c
      simp [escapeValue, quotedAfter, ih]
    by_cases feed : c = '\n'
    · subst c
      simp [escapeValue, quotedAfter, ih]
    by_cases quote : c = '"'
    · subst c
      simp [escapeValue, quotedAfter, ih]
    rw [escapeValue]
    · cases control : Text.isControl c with
      | true => simp [ih]
      | false =>
        have bare : ¬(c = ':' ∧ quoted = false) := by
          rintro ⟨colon, closed⟩
          simp [closed, colon] at first
        rw [if_neg (by simp), quotedAfter, if_neg bare, if_neg quote, ih]
    all_goals assumption

theorem quotedAfter_written (s : List Char) : quotedAfter false (writeValue s) = some false := by
  cases plain : needsQuotes s with
  | true =>
    simp only [writeValue, plain, if_true, quotedAfter, List.cons_append]
    simp [quotedAfter_append, quotedAfter_escaped, quotedAfter]
  | false =>
    rw [writeValue, plain, if_neg (by simp), quotedAfter_escaped false s (Or.inr plain)]

theorem cutValue_append (quoted closed : Bool) (head rest : List Char)
    (after : quotedAfter quoted head = some closed) :
    cutValue quoted (head ++ rest) =
      (cutValue closed rest).map fun (more, value) => (head ++ more, value) := by
  induction head generalizing quoted with
  | nil =>
    obtain rfl : quoted = closed := by simpa [quotedAfter] using after
    simp
  | cons c head ih =>
    rw [quotedAfter] at after
    split at after
    · simp at after
    · rename_i bare
      rw [List.cons_append, cutValue, if_neg bare, ih _ after]
      cases cutValue closed rest <;> rfl

namespace Parameter

theorem quotedAfter_written (p : Parameter) (name : WritableName p.name.toList) :
    quotedAfter false p.written = some false := by
  have marker : quotedAfter false (';' :: p.name.toList) = some false := by
    simpa [quotedAfter] using name.quotes
  rw [written, quotedAfter_append, marker, Option.bind_some]
  cases p.value with
  | none => rfl
  | some value => simpa [quotedAfter] using Wire.quotedAfter_written value.toList

end Parameter

theorem quotedAfter_parameters (ps : List Parameter)
    (names : ∀ p ∈ ps, WritableName p.name.toList) :
    quotedAfter false (ps.flatMap Parameter.written) = some false := by
  induction ps with
  | nil => rfl
  | cons p ps ih =>
    rw [List.flatMap_cons, quotedAfter_append, p.quotedAfter_written (names p (by simp)),
      Option.bind_some, ih fun q member => names q (by simp [member])]

private theorem nameStop (name rest : List Char) (chars : ∀ c ∈ name, c ≠ '\n' ∧ c ≠ ';' ∧ c ≠ '=')
    (stop : ∀ c ∈ rest.head?, c = ';' ∨ c = '=') :
    (name ++ rest).takeWhile (fun c => c != '=' && c != ';') = name ∧
      (name ++ rest).dropWhile (fun c => c != '=' && c != ';') = rest := by
  have all : ∀ c ∈ name, (c != '=' && c != ';') = true := by
    intro c member
    simp [chars c member]
  rw [List.takeWhile_append_of_pos all, List.dropWhile_append_of_pos all]
  cases rest with
  | nil => simp
  | cons c rest => rcases stop c (by simp) with rfl | rfl <;> simp

private theorem readParameters_name (name rest : List Char) (named : ParameterName name) :
    (∀ c ∈ rest.head?, c = ';' ∨ c = '=') →
    readParameters (name ++ rest) = match rest with
      | [] => .ok [⟨String.ofList name, none⟩]
      | c :: rest =>
        if c = '=' then (readParameters (readValue false rest).2).map
          (⟨String.ofList name, some (String.ofList (readValue false rest).1)⟩ :: ·)
        else (readParameters rest).map (⟨String.ofList name, none⟩ :: ·) := by
  intro stop
  obtain ⟨taken, dropped⟩ := nameStop name rest named.chars stop
  have solid : name.isEmpty = false := by simpa using named.filled
  have filled : (name ++ rest).isEmpty = false := by simp [named.filled]
  rw [readParameters, filled, taken, named.trimmed]
  simp only [Bool.false_eq_true, if_false, solid]
  split
  · rename_i last
    rw [dropped] at last
    subst rest
    simp [consMarker, solid]
  · rename_i c more next
    rw [dropped] at next
    subst rest
    dsimp only
    split
    · cases readParameters (readValue false more).2 <;> rfl
    · cases readParameters more <;> simp [consMarker, solid, bind, Except.bind, Except.map]

theorem head_written (ps : List Parameter) :
    ∀ c ∈ (ps.flatMap Parameter.written).head?, c = ';' := by
  cases ps <;> simp [Parameter.written]

theorem readParameters_valued (name s value rest : List Char) (named : ParameterName name)
    (read : readValue false s = (value, rest)) : readParameters (name ++ '=' :: s) =
      (readParameters rest).map (⟨String.ofList name, some (String.ofList value)⟩ :: ·) := by
  rw [readParameters_name name _ named (by simp)]
  simp [read]

private theorem readParameters_first (p : Parameter) (name : ParameterName p.name.toList)
    (rest : List Char) (separator : ∀ c ∈ rest.head?, c = ';') :
    readParameters (p.written ++ rest).tail = (readParameters rest.tail).map (p.kept :: ·) := by
  obtain ⟨text, value⟩ := p
  cases value with
  | none =>
    have shape : (Parameter.written ⟨text, none⟩ ++ rest).tail = text.toList ++ rest := by
      simp [Parameter.written]
    rw [shape, readParameters_name _ _ name fun c member => Or.inl (separator c member)]
    cases rest with
    | nil => simp [readParameters, Except.map, Parameter.kept]
    | cons c rest =>
      obtain rfl : c = ';' := separator c (by simp)
      simp [Parameter.kept]
  | some value =>
    have shape : (Parameter.written ⟨text, some value⟩ ++ rest).tail =
        text.toList ++ '=' :: (writeValue value.toList ++ rest) := by
      simp [Parameter.written]
    rw [shape, readParameters_valued _ _ _ _ name (readValue_written value.toList _ separator)]
    simp [Parameter.kept]

/-- Parameters in their written form read as what this form keeps of them, and what follows them is
read by itself. -/
theorem readParameters_append (ps : List Parameter) (names : ∀ p ∈ ps, ParameterName p.name.toList)
    (rest : List Char) (separator : ∀ c ∈ rest.head?, c = ';') :
    readParameters (ps.flatMap Parameter.written ++ rest).tail =
      (readParameters rest.tail).map (ps.map Parameter.kept ++ ·) := by
  induction ps with
  | nil =>
    change readParameters rest.tail = _
    cases readParameters rest.tail <;> rfl
  | cons p ps ih =>
    have head : ∀ c ∈ (ps.flatMap Parameter.written ++ rest).head?, c = ';' := by
      have own := head_written ps
      cases written : ps.flatMap Parameter.written with
      | nil => simpa using separator
      | cons d more => simpa [written] using own
    rw [List.flatMap_cons, List.append_assoc, readParameters_first p (names p (by simp)) _ head,
      ih fun q member => names q (by simp [member])]
    cases readParameters rest.tail <;> rfl

/-- An escaped value holds no double quote and no LF, and of its own only the marks of escapes. -/
theorem escapeValue_chars (s : List Char) : ∀ c ∈ escapeValue s, c ≠ '\n' ∧ c ≠ '"' ∧
    (c ∈ s ∨ c = '^' ∨ c = 'n' ∨ c = '\'') := by
  fun_induction escapeValue s with
  | case1 => simp
  | _ =>
    rename_i ih
    intro c member
    have rest := ih c
    grind

private theorem writeValue_single (s : List Char) : '\n' ∉ writeValue s := by
  have : '\n' ∉ escapeValue s := fun feed => (escapeValue_chars s '\n' feed).1 rfl
  rw [writeValue]
  split <;> simp [this]

theorem parameters_single (ps : List Parameter) (names : ∀ p ∈ ps, '\n' ∉ p.name.toList) :
    '\n' ∉ ps.flatMap Parameter.written := by
  intro feed
  obtain ⟨p, member, feed⟩ := List.mem_flatMap.mp feed
  cases value : p.value with
  | none => simp [Parameter.written, value, names p member] at feed
  | some text => simp [Parameter.written, value, names p member, writeValue_single] at feed

end CardFile.Wire
