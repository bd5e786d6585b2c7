import CardFile.Proofs.Concatenation
import CardFile.Proofs.Document
import CardFile.Proofs.LineHead
import CardFile.Proofs.Octets

/-!
Soft line breaks. The written form of octets has none, so a line that carries it is complete. A
quoted-printable value may still be cut anywhere and go on in the next line: wherever the line
stands in a text, the cut makes no difference to the records, and in reports it counts as the line
that it adds. The one condition is that the next line can stand by itself. One that starts with a
space or a tab is not looked at as a line at all, since unfolding has joined it by then.
-/
namespace CardFile.Wire

/-- Octets in quoted-printable are read back as they were. Their written form is printable ASCII
with spaces and tabs, ends in no blank, and has `=` only where an escape starts; so the line that
carries it, whatever its parameters are, is taken in without the line after it. -/
theorem encode_unbroken (octets : List UInt8) :
    QuotedPrintable.decode (QuotedPrintable.encode octets) = octets ∧
    (∀ c ∈ QuotedPrintable.encode octets, QuotedPrintable.IsWritten c) ∧
    (∀ c ∈ (QuotedPrintable.encode octets).getLast?, c ≠ ' ' ∧ c ≠ '\t' ∧ c ≠ '=') ∧
    QuotedPrintable.EscapesOnly (QuotedPrintable.encode octets) ∧
    ∀ (record : OpenRecord) (line : ContentLine),
      record.take { line with value := QuotedPrintable.encode octets } =
        .inside (record.add { line with value := QuotedPrintable.encode octets }) := by
  refine ⟨QuotedPrintable.decode_encode octets, QuotedPrintable.encode_written octets,
    QuotedPrintable.encode_last octets, QuotedPrintable.encode_escapes octets, ?_⟩
  intro record line
  apply take_complete
  rintro ⟨-, last⟩
  exact (QuotedPrintable.encode_last octets '=' last).2.2 rfl

example : QuotedPrintable.encode [0x3D, 0x20, 0xE9, 0x20] = "=3D =E9=20".toList := by decide

/-- The head of a line whose value soft line breaks can continue. -/
structure QuotedHead (head value : List Char) : Prop where
  single : '\n' ∉ head
  read : ∃ line, ContentLine.read (head ++ ':' :: value) = .ok line ∧ line.value = value ∧
    line.isQuotedPrintable = true

private theorem parameters_quoted (line : ContentLine) (quoted : line.isQuotedPrintable = true) :
    line.parameters ≠ [] := by
  intro none
  simp [ContentLine.isQuotedPrintable, none] at quoted

/-- A line with such a head opens or closes no block, whatever its value. -/
theorem QuotedHead.boundary {head value : List Char} (headed : QuotedHead head value)
    (other : List Char) : Boundary.ofLine? (head ++ ':' :: other) = none := by
  obtain ⟨line, read, own, quoted⟩ := headed.read
  exact boundary_of_head head value line read own (parameters_quoted line quoted) other

private theorem take_soft (r : OpenRecord) (line : ContentLine) (value : List Char)
    (quoted : line.isQuotedPrintable = true) :
    r.take { line with value := value ++ ['='] } =
      .continuing r { line with value := value } := by
  have soft : ¬ContentLine.IsComplete { line with value := value ++ ['='] } :=
    not_not_intro ⟨quoted, by simp⟩
  rw [take_incomplete r _ soft]
  simp

section Lines

variable (head u v : List Char) (headed : QuotedHead head (u ++ v))
variable (content : Boundary.ofLine? v = none)

include headed content

/-- A line and its continuation leave a reader where the whole line would. -/
theorem next_softBreak (place : Place) (count : Nat) (reached : place.Reached count)
    (first second number : Nat) :
    (place.next first (head ++ ':' :: (u ++ ['=']))).next second v =
      place.next number (head ++ ':' :: (u ++ v)) := by
  obtain ⟨line, read, own, quoted⟩ := headed.read
  have boundary := headed.boundary
  cases place with
  | outside => simp [Place.next, boundary, content]
  | inside r =>
    have start : r.content (head ++ ':' :: (u ++ ['='])) =
        .continuing r { line with value := u } := by
      rw [OpenRecord.content, read_value head (u ++ v) line read own]
      exact take_soft r line u quoted
    have whole : { line with value := u ++ v } = line := by rw [← own]
    rw [next_inside _ _ (boundary _), next_inside _ _ (boundary _), start,
      next_continuing _ v content, OpenRecord.content, read]
    exact congrArg r.take whole
  | continuing r waiting =>
    -- Where another line waits, the head is only more of its value.
    have start : r.take { waiting with value := waiting.value ++ (head ++ ':' :: (u ++ ['='])) } =
        .continuing r { waiting with value := waiting.value ++ (head ++ ':' :: u) } := by
      simpa using take_soft r waiting (waiting.value ++ (head ++ ':' :: u)) reached.2
    rw [next_continuing _ _ (boundary _), next_continuing _ _ (boundary _), start,
      next_continuing _ v content]
    simp
  | skipping r block outer => simp [Place.next, boundary, content]

def insertedAfter (n line : Nat) : Nat :=
  if line ≤ n then line else line + 1

private theorem step_softBreak (s : Reader) (reached : s.place.Reached s.count) :
    (s.step (head ++ ':' :: (u ++ ['=']))).step v =
      (s.step (head ++ ':' :: (u ++ v))).renumber (insertedAfter s.count) [] := by
  have same := next_softBreak head u v headed content s.place s.count reached
  have boundary := headed.boundary
  -- The line opens no block, so that its own number is not kept, nor is that of the next line.
  have opened : (s.place.next (s.count + 1) (head ++ ':' :: (u ++ v))).Reached s.count := by
    rw [next_number _ _ (boundary _) s.count]
    exact reached_next s.count s.place s.count _ reached (Nat.le_refl _)
  have kept : ∀ n ≤ s.count, insertedAfter s.count n = n := fun n read => if_pos read
  have counted : insertedAfter s.count (s.count + 1) = s.count + 2 := if_neg (by omega)
  rw [Reader.step_content _ v content, Reader.step_content s _ (boundary _),
    Reader.step_content s _ (boundary _), Reader.renumber, counted,
    renumber_reached s.count _ _ opened kept]
  exact congrArg (Reader.mk s.records (s.count + 2)) (same _ _ _)

/-- Lines are read as with the whole line in place of a line and its continuation, but for the
numbers of the lines after them. -/
theorem readLines_softBreak (before after : List (List Char)) :
    readLines (before ++ (head ++ ':' :: (u ++ ['='])) :: v :: after) =
      (readLines (before ++ (head ++ ':' :: (u ++ v)) :: after)).mapError
        (Unclosed.renumber (insertedAfter before.length)) := by
  have reached := reached_run before .initial trivial
  have count : (before.foldl Reader.step .initial).count = before.length := by
    simpa [Reader.initial] using Reader.count_run before .initial
  have regular : ∀ n, before.length + 1 ≤ n →
      insertedAfter before.length (n + 1) = insertedAfter before.length n + 1 := by
    intro n later
    rw [insertedAfter, insertedAfter, if_neg (by omega), if_neg (by omega)]
  rw [readLines, readLines, List.foldl_append, List.foldl_append, List.foldl_cons, List.foldl_cons,
    List.foldl_cons, step_softBreak head u v headed content _ reached, count,
    Reader.run_renumber, Reader.finish_mapError]
  rw [Reader.step_eq, count]
  exact regular

end Lines

private theorem written_unbroken (s : List Char) (written : ∀ c ∈ s, QuotedPrintable.IsWritten c) :
    '\n' ∉ s ∧ '\r' ∉ s := by
  have noFeed : ¬QuotedPrintable.IsWritten '\n' := by
    unfold QuotedPrintable.IsWritten
    decide
  have noReturn : ¬QuotedPrintable.IsWritten '\r' := by
    unfold QuotedPrintable.IsWritten
    decide
  exact ⟨fun feed => noFeed (written _ feed), fun last => noReturn (written _ last)⟩

private theorem plain_headed (head whole : List Char) (headed : QuotedHead head whole)
    (value : List Char) (unbroken : '\n' ∉ value ∧ '\r' ∉ value) :
    PlainLine (head ++ ':' :: value) := by
  obtain ⟨line, read, own, quoted⟩ := headed.read
  obtain ⟨c, first, solid⟩ := head_solid head whole line read own (parameters_quoted line quoted)
  refine ⟨?_, ?_, c, by simp [Option.mem_def.mp first], solid⟩
  · intro member
    rcases List.mem_append.mp member with inHead | inValue
    · exact headed.single inHead
    · rcases List.mem_cons.mp inValue with colon | inside
      · exact absurd colon (by decide)
      · exact unbroken.1 inside
  · rw [List.getLast?_append_cons, List.getLast?_cons]
    cases last : value.getLast? with
    | none => decide
    | some d =>
      rintro ⟨⟩
      exact unbroken.2 (List.mem_of_getLast? last)

private theorem plain_written (v : List Char) (written : ∀ c ∈ v, QuotedPrintable.IsWritten c)
    (filled : v ≠ []) (start : ∀ c ∈ v.head?, c ≠ ' ' ∧ c ≠ '\t') : PlainLine v := by
  obtain ⟨noFeed, noReturn⟩ := written_unbroken v written
  obtain ⟨c, v, rfl⟩ := List.exists_cons_of_ne_nil filled
  obtain ⟨noSpace, noTab⟩ := start c rfl
  obtain ⟨low, high⟩ := (written c (by simp)).resolve_left noTab
  have other : c.toNat ≠ 0x20 := fun same => noSpace (Char.toNat_inj.mp same)
  refine ⟨noFeed, fun last => noReturn (List.mem_of_getLast? last), c, rfl, ?_⟩
  simp only [Text.isBlank, Bool.or_eq_false_iff, Bool.and_eq_false_iff, decide_eq_false_iff_not,
    beq_eq_false_iff_ne]
  omega

/-- Heads that are written with a marker are heads of quoted-printable lines. -/
theorem quotedHead_written (group : Option String) (name : String) (ps : List Parameter)
    (value : List Char) (grouped : ∀ g ∈ group, isName g.toList = true)
    (named : isName name.toList = true) (capitals : name.toList.map Char.toUpper = name.toList)
    (names : ∀ p ∈ ps, WritableName p.name.toList) (marked : ⟨"QUOTED-PRINTABLE", none⟩ ∈ ps) :
    QuotedHead (writtenGroup group ++ name.toList ++ ps.flatMap Parameter.written) value where
  single := by
    have parameters : '\n' ∉ ps.flatMap Parameter.written :=
      parameters_single ps fun p member feed => ((names p member).chars _ feed).1 rfl
    simp [group_single group grouped, isName_absent _ '\n' named (by decide), parameters]
  read := by
    refine ⟨_, read_written group name grouped named capitals ps value names, rfl, ?_⟩
    exact List.any_eq_true.mpr ⟨_, List.mem_map_of_mem marked, by decide⟩

/-- The line that is cut is plain, and so are the two lines that it is cut into. -/
private theorem plain_softBreak (head u v : List Char) (octets : List UInt8)
    (headed : QuotedHead head (u ++ v)) (encoded : QuotedPrintable.encode octets = u ++ v)
    (filled : v ≠ []) (start : ∀ c ∈ v.head?, c ≠ ' ' ∧ c ≠ '\t') :
    PlainLine (head ++ ':' :: (u ++ v)) ∧ PlainLine (head ++ ':' :: (u ++ ['='])) ∧
      PlainLine v := by
  have written : ∀ c ∈ u ++ v, QuotedPrintable.IsWritten c :=
    fun c member => QuotedPrintable.encode_written octets c (by rwa [encoded])
  have unbroken := written_unbroken _ written
  have cut : '\n' ∉ u ++ ['='] ∧ '\r' ∉ u ++ ['='] := by
    obtain ⟨noFeed, noReturn⟩ := unbroken
    rw [List.mem_append, not_or] at noFeed noReturn
    simp [noFeed.1, noReturn.1]
  exact ⟨plain_headed head _ headed _ unbroken, plain_headed head _ headed _ cut,
    plain_written v (fun c member => written c (List.mem_append_right _ member)) filled start⟩

/-- A soft line break makes no difference to the records of a text, or to the block that a text
leaves open. Where that block opens after it, the report counts one line more. -/
theorem parse_softBreak (before head u v ending after : String) (octets : List UInt8)
    (encoded : QuotedPrintable.encode octets = u.toList ++ v.toList)
    (headed : QuotedHead head.toList (u.toList ++ v.toList))
    (filled : v ≠ "") (content : Boundary.ofLine? v.toList = none)
    (start : ∀ c ∈ v.toList.head?, c ≠ ' ' ∧ c ≠ '\t')
    (around : AroundLine before.toList ending.toList after.toList) :
    parse (before ++ head ++ ":" ++ u ++ "=\r\n" ++ v ++ ending ++ after) =
      (parse (before ++ head ++ ":" ++ u ++ v ++ ending ++ after)).mapError
        (Unclosed.renumber (insertedAfter (logicalLines before.toList).length)) := by
  obtain ⟨whole, first, second⟩ := plain_softBreak head.toList u.toList v.toList octets headed
    encoded (by simpa using filled) start
  have lines := logicalLines_around _ _ _ _ whole around
  -- The text after the break starts with the second line.
  have secondLines := logicalLines_around [] _ _ _ second ⟨Or.inl rfl, around.ended, around.next⟩
  have brokenLines := logicalLines_around before.toList _ ['\r', '\n'] _ first
    ⟨around.starts, Or.inr (Or.inl rfl), second.unindented (ending.toList ++ after.toList)⟩
  rw [logicalLines_nil, List.nil_append, List.nil_append] at secondLines
  rw [secondLines] at brokenLines
  have softBreak := readLines_softBreak head.toList u.toList v.toList headed content
    (logicalLines before.toList) (logicalLines after.toList)
  rw [← lines, ← brokenLines] at softBreak
  simpa [parse] using softBreak

def octetNote (octets : List UInt8) : Property :=
  { name := "NOTE", value := some (.octets octets none) }

def noteText (value after : String) : String :=
  "BEGIN:VCARD\r\nNOTE;QUOTED-PRINTABLE:" ++ value ++ "\r\n" ++ after

private theorem noteHead_eq : "NOTE;QUOTED-PRINTABLE".toList =
    writtenGroup none ++ "NOTE".toList ++
      [Parameter.mk "QUOTED-PRINTABLE" none].flatMap Parameter.written := by
  decide

private theorem quotedHead_note (value : List Char) :
    QuotedHead "NOTE;QUOTED-PRINTABLE".toList value := by
  rw [noteHead_eq]
  exact quotedHead_written none "NOTE" _ value (by simp) (by decide) (by decide) (by decide)
    (by simp)

private theorem reads_note (value : List Char) (unbroken : '\n' ∉ value ∧ '\r' ∉ value)
    (complete : value.getLast? ≠ some '=') :
    Reads ("NOTE;QUOTED-PRINTABLE".toList ++ ':' :: value)
      (octetNote (QuotedPrintable.decode value)) where
  plain := plain_headed _ value (quotedHead_note value) value unbroken
  inner := isInner_none _ ((quotedHead_note value).boundary value)
  content := by
    have read := read_written none "NOTE" (by simp) (by decide) (by decide)
      [⟨"QUOTED-PRINTABLE", none⟩] value (by decide)
    rw [← noteHead_eq] at read
    exact ⟨_, read, fun incomplete => complete incomplete.2, rfl⟩

private theorem around_note (after : String)
    (start : ∃ c ∈ after.toList.head?, Text.isBlank c = false) :
    AroundLine "BEGIN:VCARD\r\n".toList "\r\n".toList after.toList :=
  ⟨by decide, Or.inr (Or.inl (by decide)), unindented_solid _ start⟩

private theorem parse_noteText (value after : String)
    (unbroken : '\n' ∉ value.toList ∧ '\r' ∉ value.toList)
    (start : ∃ c ∈ after.toList.head?, Text.isBlank c = false) :
    parse (noteText value after) = readLines ([beginLine] ++
      ("NOTE;QUOTED-PRINTABLE".toList ++ ':' :: value.toList) :: logicalLines after.toList) := by
  have plain := plain_headed _ value.toList (quotedHead_note value.toList) value.toList unbroken
  have lines := logicalLines_around _ _ _ _ plain (around_note after start)
  have first : logicalLines "BEGIN:VCARD\r\n".toList = [beginLine] := by decide
  rw [first] at lines
  -- The literals make the equation of `noteText` slow to prove.
  delta noteText
  rw [parse, ← lines]
  simp only [String.toList_append, List.append_assoc]
  rfl

private theorem parse_closedNote (value : String)
    (unbroken : '\n' ∉ value.toList ∧ '\r' ∉ value.toList)
    (complete : value.toList.getLast? ≠ some '=') :
    parse (noteText value "END:VCARD\r\n") =
      .ok [⟨vcard, [octetNote (QuotedPrintable.decode value.toList)]⟩] := by
  have last : logicalLines "END:VCARD\r\n".toList = [endLine] := by decide
  rw [parse_noteText value _ unbroken ⟨_, rfl, by decide⟩, last]
  have reads := reads_note value.toList unbroken complete
  exact readLines_blocks [[_]] [[_]] (.cons (.cons reads .nil) .nil)

private theorem parse_openNote (value : String)
    (unbroken : '\n' ∉ value.toList ∧ '\r' ∉ value.toList)
    (complete : value.toList.getLast? ≠ some '=') :
    parse (noteText value "BEGIN:X\r\n") = .error ⟨3, "X"⟩ := by
  have last : logicalLines "BEGIN:X\r\n".toList = ["BEGIN:X".toList] := by decide
  have reads := reads_note value.toList unbroken complete
  have run := run_reads [_] [_] (.cons reads .nil) [] 1 ⟨1, []⟩
  rw [List.foldl_cons, List.foldl_nil] at run
  rw [parse_noteText value _ unbroken ⟨_, rfl, by decide⟩, last, readLines, Reader.initial,
    List.singleton_append, List.foldl_cons, step_begin, List.foldl_cons, run]
  rfl

theorem parse_softBreak_noteText :
    QuotedPrintable.encode [0x61, 0x0D, 0x0A, 0x62] = "a=0D".toList ++ "=0Ab".toList ∧
    QuotedHead "NOTE;QUOTED-PRINTABLE".toList ("a=0D".toList ++ "=0Ab".toList) ∧
    "=0Ab" ≠ "" ∧ Boundary.ofLine? "=0Ab".toList = none ∧
    (∀ c ∈ "=0Ab".toList.head?, c ≠ ' ' ∧ c ≠ '\t') ∧
    AroundLine "BEGIN:VCARD\r\n".toList "\r\n".toList "END:VCARD\r\n".toList ∧
    parse (noteText "a=0D=\r\n=0Ab" "END:VCARD\r\n") =
      .ok [⟨vcard, [octetNote [0x61, 0x0D, 0x0A, 0x62]]⟩] := by
  have encoded : QuotedPrintable.encode [0x61, 0x0D, 0x0A, 0x62] =
      "a=0D".toList ++ "=0Ab".toList := by decide
  have headed := quotedHead_note ("a=0D".toList ++ "=0Ab".toList)
  have content : Boundary.ofLine? "=0Ab".toList = none := by decide
  have start : ∀ c ∈ "=0Ab".toList.head?, c ≠ ' ' ∧ c ≠ '\t' :=
    unindented_solid _ ⟨_, rfl, by decide⟩
  have around := around_note "END:VCARD\r\n" ⟨_, rfl, by decide⟩
  have whole := parse_closedNote "a=0D=0Ab" (by decide) (by decide)
  have cut := parse_softBreak "BEGIN:VCARD\r\n" "NOTE;QUOTED-PRINTABLE" "a=0D" "=0Ab" "\r\n"
    "END:VCARD\r\n" _ encoded headed (by decide) content start around
  have text : "BEGIN:VCARD\r\n" ++ "NOTE;QUOTED-PRINTABLE" ++ ":" ++ "a=0D" ++ "=0Ab" ++ "\r\n" ++
      "END:VCARD\r\n" = noteText "a=0D=0Ab" "END:VCARD\r\n" := by
    decide
  exact ⟨encoded, headed, by decide, content, start, around,
    cut.trans (congrArg (Except.mapError _) ((congrArg parse text).trans whole))⟩

/-- A second line that starts with a space is unfolded before soft line breaks are looked at, and
the sign of the break stays in the value. Reports count the second line. -/
theorem parse_softBreak_loses :
    (QuotedPrintable.encode [0x61] = "a".toList ∧
      QuotedPrintable.encode [0x20, 0x62] = " b".toList ∧
      QuotedPrintable.encode [0x61, 0x20, 0x62] = "a".toList ++ " b".toList ∧
      QuotedHead "NOTE;QUOTED-PRINTABLE".toList ("a".toList ++ " b".toList) ∧
      Boundary.ofLine? " b".toList = none ∧
      parse (noteText "a b" "END:VCARD\r\n") =
        .ok [⟨vcard, [octetNote [0x61, 0x20, 0x62]]⟩] ∧
      parse (noteText "a=\r\n b" "END:VCARD\r\n") =
        .ok [⟨vcard, [octetNote [0x61, 0x3D, 0x62]]⟩]) ∧
    QuotedPrintable.encode [0x61, 0x62] = "a".toList ++ "b".toList ∧
      QuotedHead "NOTE;QUOTED-PRINTABLE".toList ("a".toList ++ "b".toList) ∧
      Boundary.ofLine? "b".toList = none ∧
      parse (noteText "ab" "BEGIN:X\r\n") = .error ⟨3, "X"⟩ ∧
      parse (noteText "a=\r\nb" "BEGIN:X\r\n") = .error ⟨4, "X"⟩ := by
  have unfolded : parse (noteText "a=\r\n b" "END:VCARD\r\n") =
      parse (noteText "a=b" "END:VCARD\r\n") :=
    congrArg readLines (by decide)
  have signed := parse_closedNote "a=b" (by decide) (by decide)
  have whole := parse_openNote "ab" (by decide) (by decide)
  have cut := readLines_softBreak "NOTE;QUOTED-PRINTABLE".toList "a".toList "b".toList
    (quotedHead_note _) (by decide) [beginLine] (logicalLines "BEGIN:X\r\n".toList)
  have joined : "a".toList ++ "b".toList = "ab".toList := by decide
  rw [joined, ← parse_noteText "ab" _ (by decide) ⟨_, rfl, by decide⟩, whole] at cut
  have lines : parse (noteText "a=\r\nb" "BEGIN:X\r\n") = readLines ([beginLine] ++
      ("NOTE;QUOTED-PRINTABLE".toList ++ ':' :: ("a".toList ++ ['='])) :: "b".toList ::
        logicalLines "BEGIN:X\r\n".toList) :=
    congrArg readLines (by decide)
  exact ⟨⟨by decide, by decide, by decide, quotedHead_note _, by decide,
    parse_closedNote "a b" (by decide) (by decide), unfolded.trans signed⟩, by decide,
    quotedHead_note _, by decide, whole, lines.trans cut⟩

end CardFile.Wire
