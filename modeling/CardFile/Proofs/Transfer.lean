import CardFile.Proofs.ContentLine
import CardFile.Proofs.Octets
import CardFile.Wire.Writer
import Mathlib.Data.List.Infix

/-!
Values in transfer. A text that a content line cannot hold is sent as octets, octets go through
quoted-printable with the label of their charset before them, and either way the value is read
back. Parameters of other meanings do not disturb this; a label that cannot stand on a line as it
is would.
-/
namespace CardFile.Wire

/-- A parameter that declares neither a transfer encoding nor a charset. -/
structure OrdinaryParameter (p : Parameter) : Prop where
  marker : p.value = none → Transfer.ofLabel p.name = .identity
  valued : p.value ≠ none → p.isNamed "ENCODING" = false ∧ p.isNamed "CHARSET" = false

instance (p : Parameter) : Decidable (OrdinaryParameter p) :=
  decidable_of_iff ((p.value = none → Transfer.ofLabel p.name = .identity) ∧
    (p.value ≠ none → p.isNamed "ENCODING" = false ∧ p.isNamed "CHARSET" = false))
    ⟨fun ⟨marker, valued⟩ => ⟨marker, valued⟩,
      fun ordinary => ⟨ordinary.marker, ordinary.valued⟩⟩

namespace OrdinaryParameter

theorem kept {p : Parameter} (ordinary : OrdinaryParameter p) : OrdinaryParameter p.kept := by
  obtain ⟨name, value⟩ := p
  cases value with
  | none => exact ordinary
  | some value => exact ⟨by simp [Parameter.kept], fun _ => ordinary.valued (by simp)⟩

theorem transfer {p : Parameter} (ordinary : OrdinaryParameter p) :
    Transfer.ofParameter? p = none := by
  obtain ⟨name, value⟩ := p
  cases value with
  | none => simp [Transfer.ofParameter?, ordinary.marker rfl]
  | some value => simp [Transfer.ofParameter?, (ordinary.valued (by simp)).1]

theorem charset {p : Parameter} (ordinary : OrdinaryParameter p) : charsetOf? p = none := by
  obtain ⟨name, value⟩ := p
  cases value with
  | none => simp [charsetOf?]
  | some value => simp [charsetOf?, (ordinary.valued (by simp)).2]

theorem asAttribute {p : Parameter} (ordinary : OrdinaryParameter p) :
    attributeOf? p = some { name := p.name, value := p.value.map .text } := by
  simp [attributeOf?, ordinary.transfer, ordinary.charset]

end OrdinaryParameter

section Ordinary

variable (ps : List Parameter) (ordinary : ∀ p ∈ ps, OrdinaryParameter p)

include ordinary

theorem attributes_ordinary :
    ps.filterMap attributeOf? = ps.map fun p => { name := p.name, value := p.value.map .text } := by
  rw [← List.filterMap_eq_map]
  exact List.filterMap_congr fun p member => (ordinary p member).asAttribute

theorem declared_ordinary (others : List Parameter) :
    Transfer.declared (ps ++ others) = Transfer.declared others := by
  have none : ps.filterMap Transfer.ofParameter? = [] :=
    List.filterMap_eq_nil_iff.mpr fun p member => (ordinary p member).transfer
  rw [Transfer.declared, List.filterMap_append, none, List.nil_append, Transfer.declared]

theorem declaredCharset_ordinary (others : List Parameter) :
    declaredCharset (ps ++ others) = declaredCharset others := by
  have none : ps.filterMap charsetOf? = [] :=
    List.filterMap_eq_nil_iff.mpr fun p member => (ordinary p member).charset
  rw [declaredCharset, List.filterMap_append, none, List.nil_append, declaredCharset]

end Ordinary

/-- The value that a text is read as. A text that a content line cannot hold is sent as octets. -/
def transferValue (s : List Char) : Value :=
  if needsQuotedPrintable s then
    .octets (Text.Utf8.encode s) (if isAscii s then none else some "UTF-8")
  else .text (String.ofList s)

/-- Whatever way a text is sent, it arrives. -/
theorem toText_transferValue (s : List Char) : (transferValue s).toText = String.ofList s := by
  have unlabelled : Text.decodeLabelled none (Text.Utf8.encode s) = String.ofList s := by
    simp [Text.decodeLabelled, Text.Charset.decode, Text.Utf8.decode_encode]
  have labelled : Text.decodeLabelled (some "UTF-8") (Text.Utf8.encode s) = String.ofList s :=
    unlabelled
  cases quoted : needsQuotedPrintable s <;> cases ascii : isAscii s <;>
    simp [transferValue, Value.toText, quoted, ascii, unlabelled, labelled]

theorem toProperty_group (line : ContentLine) : line.toProperty.group = line.group := by
  rw [ContentLine.toProperty]
  split <;> rfl

theorem toProperty_name (line : ContentLine) : line.toProperty.name = line.name := by
  rw [ContentLine.toProperty]
  split <;> rfl

/-- A content line whose value is not continued on the next line. -/
def ContentLine.IsComplete (line : ContentLine) : Prop :=
  ¬(line.isQuotedPrintable = true ∧ line.value.getLast? = some '=')

private theorem ordinary_notQuoted (line : ContentLine)
    (ordinary : ∀ p ∈ line.parameters, OrdinaryParameter p) : line.isQuotedPrintable = false := by
  rw [ContentLine.isQuotedPrintable, List.any_eq_false]
  intro p member
  obtain ⟨name, value⟩ := p
  cases value with
  | none =>
    have label := (ordinary _ member).marker rfl
    intro quoted
    have same : sameIgnoringCase name "QUOTED-PRINTABLE" = true := quoted
    simp [Transfer.ofLabel, same] at label
  | some label => simp [((ordinary _ member).valued (by simp)).1]

/-- A label of a charset that stands on a line as it is: nothing in it ends the parameter or the
line, and nothing is taken for a quote or an escape. A label that comes back as another, as `^^`
does, is shut out also where neither means a charset and the text would be the same. -/
structure PlainLabel (label : List Char) : Prop where
  chars : ∀ c ∈ label, c ≠ '\n' ∧ c ≠ '"' ∧ c ≠ ';' ∧ c ≠ ':'
  carets : ∀ c ∈ ['n', '\'', '^'], ¬['^', c] <:+: label

instance (label : List Char) : Decidable (PlainLabel label) :=
  decidable_of_iff ((label.all fun c => c != '\n' && c != '"' && c != ';' && c != ':') ∧
    ['n', '\'', '^'].all fun c => ¬['^', c] <:+: label)
    ⟨fun ⟨chars, carets⟩ => ⟨by simpa [and_assoc] using chars, by simpa using carets⟩,
      fun plain => ⟨by simpa [and_assoc] using plain.chars, by simpa using plain.carets⟩⟩

private theorem readValue_plain (c : Char) (rest : List Char) (noQuote : c ≠ '"')
    (noSemicolon : c ≠ ';') (noEscape : c = '^' → ∀ d ∈ rest.head?, d ∉ ['n', '\'', '^']) :
    readValue false (c :: rest) = consValue c (readValue false rest) := by
  rw [readValue.eq_def]
  split <;> simp_all

/-- A label that can stand on a line is read up to the next separator. -/
theorem readValue_label (label rest : List Char) (plain : PlainLabel label)
    (separator : ∀ c ∈ rest.head?, c = ';') :
    readValue false (label ++ rest) = (label, rest.tail) := by
  induction label with
  | nil =>
    cases rest with
    | nil => rfl
    | cons c rest =>
      obtain rfl : c = ';' := separator c (by simp)
      simp [readValue]
  | cons c label ih =>
    have others : PlainLabel label :=
      ⟨fun d member => plain.chars d (by simp [member]),
        fun d escape inside => plain.carets d escape (inside.trans (List.suffix_cons c _).isInfix)⟩
    obtain ⟨-, noQuote, noSemicolon, -⟩ := plain.chars c (by simp)
    -- The separator may follow a caret that ends the label, and makes no escape with it.
    have noEscape : c = '^' → ∀ d ∈ (label ++ rest).head?, d ∉ ['n', '\'', '^'] := by
      rintro rfl d head escape
      cases label with
      | nil =>
        obtain rfl : d = ';' := separator d (by simpa using head)
        simp at escape
      | cons e label =>
        obtain rfl : e = d := by simpa using head
        exact plain.carets e escape ⟨[], label, by simp⟩
    rw [List.cons_append, readValue_plain c _ noQuote noSemicolon noEscape, ih others]
    rfl

namespace Payload

/-- A payload is read as a value, if ordinary parameters are all that stands before it: its own
parameters are used up, and its value is not continued on the next line. -/
structure Carries (payload : Payload) (ps : List Parameter) (v : Value) : Prop where
  separator : ∀ c ∈ payload.parameters.head?, c = ';'
  closed : quotedAfter false payload.parameters = some false
  single : '\n' ∉ payload.parameters
  held : ∀ c ∈ payload.value, c = '\t' ∨ Text.isControl c = false
  read : readParameters payload.parameters.tail = .ok ps
  consumed : ps.filterMap attributeOf? = []
  complete (group : Option String) (name : String) (own : List Parameter)
    (ordinary : ∀ p ∈ own, OrdinaryParameter p) :
    ContentLine.IsComplete ⟨group, name, own ++ ps, payload.value⟩
  decoded (group : Option String) (name : String) (own : List Parameter)
    (ordinary : ∀ p ∈ own, OrdinaryParameter p) :
    ContentLine.decodedValue ⟨group, name, own ++ ps, payload.value⟩ = v

def octetParameters (charset : Option String) : List Parameter :=
  (charset.map fun label => ⟨"CHARSET", some label⟩).toList ++ [⟨"QUOTED-PRINTABLE", none⟩]

section Octets

variable (charset : Option String) (plain : ∀ label ∈ charset, PlainLabel label.toList)

private theorem unlabelled (bytes : List UInt8) :
    (ofOctets bytes none).parameters = ";QUOTED-PRINTABLE".toList :=
  rfl

private theorem labelled (bytes : List UInt8) (label : String) :
    (ofOctets bytes (some label)).parameters =
      ";CHARSET=".toList ++ (label.toList ++ ";QUOTED-PRINTABLE".toList) :=
  List.append_assoc _ _ _

private theorem read_marker :
    readParameters ";QUOTED-PRINTABLE".toList.tail = .ok [⟨"QUOTED-PRINTABLE", none⟩] := by
  have name := isName_writable "QUOTED-PRINTABLE".toList (by decide)
  have none : readParameters [] = .ok [] := by simp [readParameters]
  have read := readParameters_append [⟨"QUOTED-PRINTABLE", .none⟩]
    (fun p member => List.mem_singleton.mp member ▸ name.toParameterName) [] (by simp)
  rw [List.append_nil, List.tail_nil, none] at read
  exact read

private theorem parameter_charset (label : String) :
    Transfer.ofParameter? ⟨"CHARSET", some label⟩ = none ∧
      charsetOf? ⟨"CHARSET", some label⟩ = some label := by
  have other : sameIgnoringCase "CHARSET" "ENCODING" = false := by decide
  have own : sameIgnoringCase "CHARSET" "CHARSET" = true := by decide
  simp [Transfer.ofParameter?, charsetOf?, Parameter.isNamed, other, own]

private theorem parameter_marker :
    Transfer.ofParameter? ⟨"QUOTED-PRINTABLE", none⟩ = some .quotedPrintable ∧
      charsetOf? ⟨"QUOTED-PRINTABLE", none⟩ = none := by
  decide

private theorem declared_octets :
    Transfer.declared (octetParameters charset) = .quotedPrintable ∧
      declaredCharset (octetParameters charset) = charset := by
  cases charset <;>
    simp [Transfer.declared, declaredCharset, octetParameters, parameter_charset, parameter_marker]

private theorem octets_consumed : (octetParameters charset).filterMap attributeOf? = [] := by
  cases charset <;> simp [octetParameters, attributeOf?, parameter_charset, parameter_marker]

private theorem head_marker : ∀ c ∈ ";QUOTED-PRINTABLE".toList.head?, c = ';' := by
  simp

private theorem octets_separator (bytes : List UInt8) :
    ∀ c ∈ (ofOctets bytes charset).parameters.head?, c = ';' := by
  have word : ";CHARSET=".toList = ';' :: "CHARSET=".toList := by decide
  cases charset with
  | none => exact head_marker
  | some label =>
    rw [labelled, word]
    simp

include plain

private theorem octets_closed (bytes : List UInt8) :
    quotedAfter false (ofOctets bytes charset).parameters = some false := by
  have word : quotedAfter false ";CHARSET=".toList = some false := by decide
  have marker : quotedAfter false ";QUOTED-PRINTABLE".toList = some false := by decide
  cases charset with
  | none => rw [unlabelled, marker]
  | some label =>
    have own := quotedAfter_name label.toList fun c member =>
      ⟨((plain label rfl).chars c member).2.2.2, ((plain label rfl).chars c member).2.1⟩
    simp only [labelled, quotedAfter_append, word, own, marker, Option.bind_some]

private theorem octets_single (bytes : List UInt8) :
    '\n' ∉ (ofOctets bytes charset).parameters := by
  have word : '\n' ∉ ";CHARSET=".toList := by decide
  have marker : '\n' ∉ ";QUOTED-PRINTABLE".toList := by decide
  cases charset with
  | none => rwa [unlabelled]
  | some label =>
    have own : '\n' ∉ label.toList := fun feed => ((plain label rfl).chars '\n' feed).1 rfl
    simp only [labelled, List.mem_append, word, own, marker, or_self, not_false_eq_true]

private theorem octets_read (bytes : List UInt8) :
    readParameters (ofOctets bytes charset).parameters.tail = .ok (octetParameters charset) := by
  cases charset with
  | none => rw [unlabelled, read_marker, octetParameters, Option.map_none, Option.toList_none,
      List.nil_append]
  | some label =>
    have word := isName_writable "CHARSET".toList (by decide)
    have value := readValue_label label.toList ";QUOTED-PRINTABLE".toList (plain label rfl)
      head_marker
    have read := readParameters_valued _ _ _ _ word.toParameterName value
    rw [read_marker] at read
    have tail : (";CHARSET=".toList ++ (label.toList ++ ";QUOTED-PRINTABLE".toList)).tail =
        "CHARSET".toList ++ '=' :: (label.toList ++ ";QUOTED-PRINTABLE".toList) := by
      have split : ";CHARSET=".toList = ';' :: ("CHARSET".toList ++ ['=']) := by decide
      rw [split, List.cons_append, List.tail_cons, List.append_assoc, List.singleton_append]
    rw [labelled, tail, read, String.ofList_toList, String.ofList_toList]
    rfl

theorem carries_octets (bytes : List UInt8) :
    (ofOctets bytes charset).Carries (octetParameters charset) (.octets bytes charset) where
  separator := octets_separator charset bytes
  closed := octets_closed charset plain bytes
  single := octets_single charset plain bytes
  held := by
    intro c member
    rcases QuotedPrintable.encode_written bytes c member with tab | ⟨low, high⟩
    · exact Or.inl tab
    · apply Or.inr
      simp only [Text.isControl, Bool.or_eq_false_iff, Bool.and_eq_false_iff,
        decide_eq_false_iff_not]
      omega
  read := octets_read charset plain bytes
  consumed := octets_consumed charset
  complete := by
    rintro group name own ordinary ⟨-, last⟩
    exact (QuotedPrintable.encode_last bytes '=' last).2.2 rfl
  decoded := by
    intro group name own ordinary
    obtain ⟨transfer, label⟩ := declared_octets charset
    rw [ContentLine.decodedValue, declared_ordinary own ordinary, transfer]
    simp only [declaredCharset_ordinary own ordinary, label]
    exact congrArg (Value.octets · charset) (QuotedPrintable.decode_encode bytes)

end Octets

private theorem carries_plain (s : List Char) (plain : needsQuotedPrintable s = false) :
    Carries ⟨[], s⟩ [] (.text (String.ofList s)) where
  separator := by simp
  closed := rfl
  single := by simp
  held := by
    intro c member
    simp only [needsQuotedPrintable, List.any_eq_false, Bool.and_eq_true, bne_iff_ne, ne_eq,
      not_and, not_not] at plain
    by_cases control : Text.isControl c = true
    · exact Or.inl (plain c member control)
    · exact Or.inr (by simpa using control)
  read := by simp [readParameters]
  consumed := rfl
  complete := by
    rintro group name own ordinary ⟨quoted, -⟩
    rw [List.append_nil, ordinary_notQuoted _ ordinary] at quoted
    contradiction
  decoded := by
    intro group name own ordinary
    rw [ContentLine.decodedValue, declared_ordinary own ordinary]
    rfl

/-- Any text is carried. -/
theorem carries_text (s : List Char) : ∃ ps, (ofText s).Carries ps (transferValue s) := by
  rw [ofText, transferValue]
  cases needs : needsQuotedPrintable s with
  | false => exact ⟨[], carries_plain s needs⟩
  | true =>
    refine ⟨_, carries_octets _ ?_ _⟩
    intro label member
    obtain rfl : label = "UTF-8" := by
      cases ascii : isAscii s <;> simp_all
    decide

end Payload

/-- A value that its line can hold: the label of its charset, if there is one, stands there as it
is. -/
def Sendable : Value → Prop
  | .text _ => True
  | .octets _ charset => ∀ label ∈ charset, PlainLabel label.toList

instance (v : Value) : Decidable (Sendable v) :=
  match v with
  | .text _ => isTrue trivial
  | .octets _ charset => inferInstanceAs (Decidable (∀ label ∈ charset, PlainLabel label.toList))

def received : Value → Value
  | .text s => transferValue s.toList
  | .octets bytes charset => .octets bytes charset

theorem toText_received (v : Value) : (received v).toText = v.toText := by
  cases v with
  | text s =>
    rw [received, toText_transferValue, String.ofList_toList]
    rfl
  | octets => rfl

end CardFile.Wire
