import CardFile.Proofs.Document

/-!
Lines with several declarations of a transfer encoding. The last of them says how the value is
decoded, but any one of quoted-printable makes soft line breaks join. The two agree unless a
declaration of quoted-printable is followed by one of another encoding; then, and only then, a value
that is not decoded as quoted-printable can lose an equals sign and take in the next line.
-/
namespace CardFile.Wire

namespace Transfer

def declarations (parameters : List Parameter) : List Transfer :=
  parameters.filterMap ofParameter?

/-- Quoted-printable is declared, and another encoding after all declarations of it. -/
def Overruled (parameters : List Parameter) : Prop :=
  ∃ earlier last, declarations parameters = earlier ++ [last] ∧
    quotedPrintable ∈ earlier ∧ last ≠ quotedPrintable

theorem ofLabel_quotedPrintable (label : String) :
    ofLabel label = quotedPrintable ↔ sameIgnoringCase label "QUOTED-PRINTABLE" = true := by
  rw [ofLabel]
  split
  · simp [*]
  · split <;> simp [*]

private theorem marker_quotedPrintable (name : String) :
    ofParameter? ⟨name, none⟩ = some quotedPrintable ↔
      sameIgnoringCase name "QUOTED-PRINTABLE" = true := by
  rw [← ofLabel_quotedPrintable, ofParameter?]
  cases ofLabel name <;> simp

private theorem valued_quotedPrintable (name label : String) :
    ofParameter? ⟨name, some label⟩ = some quotedPrintable ↔
      (sameIgnoringCase name "ENCODING" && sameIgnoringCase label "QUOTED-PRINTABLE") = true := by
  rw [Bool.and_eq_true, ← ofLabel_quotedPrintable, ofParameter?]
  cases named : sameIgnoringCase name "ENCODING" <;> simp [Parameter.isNamed, named]

theorem declared_quotedPrintable (parameters : List Parameter) :
    declared parameters = quotedPrintable ↔
      (declarations parameters).getLast? = some quotedPrintable := by
  rw [declared, declarations]
  cases (parameters.filterMap ofParameter?).getLast? <;> simp

theorem overruled_iff (parameters : List Parameter) : Overruled parameters ↔
    quotedPrintable ∈ declarations parameters ∧ declared parameters ≠ quotedPrintable := by
  rw [ne_eq, declared_quotedPrintable]
  constructor
  · rintro ⟨earlier, last, whole, declared, other⟩
    rw [whole]
    exact ⟨List.mem_append_left _ declared, by simpa using other⟩
  · rintro ⟨declared, other⟩
    rcases List.eq_nil_or_concat (declarations parameters) with none | ⟨earlier, last, whole⟩
    · simp [none] at declared
    · rw [List.concat_eq_append] at whole
      rw [whole, List.getLast?_concat] at other
      rw [whole, List.mem_append, List.mem_singleton] at declared
      have other : last ≠ quotedPrintable := fun same => other (congrArg some same)
      exact ⟨earlier, last, whole, declared.resolve_right (Ne.symm other), other⟩

instance : DecidablePred Overruled := fun parameters =>
  decidable_of_iff _ (overruled_iff parameters).symm

end Transfer

/-- Soft line breaks join where any parameter declares quoted-printable. -/
theorem isQuotedPrintable_iff (line : ContentLine) : line.isQuotedPrintable = true ↔
    Transfer.quotedPrintable ∈ Transfer.declarations line.parameters := by
  rw [ContentLine.isQuotedPrintable, List.any_eq_true, Transfer.declarations, List.mem_filterMap]
  refine exists_congr fun p => and_congr_right fun _ => ?_
  obtain ⟨name, value⟩ := p
  cases value with
  | none => exact (Transfer.marker_quotedPrintable name).symm
  | some label => exact (Transfer.valued_quotedPrintable name label).symm

private theorem step_inner (s : Reader) (r : OpenRecord) (inside : s.place = .inside r)
    (text : List Char) (inner : isInner text = true) (line : ContentLine)
    (read : ContentLine.read text = .ok line) :
    s.step text = ⟨s.records, s.count + 1, r.take line⟩ := by
  obtain ⟨next, goesOn⟩ := next_inner r (s.count + 1) text inner
  have taken : r.content text = r.take line := by rw [OpenRecord.content, read]
  simp [Reader.step_eq, inside, Place.closed?, Place.next, next, goesOn, taken]

/-- Whether soft line breaks join and whether the value is decoded as quoted-printable is the same
question unless the declaration of quoted-printable is overruled. A line of a record that is not
decoded so is then read as it stands, and leaves the next line alone; where the declaration is
overruled, that is so of the values that do not end in an equals sign. -/
theorem isQuotedPrintable_iff_declared (line : ContentLine) :
    ((line.isQuotedPrintable = true ↔
        Transfer.declared line.parameters = .quotedPrintable) ↔
      ¬Transfer.Overruled line.parameters) ∧
    ∀ (s : Reader) (r : OpenRecord) (text : List Char), s.place = .inside r →
      isInner text = true → ContentLine.read text = .ok line →
      Transfer.declared line.parameters ≠ .quotedPrintable →
      (s.step text = ⟨s.records, s.count + 1, .inside (r.add line)⟩ ↔
        ¬(Transfer.Overruled line.parameters ∧ line.value.getLast? = some '=')) := by
  have overruled := Transfer.overruled_iff line.parameters
  rw [← isQuotedPrintable_iff] at overruled
  constructor
  · have decoded : Transfer.declared line.parameters = .quotedPrintable →
        line.isQuotedPrintable = true := by
      rw [Transfer.declared_quotedPrintable, isQuotedPrintable_iff]
      exact List.mem_of_getLast?
    rw [overruled]
    tauto
  · intro s r text inside inner read other
    rw [step_inner s r inside text inner line read]
    have complete : line.IsComplete ↔
        ¬(Transfer.Overruled line.parameters ∧ line.value.getLast? = some '=') := by
      rw [ContentLine.IsComplete, overruled, and_iff_left other]
    rw [← complete]
    by_cases whole : line.IsComplete
    · simp [take_complete r line whole, whole]
    · simp [take_incomplete r line whole, whole]

/-- A note in base64. The sign at its end is padding. -/
def paddedNote (parameters : List Parameter) : ContentLine :=
  ⟨none, "NOTE", parameters, "aGVsbG8=".toList⟩

theorem isQuotedPrintable_iff_declared_paddedNote :
    ContentLine.read "NOTE;BASE64:aGVsbG8=".toList = .ok (paddedNote [⟨"BASE64", none⟩]) ∧
    ¬Transfer.Overruled (paddedNote [⟨"BASE64", none⟩]).parameters ∧
    Reader.step ⟨[], 1, .inside ⟨1, []⟩⟩ "NOTE;BASE64:aGVsbG8=".toList =
      ⟨[], 2, .inside ⟨1, [(paddedNote [⟨"BASE64", none⟩]).toProperty]⟩⟩ := by
  have read : ContentLine.read "NOTE;BASE64:aGVsbG8=".toList =
      .ok (paddedNote [⟨"BASE64", none⟩]) := by
    decide +kernel
  have upheld : ¬Transfer.Overruled (paddedNote [⟨"BASE64", none⟩]).parameters := by decide
  have other : Transfer.declared (paddedNote [⟨"BASE64", none⟩]).parameters ≠ .quotedPrintable := by
    decide
  have step := (isQuotedPrintable_iff_declared _).2 ⟨[], 1, .inside ⟨1, []⟩⟩ ⟨1, []⟩ _ rfl
    (by decide) read other
  exact ⟨read, upheld, step.mpr fun overruled => upheld overruled.1⟩

/-- A note in base64 whose padding is taken for a soft line break, since quoted-printable is
declared before. The next property is lost, and so are the octets. -/
theorem padding_joined :
    ContentLine.read "NOTE;QUOTED-PRINTABLE;BASE64:aGVsbG8=".toList =
      .ok (paddedNote [⟨"QUOTED-PRINTABLE", none⟩, ⟨"BASE64", none⟩]) ∧
    (paddedNote [⟨"QUOTED-PRINTABLE", none⟩, ⟨"BASE64", none⟩]).isQuotedPrintable = true ∧
    Transfer.declared (paddedNote [⟨"QUOTED-PRINTABLE", none⟩, ⟨"BASE64", none⟩]).parameters =
      .base64 ∧
    parse "BEGIN:VCARD\r\nNOTE;QUOTED-PRINTABLE;BASE64:aGVsbG8=\r\nTEL:1\r\nEND:VCARD\r\n" =
      .ok [⟨vcard, [.ofText "NOTE" "aGVsbG8TEL:1"]⟩] ∧
    parse "BEGIN:VCARD\r\nNOTE;BASE64:aGVsbG8=\r\nTEL:1\r\nEND:VCARD\r\n" =
      .ok [⟨vcard, [{ name := "NOTE", value := some (.octets [0x68, 0x65, 0x6C, 0x6C, 0x6F] none) },
        .ofText "TEL" "1"]⟩] := by
  refine ⟨?_, ?_, ?_, ?_, ?_⟩ <;> decide +kernel

end CardFile.Wire
