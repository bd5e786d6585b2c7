import CardFile.Proofs.ReadNames
import CardFile.Proofs.RoundTrip
import CardFile.Proofs.SameLines
import CardFile.Proofs.ScoreText

/-!
Texts in normal form. The cards of a text, written and read again, are the same up to what their
lines hold of them, and after that nothing changes any more. Scores and keys that have no text to
come back from are left out, and are lost.
-/
namespace CardFile

theorem Name.onWire_onWire (n : Name) : n.onWire.onWire = n.onWire := by
  simp only [onWire, filled_filled]

theorem Address.onWire_onWire (a : Address) : a.onWire.onWire = a.onWire := by
  simp only [onWire, filled_filled]

theorem Arbitrary.onWire_onWire (a : Arbitrary) : a.onWire.onWire = a.onWire := by
  obtain ⟨key, valueType, value⟩ := a
  cases valueType <;> simp [onWire, Wire.keptValue]

namespace Card

theorem onWire_onWire (c : Card) : c.onWire.onWire = c.onWire := by
  simp only [onWire, filled_filled, Option.map_map, List.map_map, Function.comp_def,
    Name.onWire_onWire, Address.onWire_onWire, Arbitrary.onWire_onWire]

theorem canonical_onWire (c : Card) (canonical : c.Canonical) : c.onWire.Canonical where
  phones := canonical.phones
  addresses := by
    intro a member
    obtain ⟨b, stored, rfl⟩ := List.mem_map.mp member
    exact canonical.addresses b stored
  addressLabels := canonical.addressLabels
  categories := canonical.categories
  arbitrary := by
    intro a member
    obtain ⟨b, stored, rfl⟩ := List.mem_map.mp member
    exact ⟨(canonical.arbitrary b stored).value, (canonical.arbitrary b stored).key⟩
  fullName := canonical.fullName
  name := by simpa [onWire] using canonical.name
  fileAs := canonical.fileAs
  shown := canonical.shown
  birthDate := canonical.birthDate
  anniversary := canonical.anniversary
  lastUse := canonical.lastUse
  useScore := canonical.useScore

private theorem keyed_onWire (c : Card) (keyed : ∀ a ∈ c.arbitrary, a.Keyed) :
    ∀ a ∈ c.onWire.arbitrary, a.Keyed := by
  intro a member
  obtain ⟨b, stored, rfl⟩ := List.mem_map.mp member
  exact keyed b stored

/-- A card whose dates, score and keys have texts to come back from. A key is written as it is, so
its double quotes must come in pairs around its colons, and it must be no label of an encoding. -/
structure Writable (c : Card) : Prop extends DatesInRange c where
  useScore : c.useScore.isFinite = true
  keys : ∀ a ∈ c.arbitrary, ∀ key ∈ a.key,
    Wire.quotedAfter false key.toList = some false ∧ Wire.Transfer.ofLabel key = .identity

section Loaded

variable (text : String) (cs : List Card) (loaded : loadStrict text = .ok cs)
variable (writable : ∀ c ∈ cs, c.Writable)

include loaded writable

private theorem canonical_loaded : ∀ c ∈ cs, c.Canonical := by
  intro c member
  have decoded : c.Decoded := by
    obtain ⟨rs, -, rfl⟩ := loadStrict_records text cs loaded
    obtain ⟨r, -, rfl⟩ := List.mem_map.mp member
    exact decoded_ofRecord r
  have written := (Score.ofText_toText_iff c.useScore).mpr (writable c member).useScore
  exact ⟨decoded, (writable c member).toDatesInRange, Or.inr written⟩

private theorem keyed_loaded : ∀ c ∈ cs, ∀ a ∈ c.arbitrary, a.Keyed := by
  intro c member a stored key present
  obtain ⟨quotes, plain⟩ := (writable c member).keys a stored key present
  have name := keys_loadStrict text cs loaded c member a stored key present
  exact ⟨⟨name, quotes⟩, fun _ => plain, fun valued => absurd rfl valued⟩

/-- The cards of a text come back from their own text as their lines hold them, and from then on
as they are. The text itself is settled at once unless a structured value has nothing but empty
components. -/
theorem loadStrict_loaded : loadStrict (renderAll cs) = .ok (cs.map onWire) ∧
    loadStrict (renderAll (cs.map onWire)) = .ok (cs.map onWire) ∧
    ((∀ c ∈ cs, c.Steady) → renderAll (cs.map onWire) = renderAll cs) := by
  have canonical := canonical_loaded text cs loaded writable
  have keyed := keyed_loaded text cs loaded writable
  have again : ∀ c ∈ cs.map onWire, ∀ a ∈ c.arbitrary, a.Keyed := by
    intro c member
    obtain ⟨d, stored, rfl⟩ := List.mem_map.mp member
    exact keyed_onWire d (keyed d stored)
  refine ⟨?_, ?_, renderAll_onWire cs⟩
  · rw [loadStrict_renderAll cs keyed]
    refine congrArg _ (List.map_congr_left fun c member => ?_)
    exact duplicate_canonical _ (canonical_onWire c (canonical c member))
  · rw [loadStrict_renderAll _ again, List.map_map]
    refine congrArg _ (List.map_congr_left fun c member => ?_)
    rw [Function.comp, onWire_onWire]
    exact duplicate_canonical _ (canonical_onWire c (canonical c member))

end Loaded

/-- A text with an odd date, a score, and an entry whose type a line cannot hold; a parameter takes
the place of the family name. -/
def mixedText : String :=
  "begin:vcard\r\nFN:Jon Smith\r\nN;F:Smith;Jon\r\nBDAY:2023-02-31\r\n" ++
    "X-EVOLUTION-LAST-USE:2024-01-01\r\nX-EVOLUTION-USE-SCORE:1.5\r\n" ++
    "X-EVOLUTION-ARBITRARY;k 1;TYPE=a\tb:v\r\nEND:VCARD\r\n"

def mixedCard : Card where
  fullName := some "Jon Smith"
  name := some { family := some "", given := some "Jon" }
  fileAs := some "Jon"
  birthDate := some ⟨2023, 2, 31⟩
  lastUse := some ⟨2024, 1, 1⟩
  useScore := .ofQuotient 3 2
  arbitrary := [{ key := some "k 1", valueType := some "a\tb", value := some "v" }]

private theorem writable_mixedCard : mixedCard.Writable where
  birthDate := by
    rintro d ⟨⟩
    constructor <;> decide
  anniversary := by rintro d ⟨⟩
  lastUse := by
    rintro d ⟨⟩
    constructor <;> decide
  useScore := by decide +kernel
  keys := by
    intro a stored
    obtain rfl := List.mem_singleton.mp stored
    rintro key ⟨⟩
    decide

theorem loadStrict_loaded_mixedText : loadStrict mixedText = .ok [mixedCard] ∧
    (∀ c ∈ [mixedCard], c.Writable) ∧
    loadStrict (renderAll [mixedCard]) = .ok ([mixedCard].map onWire) ∧
    loadStrict (renderAll ([mixedCard].map onWire)) = .ok ([mixedCard].map onWire) ∧
    ((∀ c ∈ [mixedCard], c.Steady) →
      renderAll ([mixedCard].map onWire) = renderAll [mixedCard]) := by
  have loaded : loadStrict mixedText = .ok [mixedCard] := by decide +kernel
  have writable : ∀ c ∈ [mixedCard], c.Writable := by simpa using writable_mixedCard
  exact ⟨loaded, writable, loadStrict_loaded mixedText _ loaded writable⟩

/-- An infinite score is written as a word that no number is read from. -/
theorem loadStrict_unbounded :
    loadStrict "BEGIN:VCARD\r\nX-EVOLUTION-USE-SCORE:1e999\r\nEND:VCARD\r\n" =
      .ok [{ blank with useScore := .infinity }] ∧
    loadStrict (renderAll [{ blank with useScore := .infinity }]) = .ok [blank] := by
  decide +kernel

/-- Keys that a text does not keep, as in `first_render_quoted` and `first_render_labelled`, are
read where they have values. -/
theorem loadStrict_keyedEntry :
    loadStrict "BEGIN:VCARD\r\nUID:u\r\nX-EVOLUTION-ARBITRARY;k\"=x\":v\r\nEND:VCARD\r\n" =
      .ok [keyedEntry "k\"" "v"] ∧
    loadStrict
      "BEGIN:VCARD\r\nUID:u\r\nX-EVOLUTION-ARBITRARY;QUOTED-PRINTABLE=x:v=\r\nEND:VCARD\r\n" =
      .ok [keyedEntry "QUOTED-PRINTABLE" "v="] := by
  decide +kernel

def doubledFamily : String :=
  "BEGIN:VCARD\r\nN;F:Smith;Jon\r\nEND:VCARD\r\n"

/-- The name in that text. Its first family name is the parameter, and empty. -/
def doubledName : Property where
  name := "N"
  attributes := [.marker "F", .ofText "F" "Smith", .ofText "G" "Jon"]

private theorem reads_doubledName : Wire.Reads "N;F:Smith;Jon".toList doubledName where
  plain := ⟨by decide, by decide, 'N', rfl, by decide⟩
  inner := by decide
  content := by
    have names : ∀ p ∈ [Wire.Parameter.mk "F" none], Wire.WritableName p.name.toList := by
      simpa using Wire.isName_writable ['F'] (by decide)
    have read := Wire.read_written none "N" (by simp) (by decide) (by decide)
      [⟨"F", none⟩] "Smith;Jon".toList names
    exact ⟨_, read, fun ⟨quoted, _⟩ => absurd quoted (by decide), by decide⟩

def doubledCard : Card :=
  ofRecord ⟨Wire.vcard, [doubledName]⟩

private theorem dates_doubledCard : doubledCard.DatesInRange := by
  constructor <;> rintro d ⟨⟩

private theorem loadStrict_doubledFamily : loadStrict doubledFamily = .ok [doubledCard] := by
  have parsed := Wire.parse_blocks [["N;F:Smith;Jon".toList]] [[doubledName]]
    (.cons (.cons reads_doubledName .nil) .nil)
  have text : String.ofList (([["N;F:Smith;Jon".toList]].flatMap Wire.block).flatMap Wire.fold) =
      doubledFamily := by
    decide
  rw [text] at parsed
  rw [loadStrict, parsed]
  rfl

/-- A component that is read as empty is missing the next time. -/
theorem loadStrict_loses : loadStrict doubledFamily = .ok [doubledCard] ∧
    (∀ c ∈ [doubledCard], c.DatesInRange) ∧
    loadStrict (renderAll [doubledCard]) ≠ .ok [doubledCard] := by
  refine ⟨loadStrict_doubledFamily, by simpa using dates_doubledCard, fun same => ?_⟩
  have keyed : ∀ c ∈ [doubledCard], ∀ a ∈ c.arbitrary, a.Keyed := by
    intro c member
    obtain rfl := List.mem_singleton.mp member
    exact fun a stored => nomatch stored
  rw [loadStrict_renderAll _ keyed] at same
  have cards := Except.ok.inj same
  rw [List.map_singleton, duplicate_onWire] at cards
  have names := congrArg Card.name (List.singleton_inj.mp cards)
  have family : doubledCard.name.bind Name.family = some "" := by decide
  rw [← names] at family
  obtain ⟨n, written, empty⟩ := Option.bind_eq_some_iff.mp family
  have held : doubledCard.duplicate.name.map Name.onWire = some n := written
  obtain ⟨m, -, rfl⟩ := Option.map_eq_some_iff.mp held
  exact filled_solid m.family empty

end Card

end CardFile
