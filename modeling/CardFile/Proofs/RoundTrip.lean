import CardFile.Proofs.Canonical
import CardFile.Proofs.OnWire

/-!
Round trips. Text that is written and read gives back the cards, and reading text agrees with
copying the records directly, except for what a line cannot hold.
-/
namespace CardFile

private theorem joinFilled_filled (separator : String) (parts : List (Option String)) :
    joinFilled separator (parts.map filled) = joinFilled separator parts := by
  rw [joinFilled, joinFilled, List.filterMap_map]
  congr 1
  apply List.filterMap_congr
  intro part _
  exact filled_filled part

namespace Name

theorem fileAs_onWire (n : Name) : n.onWire.fileAs = n.fileAs :=
  joinFilled_filled ", " [n.family, n.given]

private theorem filled_joinNonEmpty (separator : String) (parts : List String) :
    filled (joinNonEmpty separator parts) = joinNonEmpty separator parts := by
  rw [joinNonEmpty, filled_filled]

private theorem filled_joinWords (words : List String) :
    filled (joinWords words) = joinWords words :=
  filled_joinNonEmpty " " _

private theorem onWire_parseForward (fullName : String) :
    (parseForward fullName).onWire = parseForward fullName := by
  unfold parseForward
  rcases takeLeading isHonorific 1 (wordsOf fullName) with ⟨honorifics, rest⟩
  rcases takeTrailing isSuffix 1 rest with ⟨suffixes, middle⟩
  simp only [onWire, filled_joinNonEmpty, filled_joinWords]

private theorem onWire_parseReversed (family rest : String) :
    (parseReversed family rest).onWire = parseReversed family rest := by
  unfold parseReversed
  rcases takeLeading isHonorific 0 (wordsOf rest) with ⟨honorifics, words⟩
  simp only [onWire, filled_joinNonEmpty, filled_joinWords]

theorem onWire_parse (fullName : String) : (parse fullName).onWire = parse fullName := by
  rw [parse]
  split
  · split
    · exact onWire_parseForward _
    · exact onWire_parseReversed _ _
  · exact onWire_parseForward _

theorem onWire_solid (n : Name) (solid : some "" ∉ n.components) : n.onWire = n := by
  have part (text? : Option String) (member : text? ∈ n.components) : filled text? = text? :=
    filled_eq_self text? fun empty => solid (empty ▸ member)
  rw [onWire, part _ (by simp [components]), part _ (by simp [components]),
    part _ (by simp [components]), part _ (by simp [components]), part _ (by simp [components])]

end Name

theorem Address.onWire_solid (a : Address) (solid : some "" ∉ a.parts.map Prod.snd) :
    a.onWire = a := by
  have part (text? : Option String) (member : text? ∈ a.parts.map Prod.snd) :
      filled text? = text? := filled_eq_self text? fun empty => solid (empty ▸ member)
  simp only [parts, List.map_cons, List.map_nil, List.mem_cons, List.not_mem_nil, or_false] at part
  rw [onWire, part a.po (by simp), part a.ext (by simp), part a.street (by simp),
    part a.city (by simp), part a.region (by simp), part a.code (by simp), part a.country (by simp)]

theorem Arbitrary.onWire_solid (a : Arbitrary) (solid : ∀ type ∈ a.valueType,
    ∀ c ∈ type.toList, Text.isControl c = true → c = '\n') : a.onWire = a := by
  cases present : a.valueType with
  | none => rw [onWire, present, Option.map_none, ← present]
  | some type =>
    have kept : Wire.keptValue type.toList = type.toList := by
      apply List.filter_eq_self.mpr
      intro c member
      cases control : Text.isControl c with
      | false => rfl
      | true => simp [solid type present c member control]
    rw [onWire, present, Option.map_some, kept, String.ofList_toList, ← present]

private theorem Arbitrary.recovered_onWire (a : Arbitrary) :
    a.onWire.recovered = a.recovered.onWire := by
  rw [recovered, recovered, onWire, onWire]
  dsimp only
  split
  · simp [Wire.keptValue]
  · rfl

namespace Card

private theorem recovered_onWire (c : Card) : c.onWire.recovered = c.recovered.onWire := by
  simp only [recovered, onWire, List.map_map, Function.comp_def, Arbitrary.recovered_onWire]
  rfl

private theorem complete_onWire (c : Card) :
    c.onWire.complete Name.parse = (c.complete Name.parse).onWire := by
  cases name : c.name with
  | none => simp [complete, onWire, name, Name.onWire_parse]
  | some n => simp [complete, onWire, name, Name.fileAs_onWire]

/-- It makes no difference whether a card is copied before or after its lines have taken away what
they cannot hold. -/
theorem duplicate_onWire (c : Card) : c.onWire.duplicate = c.duplicate.onWire := by
  rw [duplicate_eq, duplicate_eq, recovered_onWire, complete_onWire]

private theorem first_keyed (c : Card) (keyed : ∀ a ∈ c.arbitrary, a.Keyed) :
    first c.render = c.onWire.duplicate := by
  have loaded := loadStrict_renderAll [c] (by simpa using keyed)
  rw [first, load, render, loaded]
  rfl

/-- A card that goes through text comes back as its duplicate, but for what a line cannot hold:
components that are empty are missing, and types of arbitrary entries are without their control
characters. -/
theorem first_render (c : Card) (keyed : ∀ a ∈ c.arbitrary, a.Keyed) :
    first c.render = c.duplicate.onWire := by
  rw [first_keyed c keyed, duplicate_onWire]

def emptyFamily : Card where
  id := "u"
  fullName := some "Jon"
  name := some { family := some "" }
  fileAs := some "x"
  arbitrary := [{ key := some "k", valueType := some "a\tb", value := some "v" }]

private theorem keyed_emptyFamily : ∀ a ∈ emptyFamily.arbitrary, a.Keyed := by
  intro a member
  obtain rfl := List.mem_singleton.mp member
  rintro key ⟨⟩
  exact ⟨Wire.isName_writable _ (by decide), fun _ => by decide, fun valued => absurd rfl valued⟩

theorem first_render_emptyFamily : (∀ a ∈ emptyFamily.arbitrary, a.Keyed) ∧
    first emptyFamily.render = emptyFamily.duplicate.onWire :=
  ⟨keyed_emptyFamily, first_render emptyFamily keyed_emptyFamily⟩

/-- Text does not keep an empty component apart from a missing one. -/
theorem first_render_loses : first emptyFamily.render ≠ emptyFamily.duplicate := by
  rw [first_keyed _ keyed_emptyFamily, duplicate_eq, duplicate_eq]
  intro same
  have names := congrArg Card.name same
  simp [complete, recovered, onWire, Name.onWire, filled, emptyFamily] at names

def keyedEntry (key value : String) : Card :=
  { blank with id := "u", arbitrary := [{ key := some key, value := some value }] }

/-- A double quote in a key hides the colon of its line, and the entry is lost. -/
theorem first_render_quoted :
    first (keyedEntry "k\"" "v").render = { keyedEntry "k\"" "v" with arbitrary := [] } := by
  decide +kernel

/-- A key that is the label of an encoding asks for the next line, which is that of the id. -/
theorem first_render_labelled : first (keyedEntry "QUOTED-PRINTABLE" "v=").render =
    { blank with arbitrary := [{ value := some "vUID:u" }] } := by
  decide +kernel

/-- A key without any character that has a meaning on a line, which is no label either. -/
structure SafeKey (key : String) : Prop where
  filled : key ≠ ""
  trimmed : CardFile.trimmed key = key
  chars : ∀ c ∈ key.toList,
    Text.isControl c = false ∧ c ≠ '"' ∧ c ≠ ':' ∧ c ≠ ';' ∧ c ≠ '='
  label : ∀ label ∈ ["TYPE", "QUOTED-PRINTABLE", "BASE64", "B"], sameIgnoringCase key label = false

/-- A card that text can hold as it is. -/
structure TextSafe (c : Card) : Prop extends DatesInRange c where
  fullName : c.fullName ≠ none
  name : c.name ≠ none
  fileAs : c.fileAs ≠ none
  nameComponents : ∀ n ∈ c.name, some "" ∉ n.components
  addressComponents : ∀ a ∈ c.addresses, some "" ∉ a.parts.map Prod.snd
  org : c.org ≠ some ""
  orgUnit : c.orgUnit ≠ some ""
  phones : ∀ p ∈ c.phones, p.flags.unnamed = 0
  addresses : ∀ a ∈ c.addresses, a.flags.unnamed = 0
  addressLabels : ∀ l ∈ c.addressLabels, l.flags.unnamed = 0
  categories : ∀ list ∈ c.categories, Category.Clean list
  shown : c.listShowAddresses = true → c.isMailingList = true
  useScore : c.useScore = .zero ∨ Score.ofText c.useScore.toText = c.useScore
  values : ∀ a ∈ c.arbitrary, a.value ≠ none
  types : ∀ a ∈ c.arbitrary, ∀ type ∈ a.valueType,
    ∀ c ∈ type.toList, Text.isControl c = true → c = '\n'
  keys : ∀ a ∈ c.arbitrary, ∀ key ∈ a.key, SafeKey key

private theorem keyed_safe (key : String) (safe : SafeKey key) :
    (Attribute.marker key).Writable := by
  have label := safe.label
  simp only [List.mem_cons, List.not_mem_nil, or_false, forall_eq_or_imp, forall_eq] at label
  have plain : Wire.Transfer.ofLabel key = .identity := by simp [Wire.Transfer.ofLabel, label]
  refine ⟨⟨⟨?_, ?_, ?_⟩, ?_⟩, fun _ => plain, fun valued => absurd rfl valued⟩
  · simpa [Attribute.marker] using safe.filled
  · have trimmed := congrArg String.toList safe.trimmed
    rwa [CardFile.trimmed, String.toList_ofList] at trimmed
  · intro c member
    obtain ⟨control, -, -, semicolon, equals⟩ := safe.chars c member
    refine ⟨?_, semicolon, equals⟩
    rintro rfl
    exact absurd control (by decide)
  · exact Wire.quotedAfter_name _ fun c member =>
      ⟨(safe.chars c member).2.2.1, (safe.chars c member).2.1⟩

namespace TextSafe

variable {c : Card} (safe : c.TextSafe)

include safe

private theorem keyed : ∀ a ∈ c.arbitrary, a.Keyed :=
  fun a member key present => keyed_safe key (safe.keys a member key present)

private theorem canonical : c.Canonical where
  phones := safe.phones
  addresses := safe.addresses
  addressLabels := safe.addressLabels
  categories := safe.categories
  arbitrary := fun a member => ⟨safe.values a member, fun key present =>
    (safe.keys a member key present).label "TYPE" (by simp)⟩
  fullName := safe.fullName
  name := safe.name
  fileAs := safe.fileAs
  shown := safe.shown
  birthDate := safe.birthDate
  anniversary := safe.anniversary
  lastUse := safe.lastUse
  useScore := safe.useScore

private theorem onWire_eq : c.onWire = c := by
  have name : c.name.map Name.onWire = c.name := by
    cases present : c.name with
    | none => rfl
    | some n => rw [Option.map_some, n.onWire_solid (safe.nameComponents n present)]
  have addresses : c.addresses.map Address.onWire = c.addresses :=
    map_eq_self _ _ fun a member => a.onWire_solid (safe.addressComponents a member)
  have arbitrary : c.arbitrary.map Arbitrary.onWire = c.arbitrary :=
    map_eq_self _ _ fun a member => a.onWire_solid (safe.types a member)
  rw [onWire, name, addresses, arbitrary, filled_eq_self _ safe.org, filled_eq_self _ safe.orgUnit]

end TextSafe

/-- Cards that text can hold come back from their text as they were, in the same order. -/
theorem loadStrict_textSafe (cs : List Card) (safe : ∀ c ∈ cs, c.TextSafe) :
    loadStrict (renderAll cs) = .ok cs := by
  rw [loadStrict_renderAll cs fun c member => (safe c member).keyed]
  refine congrArg _ ((List.map_congr_left fun c member => ?_).trans cs.map_id)
  rw [(safe c member).onWire_eq, duplicate_canonical c (safe c member).canonical, id_eq]

def varied : Card where
  id := "BEGIN:VCARD"
  fullName := some "Zoë\r\nEND:VCARD"
  name := some { given := some "Zo;\\ë", family := some " " }
  fileAs := some ""
  addresses := [{ street := some "1\n2", flags := ⟨33⟩ }]
  phones := [⟨⟨4097⟩, "+1"⟩]
  birthDate := some ⟨2023, 2, 31⟩
  orgUnit := some "="
  categories := some ["a,b", "\\"]
  arbitrary := [{ key := some "k 1", valueType := some "\"t\n:", value := some "" }]

private theorem safeKey_varied : SafeKey "k 1" where
  filled := by decide
  trimmed := by decide
  chars := by
    intro c member
    obtain rfl | rfl | rfl : c = 'k' ∨ c = ' ' ∨ c = '1' := by simpa using member
    all_goals decide
  label := by decide

private theorem textSafe_varied : varied.TextSafe where
  fullName := by simp [varied]
  name := by simp [varied]
  fileAs := by simp [varied]
  nameComponents := by simp [varied, Name.components]
  addressComponents := by simp [varied, Address.parts]
  org := by simp [varied]
  orgUnit := by simp [varied]
  birthDate := by
    rintro d ⟨⟩
    constructor <;> decide
  anniversary := by simp [varied]
  lastUse := by simp [varied]
  phones := by decide
  addresses := by decide
  addressLabels := by simp [varied]
  categories := by
    rintro list ⟨⟩
    constructor <;> decide
  shown := by simp [varied]
  useScore := Or.inl rfl
  values := by simp [varied]
  types := by simp [varied]; decide
  keys := by
    intro a member
    obtain rfl := List.mem_singleton.mp member
    rintro key ⟨⟩
    exact safeKey_varied

theorem loadStrict_varied : (∀ c ∈ [varied, varied], c.TextSafe) ∧
    loadStrict (renderAll [varied, varied]) = .ok [varied, varied] := by
  have safe : ∀ c ∈ [varied, varied], c.TextSafe := by simpa using textSafe_varied
  exact ⟨safe, loadStrict_textSafe _ safe⟩

end Card

end CardFile
