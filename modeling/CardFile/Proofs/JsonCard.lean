import CardFile.Card.Encode
import CardFile.Command.Run
import CardFile.Proofs.Canonical
import CardFile.Proofs.FlagText
import CardFile.Proofs.JsonMember
import CardFile.Proofs.JsonScore

/-!
Cards read back from their JSON. Everything that reading a record can put on a card has a member
that gives it back, the score apart: what comes back for it is what JSON reads from its numeral, and
an infinite score has none.
-/
namespace CardFile

open Json (Member Fault isWritten_text)
open Json.Member

namespace Date

structure Fits (d : Date) : Prop where
  year : -0x80000000 ≤ d.year ∧ d.year < 0x80000000
  month : -0x80000000 ≤ d.month ∧ d.month < 0x80000000
  day : -0x80000000 ≤ d.day ∧ d.day < 0x80000000

private theorem number_few (octets : List UInt8) (few : octets.length ≤ 4) :
    -0x80000000 ≤ number octets ∧ number octets < 0x80000000 := by
  have bounds := number_bounds octets
  have power : 10 ^ octets.length ≤ 10000 := Nat.pow_le_pow_right (by decide) few
  omega

theorem fits_parse (s : String) : (parse s).Fits := by
  rw [parse]
  split
  · exact ⟨number_few _ (by simp), number_few _ (by simp), number_few _ (by simp)⟩
  · exact ⟨number_few _ (by simp), number_few _ (by simp), number_few _ (by simp)⟩
  · exact ⟨by simp, by simp, by simp⟩

end Date

private theorem map_ok {α β : Type} (f : α → β) (a : α) :
    (Except.ok a : Except Fault α).map f = .ok (f a) :=
  rfl

private theorem bind_ok {α β : Type} (f : α → Except Fault β) (a : α) :
    (Except.ok a >>= f) = f a :=
  rfl

private theorem name_written (n : Name) : ∀ m ∈ Name.members, (m.write n).IsWritten := by
  simp only [Name.members, List.forall_mem_cons, write_text, isWritten_text, true_and]
  simp

theorem Name.ofJson_toJson (n : Name) : ofJson n.toJson = .ok n := by
  rw [ofJson, toJson, Json.asMembers_ofMembers members (by decide) n {} (name_written n)]
  simp only [members, List.foldlM_cons, List.foldlM_nil, write_text, read_text, bind_ok]
  rfl

private theorem date_written (d : Date) : ∀ m ∈ Date.members, (m.write d).IsWritten := by
  have number (i : Int) : (Json.ofInt i).IsWritten := .number _ (Numeral.isWritten_ofInt i)
  simp only [Date.members, List.forall_mem_cons, write_field, number, true_and]
  simp

theorem Date.ofJson_toJson (d : Date) (fits : d.Fits) : ofJson d.toJson = .ok d := by
  rw [ofJson, toJson, Json.asMembers_ofMembers members (by decide) d _ (date_written d)]
  simp only [members, List.foldlM_cons, List.foldlM_nil, write_field, read_field, bind_ok, map_ok,
    Json.asInt32_ofInt _ fits.year.1 fits.year.2, Json.asInt32_ofInt _ fits.month.1 fits.month.2,
    Json.asInt32_ofInt _ fits.day.1 fits.day.2]
  rfl

theorem FlagSet.ofJson_toJson {table : FlagTable} (legible : table.Legible) (f : FlagSet table)
    (named : f.unnamed = 0) : ofJson f.toJson = .ok f := by
  rw [ofJson, toJson, Json.asString, bind_ok, ofText?_toText legible f named]

private theorem flags_written {table : FlagTable} (f : FlagSet table) : f.toJson.IsWritten :=
  .string _

private theorem address_written (a : Address) : ∀ m ∈ Address.members, (m.write a).IsWritten := by
  simp only [Address.members, List.forall_mem_cons, write_text, write_field, isWritten_text,
    flags_written, true_and]
  simp

theorem Address.ofJson_toJson (a : Address) (named : a.flags.unnamed = 0) :
    ofJson a.toJson = .ok a := by
  rw [ofJson, toJson, Json.asMembers_ofMembers members (by decide) a {} (address_written a)]
  simp only [members, List.foldlM_cons, List.foldlM_nil, write_text, read_text, write_field,
    read_field, bind_ok, map_ok, a.flags.ofJson_toJson addressTable_legible named]
  rfl

private theorem label_written (l : AddressLabel) :
    ∀ m ∈ AddressLabel.members, (m.write l).IsWritten := by
  simp only [AddressLabel.members, List.forall_mem_cons, write_field, flags_written, true_and]
  simp [Json.IsWritten.string]

theorem AddressLabel.ofJson_toJson (l : AddressLabel) (named : l.flags.unnamed = 0) :
    ofJson l.toJson = .ok l := by
  rw [ofJson, toJson, Json.asMembers_ofMembers members (by decide) l _ (label_written l)]
  simp only [members, List.foldlM_cons, List.foldlM_nil, write_field, read_field, bind_ok, map_ok,
    l.flags.ofJson_toJson addressTable_legible named, Json.asString]
  rfl

private theorem phone_written (p : Phone) : ∀ m ∈ Phone.members, (m.write p).IsWritten := by
  simp only [Phone.members, List.forall_mem_cons, write_field, flags_written, true_and]
  simp [Json.IsWritten.string]

theorem Phone.ofJson_toJson (p : Phone) (named : p.flags.unnamed = 0) :
    ofJson p.toJson = .ok p := by
  rw [ofJson, toJson, Json.asMembers_ofMembers members (by decide) p _ (phone_written p)]
  simp only [members, List.foldlM_cons, List.foldlM_nil, write_field, read_field, bind_ok, map_ok,
    p.flags.ofJson_toJson phoneTable_legible named, Json.asString]
  rfl

private theorem arbitrary_written (a : Arbitrary) :
    ∀ m ∈ Arbitrary.members, (m.write a).IsWritten := by
  simp only [Arbitrary.members, List.forall_mem_cons, write_text, isWritten_text, true_and]
  simp

theorem Arbitrary.ofJson_toJson (a : Arbitrary) : ofJson a.toJson = .ok a := by
  rw [ofJson, toJson, Json.asMembers_ofMembers members (by decide) a {} (arbitrary_written a)]
  simp only [members, List.foldlM_cons, List.foldlM_nil, write_text, read_text, bind_ok]
  rfl

namespace Card

structure DatesFit (c : Card) : Prop where
  birthDate : ∀ d ∈ c.birthDate, d.Fits
  anniversary : ∀ d ∈ c.anniversary, d.Fits
  lastUse : ∀ d ∈ c.lastUse, d.Fits

private theorem fits_orElse (p : Property) (date? : Option Date) (before : ∀ d ∈ date?, d.Fits) :
    ∀ d ∈ (p.date? <|> date?), d.Fits := by
  rw [Property.date?]
  cases p.text? with
  | none => exact before
  | some text =>
    rintro d ⟨⟩
    exact Date.fits_parse text

private theorem datesFit_take (c : Card) (p : Property) (fit : DatesFit c) :
    DatesFit (c.take p) := by
  obtain ⟨birthDate, anniversary, lastUse⟩ := fit
  rw [take]
  split
  · rename_i field _
    cases field with
    | birthDate => exact ⟨fits_orElse p _ birthDate, anniversary, lastUse⟩
    | anniversary => exact ⟨birthDate, fits_orElse p _ anniversary, lastUse⟩
    | lastUse => exact ⟨birthDate, anniversary, fits_orElse p _ lastUse⟩
    | categories =>
      rw [put]
      split <;> exact ⟨birthDate, anniversary, lastUse⟩
    | _ => exact ⟨birthDate, anniversary, lastUse⟩
  · exact ⟨birthDate, anniversary, lastUse⟩

theorem datesFit_ofRecord (r : Record) : DatesFit (ofRecord r) := by
  have fit (ps : List Property) (c : Card) (fit : DatesFit c) : DatesFit (ps.foldl take c) := by
    induction ps generalizing c with
    | nil => exact fit
    | cons p ps ih => exact ih (c.take p) (datesFit_take c p fit)
  obtain ⟨birthDate, anniversary, lastUse⟩ := fit r.properties {} (by constructor <;> simp)
  exact ⟨birthDate, anniversary, lastUse⟩

private theorem isWritten_texts (l : List String) : (Json.ofList Json.string l).IsWritten :=
  Json.isWritten_ofList _ l fun s _ => .string s

private theorem card_written (c : Card) : ∀ m ∈ members, (m.write c).IsWritten := by
  have name := Json.isWritten_ofOption Name.toJson c.name fun n _ =>
    Json.isWritten_ofMembers _ n (name_written n)
  have date (d? : Option Date) := Json.isWritten_ofOption Date.toJson d? fun d _ =>
    Json.isWritten_ofMembers _ d (date_written d)
  have addresses := Json.isWritten_ofList Address.toJson c.addresses fun a _ =>
    Json.isWritten_ofMembers _ a (address_written a)
  have labels := Json.isWritten_ofList AddressLabel.toJson c.addressLabels fun l _ =>
    Json.isWritten_ofMembers _ l (label_written l)
  have phones := Json.isWritten_ofList Phone.toJson c.phones fun p _ =>
    Json.isWritten_ofMembers _ p (phone_written p)
  have arbitrary := Json.isWritten_ofList Arbitrary.toJson c.arbitrary fun a _ =>
    Json.isWritten_ofMembers _ a (arbitrary_written a)
  have categories := Json.isWritten_ofOption _ c.categories fun l _ => isWritten_texts l
  have wantsHtml := Json.isWritten_ofOption Json.bool c.wantsHtml fun b _ => .bool b
  have truth (b : Bool) := Json.IsWritten.bool b
  have text (s : String) := Json.IsWritten.string s
  simp only [members, listMember, List.forall_mem_cons, write_text, write_field, write_optional,
    isWritten_text, isWritten_texts, Score.isWritten_toJson, text, truth, wantsHtml, categories,
    name, date, addresses, labels, phones, arbitrary, true_and]
  simp

private theorem asList_same {α : Type} (write : α → Json) (read : Json → Except Fault α)
    (l : List α) (each : ∀ a ∈ l, read (write a) = .ok a) :
    Json.asList read (Json.ofList write l) = .ok l := by
  rw [Json.asList_ofList, Json.mapM_eq_self]
  exact each

/-- What is read from the JSON of a card is the card, with the score that is read. -/
theorem ofJson_toJson (c : Card) (sound : c.Sound) (fit : c.DatesFit) : ofJson c.toJson =
    (Json.asScore c.useScore.toJson).map fun s => { c with useScore := s } := by
  have phones := asList_same _ _ c.phones fun p member => p.ofJson_toJson (sound.phones p member)
  have addresses := asList_same _ _ c.addresses fun a member =>
    a.ofJson_toJson (sound.addresses a member)
  have labels := asList_same _ _ c.addressLabels fun l member =>
    l.ofJson_toJson (sound.addressLabels l member)
  have arbitrary := asList_same _ _ c.arbitrary fun a _ => a.ofJson_toJson
  have texts (l : List String) := asList_same Json.string Json.asString l fun _ _ => rfl
  have date (d? : Option Date) (fits : ∀ d ∈ d?, d.Fits) :=
    Json.asOption_ofOption Date.toJson Date.ofJson d? fun d member =>
      ⟨d.ofJson_toJson (fits d member), by simp [Date.toJson, Json.ofMembers]⟩
  have name := Json.asOption_ofOption Name.toJson Name.ofJson c.name fun n _ =>
    ⟨n.ofJson_toJson, by simp [Name.toJson, Json.ofMembers]⟩
  have categories := Json.asOption_ofOption (.ofList .string) (Json.asList Json.asString)
    c.categories fun l _ => ⟨texts l, by simp [Json.ofList]⟩
  have wantsHtml := Json.asOption_ofOption .bool Json.asBool c.wantsHtml fun b _ => ⟨rfl, by simp⟩
  rw [ofJson, toJson, Json.asMembers_ofMembers members (by decide) c {} (card_written c)]
  simp only [members, listMember, List.foldlM_cons, List.foldlM_nil, write_text, read_text,
    write_field, read_field, write_optional, read_optional, bind_ok, map_ok, phones, addresses,
    labels, arbitrary, texts, name, date _ fit.birthDate, date _ fit.anniversary,
    date _ fit.lastUse, categories, wantsHtml, Json.asString, Json.asBool]
  cases Json.asScore c.useScore.toJson <;> rfl

private theorem readText_render {α : Type} (read : Json → Except Fault α) (pretty : Bool) (j : Json)
    (written : j.IsWritten) : readText read (j.render pretty ++ "\n") = read j := by
  rw [readText, Json.read_render pretty j written]
  dsimp only
  cases read j <;> rfl

/-- Of a list of cards that was read, the JSON gives each card back with the score that is read. -/
theorem listOfJsonText_decodeOutput (text : String) (cs : List Card)
    (loaded : loadStrict text = .ok cs) (pretty : Bool) :
    listOfJsonText (Command.decodeOutput .json pretty cs) = cs.mapM fun c =>
      (Json.asScore c.useScore.toJson).map fun s => { c with useScore := s } := by
  obtain ⟨rs, -, rfl⟩ := loadStrict_records text cs loaded
  have written := Json.isWritten_ofList toJson (rs.map ofRecord) fun c _ =>
    Json.isWritten_ofMembers members c (card_written c)
  have each : ∀ c ∈ rs.map ofRecord, ofJson c.toJson =
      (Json.asScore c.useScore.toJson).map fun s => { c with useScore := s } := by
    intro c member
    obtain ⟨r, -, rfl⟩ := List.mem_map.mp member
    exact (ofRecord r).ofJson_toJson (decoded_ofRecord r).toSound (datesFit_ofRecord r)
  rw [listOfJsonText, Command.decodeOutput, readText_render _ pretty _ written, Json.asList_ofList]
  exact Json.mapM_congr _ _ _ each

theorem listOfJsonText_decodeOutput_iff (text : String) (cs : List Card)
    (loaded : loadStrict text = .ok cs) (pretty : Bool) :
    listOfJsonText (Command.decodeOutput .json pretty cs) = .ok cs ↔
      ∀ c ∈ cs, c.useScore.isFinite = true ∧
        Json.asScore c.useScore.toJson = .ok c.useScore := by
  rw [listOfJsonText_decodeOutput text cs loaded pretty, Json.mapM_eq_self]
  refine forall₂_congr fun c _ => ⟨fun back => ?_, fun ⟨_, same⟩ => by rw [same]; rfl⟩
  have same : Json.asScore c.useScore.toJson = .ok c.useScore := by
    cases read : Json.asScore c.useScore.toJson with
    | error fault =>
      rw [read] at back
      cases back
    | ok s =>
      rw [read] at back
      exact congrArg (Except.ok ∘ useScore) (Except.ok.inj back)
  refine ⟨?_, same⟩
  by_contra infinite
  rw [c.useScore.asScore_infinite infinite] at same
  cases same

/-- Cards whose scores have few digits are read back as they are. -/
theorem listOfJsonText_short (text : String) (cs : List Card) (loaded : loadStrict text = .ok cs)
    (pretty : Bool) (short : ∀ c ∈ cs, c.useScore.IsShort) :
    listOfJsonText (Command.decodeOutput .json pretty cs) = .ok cs := by
  rw [listOfJsonText_decodeOutput text cs loaded pretty, Json.mapM_eq_self]
  intro c member
  rw [Score.asScore_toJson c.useScore (short c member)]
  rfl

private def scoredText (score : String) : String :=
  "BEGIN:VCARD\r\nUID:u\r\nFN:Jon \"J\" Smith\r\nTEL;HOME;CELL:1\r\nBDAY:1990-01-02\r\n" ++
    "X-EVOLUTION-USE-SCORE:" ++ score ++ "\r\nEND:VCARD\r\n"

private def scoredCard (score : Score) : Card where
  id := "u"
  fileAs := some "Smith, Jon"
  fullName := some "Jon \"J\" Smith"
  name := some { given := some "Jon", additional := some "\"J\"", family := some "Smith" }
  phones := [⟨⟨0x44⟩, "1"⟩]
  birthDate := some ⟨1990, 1, 2⟩
  useScore := score

theorem listOfJsonText_decodeOutput_iff_scored :
    loadStrict (scoredText "1.5") = .ok [scoredCard (.ofQuotient 3 2)] ∧
    listOfJsonText (Command.decodeOutput .json true [scoredCard (.ofQuotient 3 2)]) =
      .ok [scoredCard (.ofQuotient 3 2)] := by
  have loaded : loadStrict (scoredText "1.5") = .ok [scoredCard (.ofQuotient 3 2)] := by
    decide +kernel
  refine ⟨loaded, (listOfJsonText_decodeOutput_iff _ _ loaded true).mpr ?_⟩
  simp only [List.mem_singleton, forall_eq]
  decide +kernel

/-- A score that overflows is infinite, and a list with it is not read back. -/
theorem listOfJsonText_infinite :
    loadStrict (scoredText "1e999") = .ok [scoredCard .infinity] ∧
    listOfJsonText (Command.decodeOutput .json false [scoredCard .infinity]) =
      .error .mismatch := by
  have loaded : loadStrict (scoredText "1e999") = .ok [scoredCard .infinity] := by decide +kernel
  refine ⟨loaded, ?_⟩
  rw [listOfJsonText_decodeOutput _ _ loaded false]
  decide +kernel

end Card

end CardFile
