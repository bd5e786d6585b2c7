import CardFile.Proofs.Recovered

/-!
Cards that are read, and cards that are their own duplicates. Reading keeps the entries of a card
sound property by property and then fills in its names; a card of that kind whose dates and score
survive their text forms is given back whole by its own properties.
-/
namespace CardFile

theorem map_eq_self {α : Type} (f : α → α) (entries : List α)
    (same : ∀ e ∈ entries, f e = e) : entries.map f = entries :=
  (List.map_congr_left same).trans entries.map_id

/-- A key that does not pass for the type of its entry. -/
def isKey (key : String) : Prop :=
  sameIgnoringCase key "TYPE" = false

namespace Arbitrary

structure Sound (a : Arbitrary) : Prop where
  value : a.value ≠ none
  key : ∀ key ∈ a.key, isKey key

theorem key_takeAttributes (P : String → Prop) (attributes : List Attribute) (entry : Arbitrary)
    (named : ∀ a ∈ attributes, isKey a.name → P a.name) (before : ∀ key ∈ entry.key, P key) :
    ∀ key ∈ (attributes.foldl takeAttribute entry).key, P key := by
  induction attributes generalizing entry with
  | nil => exact before
  | cons a attributes ih =>
    rw [List.foldl_cons]
    apply ih _ (fun b member => named b (by simp [member]))
    rw [takeAttribute]
    split
    · exact before
    · rename_i other
      intro key present
      obtain rfl : a.name = key := by simpa using present
      exact named a (by simp) (by simpa [isKey] using other)

theorem sound_ofProperty (p : Property) : (ofProperty p).Sound :=
  ⟨by simp [ofProperty], key_takeAttributes isKey p.attributes {} (fun _ _ key => key) (by simp)⟩

theorem recovered_sound (a : Arbitrary) (sound : a.Sound) : a.recovered = a := by
  obtain ⟨key, valueType, value⟩ := a
  obtain ⟨text, rfl⟩ := Option.ne_none_iff_exists'.mp sound.value
  cases key with
  | none => rfl
  | some key =>
    have plain : sameIgnoringCase key "TYPE" = false := sound.key key rfl
    simp [recovered, plain]

end Arbitrary

namespace FlagSet

private theorem bitOf?_bound (table : FlagTable) (marker : String) (bit : Nat)
    (found : bitOf? table marker = some bit) : bit < table.names.length := by
  rw [bitOf?, List.findIdx?_eq_some_iff_getElem] at found
  exact found.1

private theorem bitsOf_bound (table : FlagTable) (a : Attribute) :
    ∀ bit ∈ bitsOf table a, bit < table.names.length := by
  intro bit member
  rw [bitsOf] at member
  split at member
  · exact bitOf?_bound table a.name bit (Option.mem_toList.mp member)
  · split at member
    · obtain ⟨token, -, found⟩ := List.mem_filterMap.mp member
      exact bitOf?_bound table _ bit found
    · simp at member

theorem unnamed_ofAttributes (table : FlagTable) (attributes : List Attribute) :
    (ofAttributes attributes : FlagSet table).unnamed = 0 := by
  have bound : (ofAttributes attributes : FlagSet table).bits < 2 ^ table.names.length := by
    apply Nat.lt_pow_two_of_testBit
    intro i beyond
    rw [Bool.eq_false_iff]
    intro set
    obtain ⟨a, -, member⟩ := (testBit_ofAttributes attributes i).mp set
    exact absurd (bitsOf_bound table a i member) (Nat.not_lt.mpr beyond)
  rw [unnamed, Nat.shiftRight_eq_div_pow, Nat.div_eq_of_lt bound, Nat.zero_shiftLeft]

end FlagSet

namespace Card

structure Sound (c : Card) : Prop where
  phones : ∀ p ∈ c.phones, p.flags.unnamed = 0
  addresses : ∀ a ∈ c.addresses, a.flags.unnamed = 0
  addressLabels : ∀ l ∈ c.addressLabels, l.flags.unnamed = 0
  categories : ∀ list ∈ c.categories, Category.Clean list
  arbitrary : ∀ a ∈ c.arbitrary, a.Sound

/-- A card as reading makes them. -/
structure Decoded (c : Card) : Prop extends Sound c where
  fullName : c.fullName ≠ none
  name : c.name ≠ none
  fileAs : c.fileAs ≠ none
  shown : c.listShowAddresses = true → c.isMailingList = true

structure DatesInRange (c : Card) : Prop where
  birthDate : ∀ d ∈ c.birthDate, d.InRange
  anniversary : ∀ d ∈ c.anniversary, d.InRange
  lastUse : ∀ d ∈ c.lastUse, d.InRange

/-- A card as reading makes them, whose dates are in range and whose score survives its text. -/
structure Canonical (c : Card) : Prop extends Decoded c, DatesInRange c where
  useScore : c.useScore = .zero ∨ Score.ofText c.useScore.toText = c.useScore

private theorem sound_empty : Sound {} := by
  constructor <;> simp

private theorem forall_append {α : Type} {P : α → Prop} {entries : List α} {entry : α}
    (all : ∀ e ∈ entries, P e) (new : P entry) : ∀ e ∈ entries ++ [entry], P e := by
  intro e member
  rcases List.mem_append.mp member with old | last
  · exact all e old
  · rwa [List.mem_singleton.mp last]

private theorem sound_put (c : Card) (f : Field) (p : Property) (sound : Sound c) :
    Sound (c.put f p) := by
  obtain ⟨phones, addresses, addressLabels, categories, arbitrary⟩ := sound
  cases f with
  | phone =>
    refine ⟨forall_append phones ?_, addresses, addressLabels, categories, arbitrary⟩
    exact FlagSet.unnamed_ofAttributes phoneTable p.attributes
  | address =>
    refine ⟨phones, forall_append addresses ?_, addressLabels, categories, arbitrary⟩
    exact FlagSet.unnamed_ofAttributes addressTable p.attributes
  | addressLabel =>
    refine ⟨phones, addresses, forall_append addressLabels ?_, categories, arbitrary⟩
    exact FlagSet.unnamed_ofAttributes addressTable p.attributes
  | categories =>
    rw [put]
    split
    · rename_i text _
      refine ⟨phones, addresses, addressLabels, ?_, arbitrary⟩
      have before : Category.Clean (c.categories.getD []) := by
        cases present : c.categories with
        | none => exact Category.clean_nil
        | some list => exact categories list present
      simpa using Category.clean_addAll _ text before
    · exact ⟨phones, addresses, addressLabels, categories, arbitrary⟩
  | arbitrary =>
    refine ⟨phones, addresses, addressLabels, categories, forall_append arbitrary ?_⟩
    exact Arbitrary.sound_ofProperty p
  | _ => exact ⟨phones, addresses, addressLabels, categories, arbitrary⟩

theorem sound_take (c : Card) (p : Property) (sound : Sound c) : Sound (c.take p) := by
  rw [take]
  split
  · exact sound_put c _ p sound
  · exact sound

theorem sound_foldl (c : Card) (ps : List Property) (sound : Sound c) :
    Sound (ps.foldl take c) := by
  induction ps generalizing c with
  | nil => exact sound
  | cons p ps ih => exact ih (c.take p) (sound_take c p sound)

/-- Whatever a record holds, the card that is read from it is sound and has its names. -/
theorem decoded_ofRecord (r : Record) : (ofRecord r).Decoded := by
  obtain ⟨phones, addresses, addressLabels, categories, arbitrary⟩ :=
    sound_foldl {} r.properties sound_empty
  refine ⟨⟨phones, addresses, addressLabels, categories, arbitrary⟩, ?_, ?_, ?_, ?_⟩
  all_goals simp [ofRecord, ofRecordWith, complete]

theorem loadStrict_records (text : String) (cs : List Card) (loaded : loadStrict text = .ok cs) :
    ∃ rs, Wire.parse text = .ok rs ∧ cs = rs.map ofRecord := by
  rw [loadStrict] at loaded
  cases parsed : Wire.parse text with
  | error e =>
    rw [parsed] at loaded
    cases loaded
  | ok rs =>
    rw [parsed] at loaded
    exact ⟨rs, rfl, (Except.ok.inj loaded).symm⟩

private theorem map_clamp (date? : Option Date) (range : ∀ d ∈ date?, d.InRange) :
    date?.map Date.clamp = date? := by
  cases date? with
  | none => rfl
  | some d => rw [Option.map_some, Date.clamp_inRange d (range d rfl)]

theorem recovered_canonical (c : Card) (canonical : c.Canonical) : c.recovered = c := by
  have phones : c.phones.map Phone.known = c.phones :=
    map_eq_self _ _ fun p member => by
      rw [Phone.known, FlagSet.known_eq _ (canonical.phones p member)]
  have addresses : c.addresses.map Address.known = c.addresses :=
    map_eq_self _ _ fun a member => by
      rw [Address.known, FlagSet.known_eq _ (canonical.addresses a member)]
  have addressLabels : c.addressLabels.map AddressLabel.known = c.addressLabels :=
    map_eq_self _ _ fun l member => by
      rw [AddressLabel.known, FlagSet.known_eq _ (canonical.addressLabels l member)]
  have arbitrary : c.arbitrary.map Arbitrary.recovered = c.arbitrary :=
    map_eq_self _ _ fun a member => a.recovered_sound (canonical.arbitrary a member)
  have categories : (c.categories.map fun list => list.foldl Category.add []) = c.categories := by
    cases present : c.categories with
    | none => rfl
    | some list =>
      rw [Option.map_some, Category.foldl_add_clean [] list (canonical.categories list present)]
      rfl
  have useScore : c.useScore.recovered = c.useScore := by
    rw [Score.recovered]
    split
    · rename_i zero
      exact zero.symm
    · rename_i written
      exact canonical.useScore.resolve_left written
  have shown : (c.listShowAddresses && c.isMailingList) = c.listShowAddresses := by
    cases hidden : c.listShowAddresses with
    | false => rfl
    | true => rw [canonical.shown hidden, Bool.and_self]
  rw [recovered, phones, addresses, addressLabels, arbitrary, categories, useScore, shown,
    map_clamp _ canonical.birthDate, map_clamp _ canonical.anniversary,
    map_clamp _ canonical.lastUse]

theorem complete_decoded (c : Card) (parseName : String → Name) (decoded : c.Decoded) :
    c.complete parseName = c := by
  obtain ⟨fullName, hasFullName⟩ := Option.ne_none_iff_exists'.mp decoded.fullName
  obtain ⟨name, hasName⟩ := Option.ne_none_iff_exists'.mp decoded.name
  obtain ⟨fileAs, hasFileAs⟩ := Option.ne_none_iff_exists'.mp decoded.fileAs
  have shown : (c.listShowAddresses && c.isMailingList) = c.listShowAddresses := by
    cases hidden : c.listShowAddresses with
    | false => rfl
    | true => rw [decoded.shown hidden, Bool.and_self]
  rw [complete, shown, hasFullName, hasName, hasFileAs, Option.getD_some, Option.getD_some,
    Option.getD_some, ← hasFullName, ← hasName, ← hasFileAs]

/-- A canonical card is its own duplicate. -/
theorem duplicate_canonical (c : Card) (canonical : c.Canonical) : c.duplicate = c := by
  rw [duplicate_eq, recovered_canonical c canonical, complete_decoded c _ canonical.toDecoded]

end Card

end CardFile
