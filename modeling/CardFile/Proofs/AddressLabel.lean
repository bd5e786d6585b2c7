import CardFile.Proofs.AddressLayout

/-!
Addresses that come back from their own labels. The label of such an address has a layout in which
each part stands on its own line, but for the locality; there the comma ends the city, and the words
with digits at the end are the code.
-/
namespace CardFile.Address

structure Solid (s : String) : Prop where
  filled : s ≠ ""
  trimmed : CardFile.trimmed s = s

private theorem solid_iff (s : String) :
    Solid s ↔ s.toList ≠ [] ∧ Text.trim s.toList = s.toList := by
  have trimmed : CardFile.trimmed s = s ↔ Text.trim s.toList = s.toList := by
    rw [CardFile.trimmed, ← String.toList_inj, String.toList_ofList]
  have filled : s ≠ "" ↔ s.toList ≠ [] := by simp
  rw [← trimmed, ← filled]
  exact ⟨fun solid => ⟨solid.filled, solid.trimmed⟩, fun both => ⟨both.1, both.2⟩⟩

/-- An address whose parts can be told apart on its label: it has a street that is no box, or a box
alone, and a city without comma, before a region that ends without a digit or a code that has digits
in all of its words. -/
structure Canonical (a : Address) : Prop where
  unbroken : ∀ part ∈ [a.po, a.ext, a.street, a.city, a.region, a.code, a.country],
    ∀ text ∈ part, '\n' ∉ text.toList
  body :
    (a.po = none ∧ (∃ street, a.street = some street ∧ Solid street ∧
      isPostBox street.toList = false) ∧
      ∀ ext ∈ a.ext, Solid ext ∧ isPostBox ext.toList = false) ∨
    (∃ po, a.po = some po ∧ trimmed po = po ∧ isPostBox po.toList = true) ∧
      a.street = none ∧ a.ext = none
  city : ∃ city, a.city = some city ∧ Solid city ∧ ',' ∉ city.toList
  located : a.region.isSome = true ∨ a.code.isSome = true
  region : ∀ region ∈ a.region, region ≠ "" ∧ Spaced region ∧
    ∀ word ∈ (wordsOf region).getLast?, hasDigit word.toList = false
  code : ∀ code ∈ a.code, code ≠ "" ∧ Spaced code ∧
    ∀ word ∈ wordsOf code, hasDigit word.toList = true
  country : ∀ country ∈ a.country, Solid country ∧ hasDigit country.toList = false ∧
    ',' ∉ country.toList

private theorem trim_dropCarriageReturn (line : List Char) :
    Text.trim (Text.dropCarriageReturn line) = Text.trim line := by
  rw [Text.dropCarriageReturn]
  split
  · rename_i last
    rcases List.eq_nil_or_concat line with rfl | ⟨front, c, rfl⟩
    · rfl
    · rw [List.concat_eq_append, List.getLast?_concat, Option.some_inj] at last
      rw [List.concat_eq_append, List.dropLast_concat, last,
        Text.trim_concat front '\r' (by decide)]
  · rfl

/-- Returns before line feeds are blanks at the ends of lines, and go with them. -/
theorem labelLines_eq (text : List Char) : labelLines text =
    ((text.splitOn '\n').map Text.trim).filter fun line => !line.isEmpty := by
  rw [labelLines, Text.lines]
  rcases List.eq_nil_or_concat (text.splitOn '\n') with none | ⟨front, last, parts⟩
  · exact absurd none (List.splitOn_ne_nil _ _)
  · simp only [parts, List.concat_eq_append, List.dropLast_concat, List.getLast?_concat,
      List.map_append, List.map_map, List.filter_append, Function.comp_def, trim_dropCarriageReturn]
    congr 1
    by_cases empty : last = []
    · simp [empty, Text.trim, Text.dropWhileEnd]
    · simp [empty]

theorem labelLines_joined (lines : List (List Char))
    (solid : ∀ line ∈ lines, line ≠ [] ∧ Text.trim line = line ∧ '\n' ∉ line) :
    labelLines (['\n'].intercalate lines) = lines := by
  rw [labelLines_eq]
  cases lines with
  | nil => rfl
  | cons first others =>
    rw [List.splitOn_intercalate '\n' (fun line member => (solid line member).2.2)
      (List.cons_ne_nil first others)]
    have trimmed : (first :: others).map Text.trim = first :: others :=
      (List.map_congr_left fun line member => (solid line member).2.1).trans (List.map_id _)
    rw [trimmed, List.filter_eq_self]
    intro line member
    simpa using (solid line member).1

def regionAndCode (a : Address) : String :=
  joinFilled " " [a.region, a.code]

def localityLine (a : Address) : String :=
  joinFilled ", " [a.city, some a.regionAndCode]

def labelTexts (a : Address) : List String :=
  a.street.toList ++ (a.ext.toList ++ (a.po.toList ++ a.localityLine :: a.country.toList))

def layout (a : Address) : Layout :=
  { front := (a.street.toList ++ a.ext.toList).map String.toList
    box := a.po.map String.toList
    back := []
    locality := some a.localityLine.toList
    country := a.country.map String.toList }

private theorem rdropWhile_append (p : List Char → Bool) (front back : List (List Char))
    (all : ∀ word ∈ back, p word = true) (stop : ∀ word ∈ front.getLast?, p word = false) :
    (front ++ back).rdropWhile p = front ∧ (front ++ back).rtakeWhile p = back := by
  have dropped : (front ++ back).rdropWhile p = front := by
    induction back using List.reverseRecOn with
    | nil =>
      rw [List.append_nil, List.rdropWhile_eq_self_iff]
      intro some
      simp [stop _ (List.getLast?_eq_some_getLast some)]
    | append_singleton back word ih =>
      rw [← List.append_assoc, List.rdropWhile_concat_pos _ _ _ (all word (by simp))]
      exact ih fun word member => all word (List.mem_append_left _ member)
  have whole : (front ++ back).rdropWhile p ++ (front ++ back).rtakeWhile p = front ++ back :=
    List.rdropWhile_append_rtakeWhile
  rw [dropped] at whole
  exact ⟨dropped, List.append_cancel_left whole⟩

private theorem lines_layout (a : Address) : a.layout.lines = a.labelTexts.map String.toList := by
  simp [Layout.lines, Layout.body, layout, labelTexts, Option.toList_map]

theorem words_regionAndCode (a : Address) : wordsOf a.regionAndCode =
    wordsOf (a.region.getD "") ++ wordsOf (a.code.getD "") := by
  rw [regionAndCode, wordsOf_joinFilled]
  simp

section Canonical

variable (a : Address) (canonical : a.Canonical)

include canonical

private theorem spaced_regionAndCode : Spaced a.regionAndCode := by
  apply spaced_joinFilled
  intro part member
  have spaced : ∀ text ∈ part, Spaced text := by
    rcases List.mem_cons.mp member with rfl | member
    · exact fun text given => (canonical.region text given).2.1
    · obtain rfl := List.mem_singleton.mp member
      exact fun text given => (canonical.code text given).2.1
  cases part with
  | none => rw [Option.getD_none, Spaced, wordsOf_empty, String.intercalate_nil]
  | some text => exact spaced text rfl

private theorem filled_regionAndCode : a.regionAndCode ≠ "" := by
  intro empty
  have words := words_regionAndCode a
  rw [empty, wordsOf_empty, eq_comm, List.append_eq_nil_iff] at words
  rcases canonical.located with present | present
  · obtain ⟨region, given⟩ := Option.isSome_iff_exists.mp present
    obtain ⟨filled, spaced, -⟩ := canonical.region region given
    rw [given, Option.getD_some] at words
    exact wordsOf_filled region spaced filled words.1
  · obtain ⟨code, given⟩ := Option.isSome_iff_exists.mp present
    obtain ⟨filled, spaced, -⟩ := canonical.code code given
    rw [given, Option.getD_some] at words
    exact wordsOf_filled code spaced filled words.2

private theorem localityLine_eq (city : String) (given : a.city = some city) (filled : city ≠ "") :
    a.localityLine.toList = city.toList ++ (',' :: ' ' :: a.regionAndCode.toList) := by
  have rest := filled_regionAndCode a canonical
  have separator : ", ".toList = [',', ' '] := rfl
  rw [localityLine, given, joinFilled]
  simp [CardFile.filled, filled, rest, separator]

private theorem digits_code :
    ∀ word ∈ wordsOf (a.code.getD ""), hasDigit word.toList = true := by
  cases given : a.code with
  | none => simp
  | some code => exact (canonical.code code given).2.2

private theorem noDigit_region :
    ∀ word ∈ (wordsOf (a.region.getD "")).getLast?, hasDigit word.toList = false := by
  cases given : a.region with
  | none => simp
  | some region => exact (canonical.region region given).2.2

private theorem splitLocality_line :
    splitLocality a.localityLine.toList = (a.city, a.region, a.code) := by
  obtain ⟨city, given, solid, noComma⟩ := canonical.city
  have cityKept : filled (some (String.ofList (Text.trim city.toList))) = some city := by
    have trimmed : String.ofList (Text.trim city.toList) = city := solid.trimmed
    rw [trimmed, filled_some city solid.filled]
  have halves : (Text.words a.regionAndCode.toList).map String.ofList =
      wordsOf (a.region.getD "") ++ wordsOf (a.code.getD "") := words_regionAndCode a
  obtain ⟨front, back, words, ofRegion, ofCode⟩ := List.map_eq_append_iff.mp halves
  have digits : ∀ word ∈ back, hasDigit word = true := by
    intro word member
    have inCode := ofCode ▸ List.mem_map_of_mem (f := String.ofList) member
    simpa using digits_code a canonical _ inCode
  have noDigit : ∀ word ∈ front.getLast?, hasDigit word = false := by
    intro word member
    have last := noDigit_region a canonical (String.ofList word)
    rw [← ofRegion, List.getLast?_map, Option.mem_def.mp member] at last
    simpa using last
  have parts := rdropWhile_append hasDigit front back digits noDigit
  have regionKept := joinNonEmpty_words a.region fun region present =>
    ⟨(canonical.region region present).1, (canonical.region region present).2.1⟩
  have codeKept := joinNonEmpty_words a.code fun code present =>
    ⟨(canonical.code code present).1, (canonical.code code present).2.1⟩
  rw [localityLine_eq a canonical city given solid.filled, splitLocality_comma _ _ noComma,
    headWords, codeWords, Text.words_cons ' ' _ (by decide), words, parts.1, parts.2, joinedWords,
    joinedWords, ofRegion, ofCode, cityKept, regionKept, codeKept, given]

private theorem settled_layout : a.layout.Settled where
  front := by
    intro line member
    obtain ⟨text, present, rfl⟩ := List.mem_map.mp member
    rcases canonical.body with ⟨-, ⟨street, given, -, plain⟩, exts⟩ | ⟨-, street, ext⟩
    · rw [given, List.mem_append, Option.mem_toList, Option.mem_toList] at present
      rcases present with same | further
      · obtain rfl := Option.some.inj same
        exact plain
      · exact (exts text further).2
    · simp [street, ext] at present
  box := by
    intro line member
    obtain ⟨po, given, rfl⟩ := Option.map_eq_some_iff.mp member
    rcases canonical.body with ⟨absent, -⟩ | ⟨⟨box, present, -, isBox⟩, -⟩
    · simp [absent] at given
    · rw [present] at given
      cases given
      exact isBox
  back := fun _ => rfl
  located := by
    rintro line -
    rcases canonical.body with ⟨-, ⟨street, given, -⟩, -⟩ | ⟨⟨po, given, -⟩, -⟩
    · simp [Layout.body, layout, given]
    · simp [Layout.body, layout, given]
  single := fun absent => nomatch absent
  country := by
    intro line member
    obtain ⟨country, given, rfl⟩ := Option.map_eq_some_iff.mp member
    obtain ⟨-, noDigit, noComma⟩ := canonical.country country given
    simp [namesCountry, noDigit, noComma]
  last := by
    rintro - line ⟨⟩ -
    obtain ⟨city, given, solid, -⟩ := canonical.city
    simp [namesCountry, localityLine_eq a canonical city given solid.filled]

/-- Only a street has a line of its own after it. -/
private theorem street_ext : (a.street.toList ++ a.ext.toList).head? = a.street ∧
    (a.street.toList ++ a.ext.toList).drop 1 = a.ext.toList := by
  rcases canonical.body with ⟨-, ⟨street, given, -⟩, -⟩ | ⟨-, street, ext⟩
  · rw [given]
    exact ⟨rfl, rfl⟩
  · rw [street, ext]
    exact ⟨rfl, rfl⟩

private theorem solid_body : (∀ street ∈ a.street, Solid street) ∧
    (∀ ext ∈ a.ext, Solid ext) ∧ ∀ po ∈ a.po, Solid po := by
  rcases canonical.body with ⟨po, ⟨street, given, solid, -⟩, exts⟩ |
    ⟨⟨po, given, trimmed, isBox⟩, street, ext⟩
  · refine ⟨?_, fun ext present => (exts ext present).1, by simp [po]⟩
    simpa [given] using solid
  · have filled : po ≠ "" := by
      rintro rfl
      exact absurd isBox (by decide)
    refine ⟨by simp [street], by simp [ext], ?_⟩
    simpa [given] using Solid.mk filled trimmed

private theorem solid_localityLine : Solid a.localityLine := by
  obtain ⟨city, given, solid, -⟩ := canonical.city
  have rest : Solid a.regionAndCode :=
    ⟨filled_regionAndCode a canonical, spaced_trimmed _ (spaced_regionAndCode a canonical)⟩
  rw [solid_iff] at solid rest
  rw [solid_iff, localityLine_eq a canonical city given (by simpa using solid.1)]
  refine ⟨by simp, ?_⟩
  exact Text.trim_between city.toList [',', ' '] _ solid.1 solid.2 rest.1 rest.2

private theorem single_localityLine : '\n' ∉ a.localityLine.toList := by
  obtain ⟨city, given, solid, -⟩ := canonical.city
  have inCity := canonical.unbroken a.city (by simp) city given
  have inRest : '\n' ∉ a.regionAndCode.toList := by
    intro member
    rw [← spaced_regionAndCode a canonical] at member
    rcases mem_intercalate _ _ member with space | ⟨word, present, inside⟩
    · cases space
    · obtain ⟨chars, inText, rfl⟩ := List.mem_map.mp present
      have solid := (Text.word_solid _ chars inText).2 '\n' (by simpa using inside)
      exact absurd solid.2 (by decide)
  rw [localityLine_eq a canonical city given solid.filled]
  simp [inCity, inRest]

private theorem address_layout : a.layout.address = { a with flags := .empty } := by
  have located : a.layout.locality.map splitLocality = some (a.city, a.region, a.code) :=
    congrArg some (splitLocality_line a canonical)
  have streets : a.layout.streets.map String.ofList = a.street.toList ++ a.ext.toList := by
    simp [Layout.streets, layout]
  have first : a.layout.streets.head?.map String.ofList = a.street := by
    rw [← List.head?_map, streets, (street_ext a canonical).1]
  have others : (a.layout.streets.drop 1).map String.ofList = a.ext.toList := by
    rw [List.map_drop, streets, (street_ext a canonical).2]
  have joined : joinNonEmpty ", " a.ext.toList = a.ext := by
    cases given : a.ext with
    | none => rfl
    | some ext =>
      have filled := ((solid_body a canonical).2.1 ext given).filled
      rw [Option.toList_some, joinNonEmpty_filled _ _ (by simpa using filled),
        if_neg (List.cons_ne_nil ext []), String.intercalate_singleton]
  have po : a.layout.box.map String.ofList = a.po := by simp [layout]
  have country : a.layout.country.map String.ofList = a.country := by simp [layout]
  rw [Layout.address, located, first, others, joined, po, country]
  rfl

private theorem solid_lines : ∀ line ∈ a.layout.lines,
    line ≠ [] ∧ Text.trim line = line ∧ '\n' ∉ line := by
  have solid (part : Option String)
      (inAddress : part ∈ [a.po, a.ext, a.street, a.city, a.region, a.code, a.country])
      (each : ∀ text ∈ part, Solid text) (text : String) (present : text ∈ part) :
      text.toList ≠ [] ∧ Text.trim text.toList = text.toList ∧ '\n' ∉ text.toList := by
    obtain ⟨filled, trimmed⟩ := (solid_iff text).mp (each text present)
    exact ⟨filled, trimmed, canonical.unbroken part inAddress text present⟩
  obtain ⟨solidStreet, solidExt, solidPo⟩ := solid_body a canonical
  intro line member
  rw [lines_layout a] at member
  obtain ⟨text, present, rfl⟩ := List.mem_map.mp member
  simp only [labelTexts, List.mem_append, List.mem_cons, Option.mem_toList] at present
  rcases present with street | ext | po | rfl | country
  · exact solid a.street (by simp) solidStreet text street
  · exact solid a.ext (by simp) solidExt text ext
  · exact solid a.po (by simp) solidPo text po
  · obtain ⟨filled, trimmed⟩ := (solid_iff _).mp (solid_localityLine a canonical)
    exact ⟨filled, trimmed, single_localityLine a canonical⟩
  · have named := fun name given => (canonical.country name given).1
    exact solid a.country (by simp) named text country

private theorem display_lines : a.display.toList = ['\n'].intercalate a.layout.lines := by
  obtain ⟨-, solidExt, solidPo⟩ := solid_body a canonical
  have ext : filled a.ext = a.ext :=
    filled_eq_self _ fun given => (solidExt "" given).filled rfl
  have locality : filled (some a.localityLine) = some a.localityLine :=
    filled_some _ (solid_localityLine a canonical).filled
  have country : filled a.country = a.country :=
    filled_eq_self _ fun given => (canonical.country "" given).1.filled rfl
  have first : (filled (some (joinFilled " " [a.po, a.street]))).toList ++ a.ext.toList =
      a.street.toList ++ (a.ext.toList ++ a.po.toList) := by
    rcases canonical.body with ⟨po, ⟨street, given, solid, -⟩, -⟩ | ⟨⟨po, given, -⟩, street, ext⟩
    · simp [po, given, joinFilled, List.filterMap_cons, filled, solid.filled]
    · simp [street, ext, given, joinFilled, List.filterMap_cons, filled, (solidPo po given).filled]
  have parts : [some (joinFilled " " [a.po, a.street]), a.ext, some a.localityLine,
      a.country].filterMap filled = a.labelTexts := by
    rw [List.filterMap_eq_flatMap_toList, labelTexts]
    simp only [List.flatMap_cons, List.flatMap_nil, List.append_nil, ext, locality, country]
    rw [← List.append_assoc, first]
    simp
  have feed : "\n".toList = ['\n'] := rfl
  rw [lines_layout a, ← parts, display, ← feed, ← String.toList_intercalate]
  rfl

end Canonical

/-- A canonical address comes back from its label, with its flags. -/
theorem ofLabel_toLabel (a : Address) (canonical : a.Canonical) : ofLabel a.toLabel = a := by
  have lines : a.layout.lines = labelLines a.display.toList := by
    rw [display_lines a canonical, labelLines_joined _ (solid_lines a canonical)]
  have parsed : parse a.display = { a with flags := .empty } := by
    rw [a.layout.parse_lines (settled_layout a canonical) a.display lines,
      address_layout a canonical]
  rw [ofLabel, toLabel, parsed]

def flatAddress : Address :=
  { ext := some "Box, Floor 2"
    street := some "24 Sussex Dr"
    city := some "Ottawa 1"
    region := some "District 9, ON"
    code := some "K1M 1M4"
    country := some "Canada"
    flags := ⟨0x81⟩ }

theorem canonical_flatAddress : flatAddress.Canonical where
  unbroken := by decide
  body := Or.inl ⟨rfl, ⟨_, rfl, ⟨by decide, by decide +kernel⟩, by decide +kernel⟩, by
    rintro _ ⟨⟩
    exact ⟨⟨by decide, by decide +kernel⟩, by decide +kernel⟩⟩
  city := ⟨_, rfl, ⟨by decide, by decide +kernel⟩, by decide⟩
  located := Or.inl rfl
  region := by
    rintro _ ⟨⟩
    exact ⟨by decide, by rw [Spaced]; decide +kernel, by decide +kernel⟩
  code := by
    rintro _ ⟨⟩
    exact ⟨by decide, by rw [Spaced]; decide +kernel, by decide +kernel⟩
  country := by
    rintro _ ⟨⟩
    exact ⟨⟨by decide, by decide +kernel⟩, by decide, by decide⟩

theorem ofLabel_toLabel_flatAddress :
    flatAddress.Canonical ∧ ofLabel flatAddress.toLabel = flatAddress :=
  ⟨canonical_flatAddress, ofLabel_toLabel flatAddress canonical_flatAddress⟩

end CardFile.Address
