import CardFile.Proofs.Canonical
import CardFile.Proofs.LineHead
import CardFile.Proofs.Origin

/-!
The names that reading a text can give to properties, to their groups and to parameters, and with
these the keys of arbitrary entries. Each is cut out of one logical line, so that it has no line
break, and the name of a parameter ends where a parameter does. What its quotes do is not
restricted.
-/
namespace CardFile

namespace Wire

private theorem name_segment (s : List Char) (single : '\n' ∉ s)
    (filled : Text.trim (s.takeWhile fun c => c != '=' && c != ';') ≠ []) :
    ParameterName (Text.trim (s.takeWhile fun c => c != '=' && c != ';')) where
  filled := filled
  trimmed := Text.trim_trim _
  chars := by
    intro c member
    have taken := Text.mem_of_mem_trim _ c member
    have inside := List.all_eq_true.mp List.all_takeWhile c taken
    have present := (List.takeWhile_prefix _).subset taken
    simp only [Bool.and_eq_true, bne_iff_ne] at inside
    exact ⟨fun feed => single (feed ▸ present), inside.2, inside.1⟩

private theorem names_marker (name : List Char) (ps : List Parameter)
    (named : name ≠ [] → ParameterName name) (names : ∀ p ∈ ps, ParameterName p.name.toList) :
    ∀ p ∈ consMarker name ps, ParameterName p.name.toList := by
  rw [consMarker]
  split
  · exact names
  · rename_i filled
    intro p member
    rcases List.mem_cons.mp member with rfl | old
    · rw [String.toList_ofList]
      exact named (by simpa using filled)
    · exact names p old

private theorem single_rest (s rest : List Char) (stop : Char) (single : '\n' ∉ s)
    (rests : s.dropWhile (fun c => c != '=' && c != ';') = stop :: rest) : '\n' ∉ rest := by
  intro feed
  have later : '\n' ∈ s.dropWhile (fun c => c != '=' && c != ';') := by simp [rests, feed]
  exact single ((List.dropWhile_suffix _).subset later)

/-- The parameters of one line have names of parameters. -/
theorem readParameters_names (s : List Char) (single : '\n' ∉ s) (ps : List Parameter)
    (read : readParameters s = .ok ps) : ∀ p ∈ ps, ParameterName p.name.toList := by
  fun_induction readParameters s generalizing ps with
  | case1 =>
    cases read
    simp
  | case2 s _ _ last =>
    cases read
    exact names_marker _ [] (name_segment s single) (by simp)
  | case3 => cases read
  | case4 s _ _ rest filled rests ih =>
    cases more : readParameters (readValue false rest).2 with
    | error fault =>
      rw [more] at read
      cases read
    | ok qs =>
      rw [more] at read
      cases read
      have after : '\n' ∉ (readValue false rest).2 := fun feed =>
        single_rest s rest '=' single rests ((readValue_suffix false rest).subset feed)
      intro p member
      rcases List.mem_cons.mp member with rfl | later
      · rw [String.toList_ofList]
        exact name_segment s single (by simpa using filled)
      · exact ih after qs more p later
  | case5 s _ _ stop rest rests _ ih =>
    cases more : readParameters rest with
    | error fault =>
      rw [more] at read
      cases read
    | ok qs =>
      rw [more] at read
      cases read
      have later := ih (single_rest s rest stop single rests) qs more
      exact names_marker _ qs (name_segment s single) later

private theorem cut_subset (sep : Char) (s before after : List Char)
    (found : Text.cut sep s = some (before, after)) : after ⊆ s := by
  rw [Text.cut_eq sep s before after found]
  exact List.subset_append_of_subset_right before (List.subset_cons_self sep after)

private theorem cutGroup_subset (head : List Char) : (cutGroup head).2 ⊆ head := by
  rw [cutGroup]
  split
  · rename_i group rest found
    split
    · exact cut_subset '.' head group rest found
    · exact List.Subset.refl head
  · exact List.Subset.refl head

private theorem cutName_subset (head : List Char) : (cutName head).2 ⊆ head := by
  rw [cutName]
  cases found : Text.cut ';' head with
  | none => simp
  | some parts => exact cut_subset ';' head parts.1 parts.2 found

structure ContentLine.WellRead (line : ContentLine) : Prop where
  grouped : ∀ g ∈ line.group, isName g.toList = true
  named : isName line.name.toList = true
  capitals : line.name.toList.map Char.toUpper = line.name.toList
  parameters : ∀ p ∈ line.parameters, ParameterName p.name.toList

theorem wellRead_read (line : List Char) (single : '\n' ∉ line) (content : ContentLine)
    (read : ContentLine.read line = .ok content) : content.WellRead := by
  rw [ContentLine.read] at read
  split at read
  · cases read
  · rename_i head value found
    dsimp only at read
    split at read
    · rename_i named
      split at read
      · cases read
      · rename_i ps parameters
        cases read
        refine ⟨?_, ?_, ?_, readParameters_names _ (fun feed => single ?_) ps parameters⟩
        · intro g member
          obtain ⟨group, own, rfl⟩ := Option.map_eq_some_iff.mp member
          rw [String.toList_ofList]
          exact cutGroup_named head group own
        · rw [String.toList_ofList]
          exact isName_upper _ named
        · rw [String.toList_ofList]
          exact upper_upper _ named
        · rw [cutValue_eq false line head value found]
          exact List.mem_append_left _ (cutGroup_subset head (cutName_subset _ feed))
    · cases read

/-- Every content line has such names. -/
theorem wellRead_invariant : ReadInvariant ContentLine.WellRead where
  read := wellRead_read
  value := fun _ wellRead _ => ⟨wellRead.grouped, wellRead.named, wellRead.capitals,
    wellRead.parameters⟩

/-- The parameters that become attributes keep their names. -/
theorem name_attributes (line : ContentLine) (wellRead : line.WellRead) :
    ∀ a ∈ line.parameters.filterMap attributeOf?, ParameterName a.name.toList := by
  intro a member
  obtain ⟨p, present, made⟩ := List.mem_filterMap.mp member
  rw [attributeOf?] at made
  split at made
  · cases made
  · cases made
    exact wellRead.parameters p present

/-- A property without components, all of whose attributes are parameters then, has names of
parameters only. -/
theorem named_parse (text : String) (rs : List Record) (parsed : parse text = .ok rs) :
    ∀ r ∈ rs, ∀ p ∈ r.properties, schema? p.name = none →
      ∀ a ∈ p.attributes, ParameterName a.name.toList := by
  intro r member p present flat a own
  obtain ⟨line, wellRead, rfl⟩ :=
    (madeOf_parse wellRead_invariant text rs parsed r member).properties p present
  rw [ContentLine.toProperty] at flat own
  split at flat
  · rename_i names schema
    simp [schema] at flat
  · rename_i none
    rw [none] at own
    exact name_attributes line wellRead a own

end Wire

namespace Card

/-- What holds of every entry that a property of a record makes holds of every entry that the
record leaves in a card. -/
theorem arbitrary_foldl (P : Arbitrary → Prop) (ps : List Property)
    (each : ∀ p ∈ ps, p.name = Field.arbitrary.property → P (.ofProperty p)) (c : Card)
    (before : ∀ a ∈ c.arbitrary, P a) : ∀ a ∈ (ps.foldl take c).arbitrary, P a := by
  induction ps generalizing c with
  | nil => exact before
  | cons p ps ih =>
    apply ih (fun q member => each q (by simp [member])) _
    rw [take]
    split
    · rename_i f found
      cases f with
      | arbitrary =>
        intro a member
        rcases List.mem_append.mp member with old | new
        · exact before a old
        · rw [List.mem_singleton.mp new]
          have name := List.find?_some found
          exact each p (by simp) (beq_iff_eq.mp name).symm
      | categories =>
        rw [put]
        split <;> exact before
      | _ => exact before
    · exact before

end Card

/-- Every key in the cards of a text is the name of a parameter. -/
theorem Card.keys_loadStrict (text : String) (cs : List Card) (loaded : loadStrict text = .ok cs) :
    ∀ c ∈ cs, ∀ a ∈ c.arbitrary, ∀ key ∈ a.key, Wire.ParameterName key.toList := by
  obtain ⟨rs, parsed, rfl⟩ := loadStrict_records text cs loaded
  intro c member
  obtain ⟨r, stored, rfl⟩ := List.mem_map.mp member
  refine arbitrary_foldl (fun a => ∀ key ∈ a.key, Wire.ParameterName key.toList) r.properties ?_ {}
    (by simp)
  intro p present name
  have flat : Wire.schema? p.name = none := by
    rw [name]
    rfl
  have named := Wire.named_parse text rs parsed r stored p present flat
  exact Arbitrary.key_takeAttributes _ p.attributes {} (fun a own _ => named a own) (by simp)

end CardFile
