import CardFile.Card.Category
import CardFile.Proofs.Trim

/-!
Category lists read back from one text. Reading adds the entries one by one, so what comes of any
list is what adding its entries comes to; a clean list is one that adding leaves as it is.
-/
namespace CardFile.Category

private theorem segments_char (c : Char) (rest : List Char) :
    segments (escape [c] ++ rest) = Wire.consFirst c (segments rest) := by
  by_cases slash : c = '\\'
  · subst c
    simp [escape, segments]
  · by_cases comma : c = ','
    · subst c
      simp [escape, segments]
    · simp only [escape, slash, comma, or_self, if_false, List.cons_append, List.nil_append]
      rw [segments] <;> simp_all

private theorem escape_cons (c : Char) (s : List Char) :
    escape (c :: s) = escape [c] ++ escape s := by
  simp only [escape]
  split <;> simp

private theorem segments_escaped (s rest : List Char) :
    segments (escape s ++ ',' :: rest) = s :: segments rest := by
  induction s with
  | nil => simp [escape, segments]
  | cons c s ih =>
    rw [escape_cons, List.append_assoc, segments_char, ih]
    rfl

private theorem segments_last (s : List Char) : segments (escape s) = [s] := by
  induction s with
  | nil => rfl
  | cons c s ih =>
    rw [escape_cons, segments_char, ih]
    rfl

theorem segments_join (entries : List (List Char)) (filled : entries ≠ []) :
    segments ([','].intercalate (entries.map escape)) = entries := by
  induction entries with
  | nil => contradiction
  | cons first others ih =>
    cases others with
    | nil => simpa [List.intercalate] using segments_last first
    | cons second others =>
      have rest := ih (by simp)
      rw [List.map_cons, List.map_cons, List.intercalate_cons_cons, List.append_assoc,
        List.singleton_append, segments_escaped, ← List.map_cons, rest]

/-- Reading joined entries adds them in order. -/
theorem addAll_join (list entries : List String) :
    addAll list (join entries) = entries.foldl add list := by
  cases entries with
  | nil => simp [join, addAll, segments, add, trimmed, Text.trim, Text.dropWhileEnd]
  | cons first others =>
    have written : (first :: others).map (fun entry => escape entry.toList) =
        ((first :: others).map String.toList).map escape := by
      rw [List.map_map, Function.comp_def]
    rw [addAll, join, String.toList_ofList, written, segments_join _ (by simp), List.foldl_map]
    simp only [String.ofList_toList]

/-- A list as reading makes them: no entry is blank at an end or empty, and none comes twice. -/
structure Clean (list : List String) : Prop where
  filled : ∀ entry ∈ list, entry ≠ ""
  trimmed : ∀ entry ∈ list, CardFile.trimmed entry = entry
  distinct : list.Nodup

theorem foldl_add_clean (before list : List String) (clean : Clean (before ++ list)) :
    list.foldl add before = before ++ list := by
  induction list generalizing before with
  | nil => simp
  | cons entry list ih =>
    have fresh : entry ∉ before := by
      have := (List.nodup_append.mp clean.distinct).2.2
      exact fun present => this entry present entry (by simp) rfl
    have added : add before entry = before ++ [entry] := by
      simp [add, clean.trimmed entry (by simp), clean.filled entry (by simp), fresh]
    have same : before ++ [entry] ++ list = before ++ entry :: list := by simp
    rw [List.foldl_cons, added, ih (before ++ [entry]) (same ▸ clean), same]

theorem addAll_clean (list : List String) (clean : Clean list) : addAll [] (join list) = list := by
  rw [addAll_join, foldl_add_clean [] list clean]
  rfl

theorem clean_nil : Clean [] :=
  ⟨by simp, by simp, List.nodup_nil⟩

theorem clean_add (list : List String) (entry : String) (clean : Clean list) :
    Clean (add list entry) := by
  rw [add]
  split
  · exact clean
  · rename_i fresh
    simp only [Bool.or_eq_true, String.isEmpty_iff, List.contains_iff_mem, not_or] at fresh
    refine ⟨?_, ?_, ?_⟩
    · intro e member
      rcases List.mem_append.mp member with old | new
      · exact clean.filled e old
      · obtain rfl := List.mem_singleton.mp new
        exact fresh.1
    · intro e member
      rcases List.mem_append.mp member with old | new
      · exact clean.trimmed e old
      · obtain rfl := List.mem_singleton.mp new
        simp [trimmed, Text.trim_trim]
    · refine List.nodup_append.mpr ⟨clean.distinct, by simp, ?_⟩
      rintro e old f new rfl
      exact fresh.2 (List.mem_singleton.mp new ▸ old)

theorem clean_addAll (list : List String) (text : String) (clean : Clean list) :
    Clean (addAll list text) := by
  rw [addAll]
  induction segments text.toList generalizing list with
  | nil => exact clean
  | cons segment _ ih =>
    rw [List.foldl_cons]
    exact ih _ (clean_add list _ clean)

theorem foldl_add (entries : List String) : entries.foldl add [] =
    ((entries.map trimmed).filter fun entry => !entry.isEmpty).eraseDups := by
  induction entries using List.reverseRecOn with
  | nil => rfl
  | append_singleton entries last ih =>
    rw [List.foldl_append, ih, List.foldl_cons, List.foldl_nil, List.map_append, List.filter_append,
      List.eraseDups_append, add, List.map_singleton, List.filter_singleton]
    generalize (entries.map trimmed).filter (fun entry => !entry.isEmpty) = kept
    by_cases blank : (trimmed last).isEmpty = true
    · simp [blank, List.removeAll]
    · by_cases present : trimmed last ∈ kept
      · simp [blank, present, List.removeAll]
      · simp [blank, present, List.removeAll, List.eraseDups_cons]

/-- What reading makes of the text of any list: its entries without the blanks around them, in their
order, each at its first place and none that is empty. It is the list itself exactly if that is
clean. -/
theorem addAll_join_entries (entries : List String) :
    addAll [] (join entries) =
      ((entries.map trimmed).filter fun entry => !entry.isEmpty).eraseDups ∧
    (addAll [] (join entries) = entries ↔ Clean entries) := by
  refine ⟨by rw [addAll_join, foldl_add], ?_, addAll_clean entries⟩
  intro same
  have clean := clean_addAll [] (join entries) clean_nil
  rwa [same] at clean

end CardFile.Category
