import CardFile.Proofs.JsonLeaf
import Mathlib.Data.List.DropRight

/-!
Written JSON read back. A value that is written, on one line or over several, is read to its end,
whatever follows; so a whole text is read as the value that was written.
-/
namespace CardFile.Json

inductive IsWritten : Json → Prop
  | null : IsWritten null
  | bool (b : Bool) : IsWritten (bool b)
  | number (n : Numeral) (numeral : n.IsWritten) : IsWritten (number n)
  | string (s : String) : IsWritten (string s)
  | array (items : List Json) (each : ∀ j ∈ items, IsWritten j) : IsWritten (array items)
  | object (members : List (String × Json)) (each : ∀ m ∈ members, IsWritten m.2) :
    IsWritten (object members)

/-- The text is one of the value, which is read to the end of the text if there is fuel for each of
its characters. -/
structure Reads (text : List Char) (j : Json) : Prop where
  solid : ∃ c s, text = c :: s ∧ isBlank c = false ∧ c ≠ ']'
  read : ∀ fuel rest, text.length ≤ fuel → Numeral.IsEnd rest →
    readValue fuel (text ++ rest) = (j, rest)

/-- Texts one after the other with commas between them, and a gap before each. -/
def listed (gap : List Char) : List (List Char) → List Char
  | [] => []
  | [text] => gap ++ text
  | text :: others => gap ++ text ++ ',' :: listed gap others

def writtenMember (space : List Char) (name : String) (text : List Char) : List Char :=
  writeString name ++ ':' :: space ++ text

private theorem skipBlanks_solid (c : Char) (s : List Char) (solid : isBlank c = false) :
    skipBlanks (c :: s) = c :: s := by
  simp [skipBlanks, solid]

private theorem skipBlanks_skipBlanks (s : List Char) :
    skipBlanks (skipBlanks s) = skipBlanks s := by
  rw [skipBlanks, skipBlanks, List.dropWhile_idempotent]

private theorem readValue_skipBlanks (fuel : Nat) (s : List Char) :
    readValue fuel (skipBlanks s) = readValue fuel s := by
  cases fuel with
  | zero => rfl
  | succ fuel => rw [readValue, readValue, skipBlanks_skipBlanks]

private theorem readItems_skipBlanks (fuel : Nat) (s : List Char) :
    readItems fuel (skipBlanks s) = readItems fuel s := by
  cases fuel with
  | zero => rfl
  | succ fuel => rw [readItems, readItems, readValue_skipBlanks]

private theorem readMembers_skipBlanks (fuel : Nat) (s : List Char) :
    readMembers fuel (skipBlanks s) = readMembers fuel s := by
  cases fuel with
  | zero => rfl
  | succ fuel => rw [readMembers, readMembers, readName, readName, skipBlanks_skipBlanks]

private theorem readValue_leaf (fuel : Nat) (c : Char) (s : List Char) (solid : isBlank c = false)
    (noBracket : c ≠ '[') (noBrace : c ≠ '\x7b') :
    readValue (fuel + 1) (c :: s) = readLeaf (c :: s) := by
  rw [readValue, skipBlanks_solid c s solid]
  split
  · rename_i same
    exact absurd (List.cons.inj same).1 noBracket
  · rename_i same
    exact absurd (List.cons.inj same).1 noBrace
  · rfl

private theorem readValue_array (fuel : Nat) (s : List Char) :
    readValue (fuel + 1) ('[' :: s) = match skipBlanks s with
      | ']' :: r => (array [], r)
      | _ => (array (readItems fuel s).1, (readItems fuel s).2) := by
  have step : readValue (fuel + 1) ('[' :: s) = match skipBlanks s with
      | ']' :: r => (array [], r)
      | r => (array (readItems fuel r).1, (readItems fuel r).2) := by
    rw [readValue, skipBlanks_solid _ _ (by decide)]
    rfl
  rw [step, ← readItems_skipBlanks fuel s]
  split <;> rfl

private theorem readValue_object (fuel : Nat) (s : List Char) :
    readValue (fuel + 1) ('\x7b' :: s) = match skipBlanks s with
      | '\x7d' :: r => (object [], r)
      | _ => (object (readMembers fuel s).1, (readMembers fuel s).2) := by
  have step : readValue (fuel + 1) ('\x7b' :: s) = match skipBlanks s with
      | '\x7d' :: r => (object [], r)
      | r => (object (readMembers fuel r).1, (readMembers fuel r).2) := by
    rw [readValue, skipBlanks_solid _ _ (by decide)]
    rfl
  rw [step, ← readMembers_skipBlanks fuel s]
  split <;> rfl

section Gap

variable (gap : List Char) (blank : ∀ c ∈ gap, isBlank c = true)

include blank

private theorem skipBlanks_gap (s : List Char) : skipBlanks (gap ++ s) = skipBlanks s := by
  rw [skipBlanks, List.dropWhile_append_of_pos blank, skipBlanks]

private theorem readValue_gap (fuel : Nat) (s : List Char) :
    readValue fuel (gap ++ s) = readValue fuel s := by
  rw [← readValue_skipBlanks, skipBlanks_gap gap blank, readValue_skipBlanks]

private theorem skipBlanks_stop (c : Char) (rest : List Char) (solid : isBlank c = false) :
    skipBlanks (gap ++ c :: rest) = c :: rest := by
  rw [skipBlanks_gap gap blank, skipBlanks_solid c rest solid]

/-- What may follow a value: a comma or a closing bracket, on the next line or on this one. -/
private theorem isEnd_gap (c : Char) (rest : List Char) (mark : c = ',' ∨ c = ']' ∨ c = '\x7d') :
    Numeral.IsEnd (gap ++ c :: rest) := by
  cases gap with
  | nil =>
    rintro _ ⟨⟩
    rcases mark with rfl | rfl | rfl <;> decide
  | cons d gap =>
    rintro _ ⟨⟩
    have space := blank d (by simp)
    simp only [isBlank, Bool.or_eq_true, beq_iff_eq] at space
    rcases space with ((rfl | rfl) | rfl) | rfl <;> decide

end Gap

section Layout

variable (write : Json → List Char)
variable (gap close : List Char) (blankGap : ∀ c ∈ gap, isBlank c = true)
variable (blankClose : ∀ c ∈ close, isBlank c = true)

include blankGap

private theorem skipBlanks_listed (text : List Char) (others : List (List Char)) (c : Char)
    (s rest : List Char) (first : text = c :: s) (solid : isBlank c = false) :
    ∃ more, skipBlanks (listed gap (text :: others) ++ rest) = c :: more := by
  subst first
  cases others with
  | nil => exact ⟨s ++ rest, by simp [listed, skipBlanks_stop gap blankGap c _ solid]⟩
  | cons text' others =>
    refine ⟨s ++ (',' :: listed gap (text' :: others) ++ rest), ?_⟩
    simp [listed, skipBlanks_stop gap blankGap c _ solid]

private theorem readName_written (space : List Char) (name : String) (text : List Char) :
    readName (gap ++ (writtenMember space name text)) =
      (name.toList.map Char.toNat, some (space ++ text)) := by
  have quote : gap ++ writtenMember space name text =
      gap ++ '"' :: (name.toList.flatMap escapeChar ++ '"' :: (':' :: (space ++ text))) := by
    simp [writtenMember, writeString]
  rw [quote, readName, skipBlanks_stop gap blankGap _ _ (by decide)]
  simp only [readCodes_written, skipBlanks_solid ':' _ (by decide)]

include blankClose

private theorem readItems_listed (items : List Json) (some : items ≠ [])
    (each : ∀ j ∈ items, Reads (write j) j) (fuel : Nat) (rest : List Char)
    (fits : (listed gap (items.map write)).length < fuel) :
    readItems fuel (listed gap (items.map write) ++ close ++ ']' :: rest) = (items, rest) := by
  induction items generalizing fuel with
  | nil => exact absurd rfl some
  | cons j items ih =>
    obtain ⟨fuel, rfl⟩ : ∃ less, fuel = less + 1 := ⟨fuel - 1, by omega⟩
    have first := (each j (by simp)).read fuel
    cases items with
    | nil =>
      have value := first (close ++ ']' :: rest) (by simp [listed] at fits; omega)
        (isEnd_gap close blankClose _ _ (by simp))
      simp only [List.map_cons, List.map_nil, listed, List.append_assoc]
      rw [readItems, readValue_gap gap blankGap, value]
      dsimp only
      rw [skipBlanks_stop close blankClose _ _ (by decide)]
      rfl
    | cons k items =>
      have value := first (',' :: (listed gap ((k :: items).map write) ++ close ++ ']' :: rest))
        (by simp [listed] at fits; omega) (isEnd_gap [] (by simp) _ _ (by simp))
      have others := ih (by simp) (fun j member => each j (by simp [member])) fuel
        (by simp [listed] at fits ⊢; omega)
      simp only [List.map_cons, listed, List.append_assoc, List.cons_append] at value others ⊢
      rw [readItems, readValue_gap gap blankGap, value]
      dsimp only
      rw [skipBlanks_solid _ _ (by decide)]
      change (j :: (readItems fuel _).1, (readItems fuel _).2) = _
      rw [others]

private theorem readMembers_listed (space : List Char) (blankSpace : ∀ c ∈ space, isBlank c = true)
    (members : List (String × Json)) (some : members ≠ [])
    (each : ∀ m ∈ members, Reads (write m.2) m.2) (fuel : Nat) (rest : List Char)
    (fits : (listed gap (members.map fun m => writtenMember space m.1 (write m.2))).length < fuel) :
    readMembers fuel (listed gap (members.map fun m => writtenMember space m.1 (write m.2)) ++
      close ++ '\x7d' :: rest) = (members, rest) := by
  induction members generalizing fuel with
  | nil => exact absurd rfl some
  | cons m members ih =>
    obtain ⟨fuel, rfl⟩ : ∃ less, fuel = less + 1 := ⟨fuel - 1, by omega⟩
    have first := (each m (by simp)).read fuel
    have attached (tail : List Char) : writtenMember space m.1 (write m.2) ++ tail =
        writtenMember space m.1 (write m.2 ++ tail) := by
      simp [writtenMember]
    have size : (writtenMember space m.1 (write m.2)).length =
        (writeString m.1).length + 1 + space.length + (write m.2).length := by
      simp [writtenMember]
      omega
    cases members with
    | nil =>
      have value := first (close ++ '\x7d' :: rest) (by simp [listed] at fits; omega)
        (isEnd_gap close blankClose _ _ (by simp))
      simp only [List.map_cons, List.map_nil, listed, List.append_assoc]
      rw [attached, readMembers, readName_written gap blankGap]
      dsimp only
      rw [readValue_gap space blankSpace, value]
      dsimp only
      rw [skipBlanks_stop close blankClose _ _ (by decide), member_written]
      rfl
    | cons m' members =>
      have value := first (',' :: (listed gap ((m' :: members).map fun m =>
        writtenMember space m.1 (write m.2)) ++ close ++ '\x7d' :: rest))
        (by simp [listed] at fits; omega) (isEnd_gap [] (by simp) _ _ (by simp))
      have others := ih (by simp) (fun m member => each m (by simp [member])) fuel
        (by simp [listed] at fits ⊢; omega)
      simp only [List.map_cons, listed, List.append_assoc, List.cons_append] at value others ⊢
      rw [attached, readMembers, readName_written gap blankGap]
      dsimp only
      rw [readValue_gap space blankSpace, value]
      dsimp only
      rw [skipBlanks_solid _ _ (by decide)]
      change (_ :: (readMembers fuel _).1, (readMembers fuel _).2) = _
      rw [others, member_written]

private theorem reads_array (items : List Json) (each : ∀ j ∈ items, Reads (write j) j) :
    Reads ('[' :: (listed gap (items.map write) ++ close ++ [']'])) (array items) where
  solid := ⟨'[', _, rfl, by decide, by decide⟩
  read := by
    intro fuel rest fits stop
    obtain ⟨fuel, rfl⟩ : ∃ less, fuel = less + 1 := ⟨fuel - 1, by simp at fits; omega⟩
    simp only [List.cons_append, List.append_assoc, List.nil_append]
    rw [readValue_array]
    cases items with
    | nil => simp [listed, skipBlanks_stop close blankClose ']' rest (by decide)]
    | cons j items =>
      obtain ⟨c, s, first, solid, noClose⟩ := (each j (by simp)).solid
      obtain ⟨more, start⟩ := skipBlanks_listed gap blankGap (write j) (items.map write) c s
        (close ++ ']' :: rest) first solid
      have read := readItems_listed write gap close blankGap blankClose (j :: items) (by simp)
        each fuel rest (by simp at fits ⊢; omega)
      rw [List.map_cons, List.append_assoc] at read
      rw [List.map_cons, start]
      split
      · rename_i same
        exact absurd (List.cons.inj same).1 noClose
      · rw [read]

private theorem reads_object (space : List Char) (blankSpace : ∀ c ∈ space, isBlank c = true)
    (members : List (String × Json)) (each : ∀ m ∈ members, Reads (write m.2) m.2) :
    Reads ('\x7b' :: (listed gap (members.map fun m => writtenMember space m.1 (write m.2)) ++
      close ++ ['\x7d'])) (object members) where
  solid := ⟨'\x7b', _, rfl, by decide, by decide⟩
  read := by
    intro fuel rest fits stop
    obtain ⟨fuel, rfl⟩ : ∃ less, fuel = less + 1 := ⟨fuel - 1, by simp at fits; omega⟩
    simp only [List.cons_append, List.append_assoc, List.nil_append]
    rw [readValue_object]
    cases members with
    | nil => simp [listed, skipBlanks_stop close blankClose '\x7d' rest (by decide)]
    | cons m members =>
      obtain ⟨more, start⟩ := skipBlanks_listed gap blankGap
        (writtenMember space m.1 (write m.2))
        (members.map fun m => writtenMember space m.1 (write m.2)) '"' _
        (close ++ '\x7d' :: rest) rfl (by decide)
      have read := readMembers_listed write gap close blankGap blankClose space blankSpace
        (m :: members) (by simp) each fuel rest (by simp at fits ⊢; omega)
      rw [List.map_cons, List.append_assoc] at read
      rw [List.map_cons, start]
      split
      · rename_i same
        exact absurd (List.cons.inj same).1 (by decide)
      · rw [read]

end Layout

private theorem reads_leaf (text : List Char) (j : Json) (c : Char) (s : List Char)
    (first : text = c :: s) (solid : isBlank c = false) (plain : c ≠ '[' ∧ c ≠ ']' ∧ c ≠ '\x7b')
    (leaf : ∀ rest, Numeral.IsEnd rest → readLeaf (text ++ rest) = (j, rest)) :
    Reads text j where
  solid := ⟨c, s, first, solid, plain.2.1⟩
  read := by
    intro fuel rest fits stop
    obtain ⟨fuel, rfl⟩ : ∃ less, fuel = less + 1 := ⟨fuel - 1, by simp [first] at fits; omega⟩
    have read := leaf rest stop
    rw [first, List.cons_append] at read ⊢
    rw [readValue_leaf fuel c _ solid plain.1 plain.2.2, read]

private theorem reads_number (n : Numeral) (written : n.IsWritten) : Reads n.text (number n) := by
  obtain ⟨c, s, text, first⟩ := text_head n written
  have solid : isBlank c = false := by
    simp only [isBlank, Bool.or_eq_false_iff, beq_eq_false_iff_ne]
    refine ⟨⟨⟨?_, ?_⟩, ?_⟩, ?_⟩ <;> rintro rfl <;> simp at first
  have plain : c ≠ '[' ∧ c ≠ ']' ∧ c ≠ '\x7b' := by
    refine ⟨?_, ?_, ?_⟩ <;> rintro rfl <;> simp at first
  exact reads_leaf n.text (number n) c s text solid plain (readLeaf_number n written)

private theorem reads_string (s : String) : Reads (writeString s) (string s) :=
  reads_leaf _ _ '"' _ rfl (by decide) (by decide) fun rest _ => readLeaf_string s rest

private theorem reads_plain (j : Json) (plain : j = null ∨ (∃ b, j = bool b)) :
    Reads (writeLeaf j) j := by
  rcases plain with rfl | ⟨_ | _, rfl⟩
  · exact reads_leaf _ _ 'n' _ rfl (by decide) (by decide) fun _ _ => rfl
  · exact reads_leaf _ _ 'f' _ rfl (by decide) (by decide) fun _ _ => rfl
  · exact reads_leaf _ _ 't' _ rfl (by decide) (by decide) fun _ _ => rfl

private theorem compactItems_listed (items : List Json) :
    compactItems items = listed [] (items.map compact) := by
  induction items with
  | nil => rfl
  | cons j items ih =>
    cases items with
    | nil => simp [compactItems, listed]
    | cons k items => simpa [compactItems, listed] using ih

private theorem compactMembers_listed (members : List (String × Json)) : compactMembers members =
    listed [] (members.map fun m => writtenMember [] m.1 (compact m.2)) := by
  induction members with
  | nil => rfl
  | cons m members ih =>
    cases members with
    | nil => simp [compactMembers, listed, writtenMember]
    | cons k members => simpa [compactMembers, listed, writtenMember] using ih

private theorem indentedItems_listed (level : Nat) (items : List Json) :
    indentedItems level items = listed (newLine level) (items.map (indented level)) := by
  induction items with
  | nil => rfl
  | cons j items ih =>
    cases items with
    | nil => simp [indentedItems, listed]
    | cons k items => simpa [indentedItems, listed] using ih

private theorem indentedMembers_listed (level : Nat) (members : List (String × Json)) :
    indentedMembers level members = listed (newLine level)
      (members.map fun m => writtenMember [' '] m.1 (indented level m.2)) := by
  induction members with
  | nil => rfl
  | cons m members ih =>
    cases members with
    | nil => simp [indentedMembers, listed, writtenMember]
    | cons k members => simpa [indentedMembers, listed, writtenMember] using ih

theorem reads_compact (j : Json) (written : IsWritten j) : Reads (compact j) j := by
  induction written with
  | null => exact reads_plain null (Or.inl rfl)
  | bool b => exact reads_plain (bool b) (Or.inr ⟨b, rfl⟩)
  | number n numeral => exact reads_number n numeral
  | string s => exact reads_string s
  | array items each ih =>
    have read := reads_array compact [] [] (by simp) (by simp) items ih
    simpa [compact, compactItems_listed] using read
  | object members each ih =>
    have read := reads_object compact [] [] (by simp) (by simp) [] (by simp) members ih
    simpa [compact, compactMembers_listed] using read

private theorem newLine_blank (level : Nat) : ∀ c ∈ newLine level, isBlank c = true := by
  intro c member
  rcases List.mem_cons.mp member with rfl | space
  · rfl
  · rw [List.eq_of_mem_replicate space]
    rfl

theorem reads_indented (level : Nat) (j : Json) (written : IsWritten j) :
    Reads (indented level j) j := by
  induction written generalizing level with
  | null => exact reads_plain null (Or.inl rfl)
  | bool b => exact reads_plain (bool b) (Or.inr ⟨b, rfl⟩)
  | number n numeral => exact reads_number n numeral
  | string s => exact reads_string s
  | array items each ih =>
    cases items with
    | nil => exact reads_array (indented 0) [] [] (by simp) (by simp) [] (by simp)
    | cons j items =>
      have read := reads_array _ _ (newLine level) (newLine_blank (level + 1))
        (newLine_blank level) (j :: items) fun j member => ih j member (level + 1)
      simpa [indented, indentedItems_listed] using read
  | object members each ih =>
    cases members with
    | nil => exact reads_object (indented 0) [] [] (by simp) (by simp) [] (by simp) [] (by simp)
    | cons m members =>
      have read := reads_object _ _ (newLine level) (newLine_blank (level + 1))
        (newLine_blank level) [' '] (by simp [isBlank]) (m :: members)
        fun m member => ih m member (level + 1)
      simpa [indented, indentedMembers_listed] using read

/-- A text that was written is read as the value it was written for. -/
theorem read_render (pretty : Bool) (j : Json) (written : IsWritten j) :
    read (j.render pretty ++ "\n") = (j, true) := by
  have reads : Reads (j.render pretty).toList j := by
    rw [render, String.toList_ofList]
    cases pretty with
    | false => exact reads_compact j written
    | true => exact reads_indented 0 j written
  have text : (j.render pretty ++ "\n").toList = (j.render pretty).toList ++ ['\n'] :=
    String.toList_append
  have value := reads.read (2 * ((j.render pretty).toList ++ ['\n']).length + 2) ['\n']
    (by simp; omega) (by rintro _ ⟨⟩; decide)
  rw [read, text, value]
  rfl

end CardFile.Json
