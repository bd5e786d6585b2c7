import CardFile.Proofs.LineHead

/-!
Parameter values on a line. A written value gives back what can be written of it and leaves the text
after it alone; its double quotes come in pairs, and no colon or semicolon of it stands outside
them, so a line is not cut within it.
-/
namespace CardFile.Wire

private theorem quote_absent (s : List Char) : '"' ∉ escapeValue s :=
  fun quote => (escapeValue_chars s '"' quote).2.1 rfl

private theorem even_writeValue (s : List Char) : (writeValue s).count '"' % 2 = 0 := by
  have inner := List.count_eq_zero.mpr (quote_absent s)
  rw [writeValue]
  split
  · simp [inner]
  · rw [inner]

private theorem mark_absent (s : List Char) (plain : needsQuotes s = false) (c : Char)
    (mark : c = ':' ∨ c = ';') : c ∉ escapeValue s := by
  intro member
  obtain ⟨-, -, own | escape⟩ := escapeValue_chars s c member
  · have bare := List.any_eq_false.mp plain c own
    rcases mark with rfl | rfl <;> simp at bare
  · rcases mark with rfl | rfl <;> simp at escape

/-- A colon or semicolon of a written value has one double quote before it, the one that opens the
value. -/
private theorem count_before_mark (s front back : List Char) (c : Char) (mark : c = ':' ∨ c = ';')
    (split : writeValue s = front ++ c :: back) : front.count '"' % 2 = 1 := by
  have noQuote : c ≠ '"' := by rcases mark with rfl | rfl <;> decide
  cases plain : needsQuotes s with
  | false =>
    rw [writeValue, plain, if_neg (by simp)] at split
    exact absurd (by simp [split]) (mark_absent s plain c mark)
  | true =>
    rw [writeValue, plain, if_pos rfl, List.cons_append] at split
    cases front with
    | nil => exact absurd (List.cons.inj split).1.symm noQuote
    | cons d front =>
      rw [List.cons_append] at split
      obtain ⟨rfl, inner⟩ := List.cons.inj split
      have closed : front <+: escapeValue s := by
        have lengths := congrArg List.length inner
        simp only [List.length_append, List.length_cons, List.length_nil] at lengths
        exact List.prefix_of_prefix_length_le ⟨c :: back, inner.symm⟩ (List.prefix_append _ _)
          (by omega)
      have none := List.count_eq_zero.mpr fun quote => quote_absent s (closed.subset quote)
      rw [List.count_cons_self, none]

/-- The separator of a line has an even number of double quotes before it. -/
private theorem even_head (line head value : List Char)
    (found : cutValue false line = some (head, value)) : head.count '"' % 2 = 0 := by
  have whole := cutValue_eq false line head value found
  rw [whole] at found
  simpa using quotedAfter_count false false head (quotedAfter_cut false head value found)

private theorem cut_outside (before s after head value : List Char)
    (even : before.count '"' % 2 = 0)
    (found : cutValue false (before ++ writeValue s ++ after) = some (head, value)) :
    head.length < before.length ∨ (before ++ writeValue s).length ≤ head.length := by
  by_contra inside
  obtain ⟨reached, within⟩ := not_or.mp inside
  have whole := cutValue_eq false _ head value found
  have separated : head ++ [':'] <+: before ++ writeValue s := by
    apply List.prefix_of_prefix_length_le ⟨value, by simp [whole]⟩ (List.prefix_append _ after)
    rw [List.length_append, List.length_singleton]
    omega
  obtain ⟨front, rfl⟩ : before <+: head :=
    List.prefix_of_prefix_length_le (List.prefix_append before (writeValue s))
      ((List.prefix_append head [':']).trans separated) (by omega)
  obtain ⟨back, split⟩ := separated
  have own : writeValue s = front ++ ':' :: back := by simpa using split.symm
  have odd := count_before_mark s front back ':' (Or.inl rfl) own
  have total := even_head _ _ value found
  rw [List.count_append] at total
  omega

/-- What is read of a written value is the value without its control characters, LF apart, and what
follows the semicolon behind it. The double quotes of the written form are even in number, an odd
number of them stands before each of its colons and semicolons, and the separator of a line is never
found within it. -/
theorem readValue_writeValue (v tail : List Char) (separator : ∀ c ∈ tail.head?, c = ';') :
    readValue false (writeValue v ++ tail) =
      (v.filter fun c => !Text.isControl c || c == '\n', tail.tail) ∧
    (writeValue v).count '"' % 2 = 0 ∧
    (∀ front c back, writeValue v = front ++ c :: back → c = ':' ∨ c = ';' →
      front.count '"' % 2 = 1) ∧
    ∀ before after head value, before.count '"' % 2 = 0 →
      cutValue false (before ++ writeValue v ++ after) = some (head, value) →
      head.length < before.length ∨ (before ++ writeValue v).length ≤ head.length := by
  refine ⟨readValue_written v tail separator, even_writeValue v, ?_, ?_⟩
  · intro front c back split mark
    exact count_before_mark v front back c mark split
  · intro before after head value even found
    exact cut_outside before v after head value even found

def markedLabel : List Char :=
  "^n\"a:b;\x07\n^'".toList

theorem readValue_writeValue_markedLabel :
    (∀ c ∈ ";HOME".toList.head?, c = ';') ∧
    writeValue markedLabel = "\"^^n^'a:b;^n^^'\"".toList ∧
    readValue false (writeValue markedLabel ++ ";HOME".toList) =
      ("^n\"a:b;\n^'".toList, "HOME".toList) ∧
    (writeValue markedLabel).count '"' % 2 = 0 ∧ "\"^^n^'a".toList.count '"' % 2 = 1 ∧
    cutValue false ("X;L=".toList ++ writeValue markedLabel ++ ":v".toList) =
      some ("X;L=\"^^n^'a:b;^n^^'\"".toList, "v".toList) ∧
    ("X;L=".toList ++ writeValue markedLabel).length ≤ "X;L=\"^^n^'a:b;^n^^'\"".toList.length := by
  have separator : ∀ c ∈ ";HOME".toList.head?, c = ';' := by
    rintro c ⟨⟩
    rfl
  have written : writeValue markedLabel = "\"^^n^'a:b;^n^^'\"".toList := by decide +kernel
  have cut : cutValue false ("X;L=".toList ++ writeValue markedLabel ++ ":v".toList) =
      some ("X;L=\"^^n^'a:b;^n^^'\"".toList, "v".toList) := by
    decide +kernel
  obtain ⟨read, even, marks, outside⟩ := readValue_writeValue markedLabel ";HOME".toList separator
  have colon := marks "\"^^n^'a".toList ':' "b;^n^^'\"".toList written (Or.inl rfl)
  have passed := outside "X;L=".toList ":v".toList _ _ (by decide) cut
  exact ⟨separator, written, read, even, colon, cut, passed.resolve_left (by decide)⟩

end CardFile.Wire
