import CardFile.Name.Matching
import Mathlib.Data.List.Forall2
import Mathlib.Data.List.NodupEquivFin

/-!
Queries that name a person. The walk along a query and a name treats the two alike, and each step
that it counts finds a pair of matching words beyond those of the steps before. In the other
direction a query whose words all occur in the name, in order, is never turned down; but words that
stand before the first of them hide it once there are as many as the query has words.
-/
namespace CardFile.Name

/-- The words of a query occur in a name, in order, with any others between them. -/
def Scattered (query name : List String) : Prop :=
  List.SublistForall₂ (fun asked shown => wordsMatch asked shown = true) query name

def Apart (words : List String) : Prop :=
  words.Pairwise fun a b => wordsMatch a b = false

instance : DecidablePred Apart := fun words =>
  inferInstanceAs (Decidable (words.Pairwise _))

theorem wordsMatch_iff (a b : String) : wordsMatch a b = true ↔ canonical a = canonical b := by
  rw [wordsMatch, beq_iff_eq]

theorem wordsMatch_comm (a b : String) : wordsMatch a b = wordsMatch b a := by
  rw [wordsMatch, wordsMatch, Bool.beq_comm]

section

variable {query name : List String}

theorem Scattered.mono {shown : List String} (found : Scattered query shown)
    (inName : shown.Sublist name) : Scattered query name := by
  obtain ⟨matched, pairs, inShown⟩ := List.sublistForall₂_iff.mp found
  exact List.sublistForall₂_iff.mpr ⟨matched, pairs, inShown.trans inName⟩

theorem Scattered.tail (q : String) (found : Scattered (q :: query) name) :
    Scattered query name := by
  obtain ⟨matched, pairs, inName⟩ := List.sublistForall₂_iff.mp found
  cases pairs with
  | @cons _ n _ matched _ pairs =>
    exact List.sublistForall₂_iff.mpr
      ⟨matched, pairs, (List.sublist_cons_self n matched).trans inName⟩

theorem Scattered.exists_mem (found : Scattered query name) :
    ∀ asked ∈ query, ∃ shown ∈ name, wordsMatch asked shown = true := by
  intro asked member
  obtain ⟨matched, pairs, inName⟩ := List.sublistForall₂_iff.mp found
  obtain ⟨i, bound, rfl⟩ := List.mem_iff_getElem.mp member
  have length : i < matched.length := pairs.length_eq ▸ bound
  exact ⟨matched[i], inName.subset (List.getElem_mem length),
    (List.forall₂_iff_get.mp pairs).2 i bound length⟩

theorem seek_cons (n : String) (ns : List String) (word : String) :
    seek (n :: ns) word = if wordsMatch n word then 0 else seek ns word + 1 := by
  rw [seek, List.findIdx_cons, Bool.cond_eq_ite]
  rfl

theorem seek_absent (words : List String) (word : String)
    (absent : ∀ w ∈ words, wordsMatch w word = false) : seek words word = words.length := by
  rw [seek, List.findIdx_eq_length]
  exact absent

theorem seek_found (words : List String) (word : String) (found : seek words word < words.length) :
    ∃ w, wordsMatch w word = true ∧ (w :: words.drop (seek words word + 1)).Sublist words := by
  have same := List.findIdx_getElem (p := (wordsMatch · word)) (w := found)
  have beyond := List.drop_sublist (seek words word) words
  rw [List.drop_eq_getElem_cons found] at beyond
  exact ⟨words[seek words word], same, beyond⟩

/-- The first word of a query is found in the name, and the others stand after the place where it
is found first. -/
theorem Scattered.drop_seek (q : String) (found : Scattered (q :: query) name) :
    seek name q < name.length ∧ Scattered query (name.drop (seek name q + 1)) := by
  induction name with
  | nil => cases found
  | cons n ns ih =>
    rw [seek_cons]
    split
    · refine ⟨Nat.zero_lt_succ _, ?_⟩
      cases found with
      | cons _ rest => exact rest
      | cons_right rest => exact tail q rest
    · rename_i other
      cases found with
      | cons same _ => exact absurd (wordsMatch_comm q n ▸ same) other
      | cons_right rest =>
        obtain ⟨bound, later⟩ := ih rest
        exact ⟨Nat.succ_lt_succ bound, later⟩

theorem seek_scattered (n : String) (apart : Apart (n :: name)) (found : Scattered query name) :
    seek query n = query.length := by
  apply seek_absent
  intro asked member
  obtain ⟨shown, inName, same⟩ := found.exists_mem asked member
  have different := List.rel_of_pairwise_cons apart inName
  rw [Bool.eq_false_iff, ne_eq, wordsMatch_iff] at different ⊢
  exact fun equal => different (equal.symm.trans ((wordsMatch_iff asked shown).mp same))

end

theorem align_nil (name : List String) : align [] name = some 0 := by
  rw [align.eq_def]

theorem align_nil_name (query : List String) : align query [] = some 0 := by
  rw [align.eq_def]
  cases query <;> rfl

theorem align_cons (q n : String) (qs ns : List String) :
    align (q :: qs) (n :: ns) =
      if qs.length < seek (q :: qs) n ∧ ns.length < seek (n :: ns) q then none
      else if seek (q :: qs) n < seek (n :: ns) q then
        (align (qs.drop (seek (q :: qs) n)) ns).map (· + 1)
      else if seek (n :: ns) q < seek (q :: qs) n then
        (align qs (ns.drop (seek (n :: ns) q))).map (· + 1)
      else (align (qs.drop (seek (q :: qs) n)) (ns.drop (seek (n :: ns) q))).map (· + 1) := by
  rw [align.eq_def]

theorem align_comm (query name : List String) : align query name = align name query := by
  fun_induction align query name with
  | case1 name => rw [align_nil_name]
  | case2 q qs => rw [align_nil]
  | case3 q qs n ns i j lost => rw [align_cons, if_pos lost.symm]
  | case4 q qs n ns i j reached nearer ih =>
    rw [align_cons, if_neg (fun lost => reached lost.symm), if_neg (Nat.lt_asymm nearer),
      if_pos nearer, ih]
  | case5 q qs n ns i j reached _ nearer ih =>
    rw [align_cons, if_neg (fun lost => reached lost.symm), if_pos nearer, ih]
  | case6 q qs n ns i j reached later earlier ih =>
    rw [align_cons, if_neg (fun lost => reached lost.symm), if_neg earlier, if_neg later, ih]

theorem matchesQuery_iff (n : Name) (query : String) : n.matchesQuery query = true ↔
    ∃ count, align (wordsOf query) (wordsOf n.display) = some count ∧ 2 ≤ count := by
  rw [matchesQuery]
  cases align (wordsOf query) (wordsOf n.display) <;> simp

/-- Either of two names matches the other as it is displayed, or neither does. -/
theorem matchesQuery_comm (a b : Name) :
    a.matchesQuery b.display = b.matchesQuery a.display := by
  rw [matchesQuery, matchesQuery, align_comm]

/-- A step whose way into the query is no longer than its way into the name. -/
private theorem step_query (q n : String) (qs ns name : List String) (rest : Nat)
    (reached : ¬(qs.length < seek (q :: qs) n ∧ ns.length < seek (n :: ns) q))
    (later : name.Sublist ns) (walked : align (qs.drop (seek (q :: qs) n)) name = some rest) :
    ∃ a b query' name', wordsMatch a b = true ∧ (a :: query').Sublist (q :: qs) ∧
      (b :: name').Sublist (n :: ns) ∧ align query' name' = some rest := by
  by_cases lost : qs.length < seek (q :: qs) n
  -- All of the query is passed, so this is the last step; its pair is the word found in the name.
  · have found : seek (n :: ns) q < (n :: ns).length := by
      rw [List.length_cons]
      omega
    obtain ⟨b, same, beyond⟩ := seek_found (n :: ns) q found
    rw [List.drop_eq_nil_of_le (Nat.le_of_lt lost), align_nil] at walked
    refine ⟨q, b, [], [], wordsMatch_comm q b ▸ same, ?_, ?_, (align_nil []).trans walked⟩
    · exact (List.nil_sublist qs).cons_cons q
    · exact ((List.nil_sublist _).cons_cons b).trans beyond
  · have found : seek (q :: qs) n < (q :: qs).length := by
      rw [List.length_cons]
      omega
    obtain ⟨a, same, beyond⟩ := seek_found (q :: qs) n found
    exact ⟨a, n, _, name, same, beyond, later.cons_cons n, walked⟩

/-- A step that is counted finds a pair of matching words, and the walk goes on beyond both. -/
theorem align_step (q n : String) (qs ns : List String) (count : Nat)
    (walked : align (q :: qs) (n :: ns) = some (count + 1)) :
    ∃ a b query name, wordsMatch a b = true ∧ (a :: query).Sublist (q :: qs) ∧
      (b :: name).Sublist (n :: ns) ∧ align query name = some count := by
  rw [align_cons] at walked
  split at walked
  · contradiction
  rename_i reached
  have further {steps : Option Nat} (counted : steps.map (· + 1) = some (count + 1)) :
      steps = some count :=
    Option.map_injective Nat.succ_injective counted
  split at walked
  · exact step_query q n qs ns ns count reached (List.Sublist.refl ns) (further walked)
  split at walked
  -- The way into the name is the shorter one: the same step with the two in each other's place.
  · obtain ⟨b, a, name, query, same, shown, asked, walked⟩ :=
      step_query n q ns qs qs count (fun lost => reached lost.symm) (List.Sublist.refl qs)
        ((align_comm _ _).trans (further walked))
    exact ⟨a, b, query, name, wordsMatch_comm a b ▸ same, asked, shown,
      align_comm name query ▸ walked⟩
  · exact step_query q n qs ns _ count reached (List.drop_sublist _ ns) (further walked)

/-- As many words of a query as there are steps occur in the name, in order. -/
theorem align_matching (query name : List String) (count : Nat)
    (walked : align query name = some count) :
    ∃ asked, asked.length = count ∧ asked.Sublist query ∧ Scattered asked name := by
  induction count generalizing query name with
  | zero => exact ⟨[], rfl, List.nil_sublist _, .nil⟩
  | succ count ih =>
    cases query with
    | nil => simp [align_nil] at walked
    | cons q qs =>
      cases name with
      | nil => simp [align_nil_name] at walked
      | cons n ns =>
        obtain ⟨a, b, query, name, same, inQuery, inName, further⟩ :=
          align_step q n qs ns count walked
        obtain ⟨asked, length, later, found⟩ := ih query name further
        have pairs : Scattered (a :: asked) (b :: name) := .cons same found
        exact ⟨a :: asked, congrArg (· + 1) length, (later.cons_cons a).trans inQuery,
          pairs.mono inName⟩

/-- A query that matches has two words, at different places and in the same order on both sides,
that match words of the name. -/
theorem matchesQuery_aligned (n : Name) (query : String) (matched : n.matchesQuery query = true) :
    ∃ (q₁ q₂ : Fin (wordsOf query).length) (n₁ n₂ : Fin (wordsOf n.display).length),
      q₁ < q₂ ∧ n₁ < n₂ ∧ wordsMatch (wordsOf query)[q₁] (wordsOf n.display)[n₁] = true ∧
      wordsMatch (wordsOf query)[q₂] (wordsOf n.display)[n₂] = true := by
  obtain ⟨count, walked, two⟩ := (matchesQuery_iff n query).mp matched
  obtain ⟨asked, length, inQuery, found⟩ := align_matching _ _ count walked
  obtain ⟨shown, pairs, inName⟩ := List.sublistForall₂_iff.mp found
  obtain ⟨same, pairs⟩ := List.forall₂_iff_get.mp pairs
  obtain ⟨askedAt, atQuery⟩ := List.sublist_iff_exists_fin_orderEmbedding_get_eq.mp inQuery
  obtain ⟨shownAt, atName⟩ := List.sublist_iff_exists_fin_orderEmbedding_get_eq.mp inName
  have pair (i : Nat) (early : i < 2) := pairs i (by omega) (by omega)
  simp only [atQuery, atName] at pair
  refine ⟨askedAt ⟨0, by omega⟩, askedAt ⟨1, by omega⟩, shownAt ⟨0, by omega⟩,
    shownAt ⟨1, by omega⟩, ?_, ?_, pair 0 (by omega), pair 1 (by omega)⟩
  · exact askedAt.strictMono (by simp)
  · exact shownAt.strictMono (by simp)

def captain : Name where
  honorific := some "Capt"
  given := some "James"
  additional := some "Tiberius"
  family := some "Kirk"

theorem matchesQuery_aligned_captain : captain.matchesQuery "jim KIRK" = true ∧
    ∃ (q₁ q₂ : Fin (wordsOf "jim KIRK").length) (n₁ n₂ : Fin (wordsOf captain.display).length),
      q₁ < q₂ ∧ n₁ < n₂ ∧
      wordsMatch (wordsOf "jim KIRK")[q₁] (wordsOf captain.display)[n₁] = true ∧
      wordsMatch (wordsOf "jim KIRK")[q₂] (wordsOf captain.display)[n₂] = true := by
  have matched : captain.matchesQuery "jim KIRK" = true := by decide +kernel
  exact ⟨matched, matchesQuery_aligned captain "jim KIRK" matched⟩

section

variable {query name : List String}

/-- The step that is taken where a query stands in a name of different words. Its first word is
found; but if as many words stand before that word as the query has, all of the query is passed. -/
theorem align_scattered (q : String) (apart : Apart name) (found : Scattered (q :: query) name) :
    align (q :: query) name =
      if seek name q < (q :: query).length then
        (align query (name.drop (seek name q + 1))).map (· + 1)
      else some 1 := by
  cases name with
  | nil => cases found
  | cons n ns =>
    cases same : wordsMatch n q with
    | true =>
      have shown : seek (n :: ns) q = 0 := by rw [seek_cons, if_pos same]
      have asked : seek (q :: query) n = 0 := by
        rw [seek_cons, wordsMatch_comm, if_pos same]
      rw [align_cons, shown, asked]
      simp
    | false =>
      have inside : Scattered (q :: query) ns := by
        cases found with
        | cons other _ =>
          rw [wordsMatch_comm, same] at other
          contradiction
        | cons_right inside => exact inside
      -- The first word of the name is sought in vain, and its way then counts as all of the query.
      have lost := seek_scattered n apart inside
      have reached : ¬(query.length < query.length + 1 ∧ ns.length < seek (n :: ns) q) := by
        have bound := (found.drop_seek q).1
        rw [List.length_cons] at bound
        omega
      rw [align_cons, lost, List.length_cons, if_neg reached,
        List.drop_eq_nil_of_le (Nat.le_succ _), align_nil, align_nil, List.drop_succ_cons]
      rcases Nat.lt_trichotomy (seek (n :: ns) q) (query.length + 1) with fewer | equal | more
      · rw [if_neg (Nat.lt_asymm fewer), if_pos fewer, if_pos fewer]
      · simp [equal]
      · rw [if_pos more, if_neg (Nat.lt_asymm more), Option.map_some]

/-- Such a query is never turned down, and if it has a word then a step is counted. -/
theorem align_scattered_some (apart : Apart name) (found : Scattered query name) :
    ∃ count, align query name = some count ∧ (query ≠ [] → 1 ≤ count) := by
  induction query generalizing name with
  | nil => exact ⟨0, align_nil name, by simp⟩
  | cons q query ih =>
    rw [align_scattered q apart found]
    split
    · obtain ⟨count, walked, -⟩ := ih (apart.sublist (List.drop_sublist _ _)) (found.drop_seek q).2
      exact ⟨count + 1, by rw [walked, Option.map_some], by simp⟩
    · exact ⟨1, rfl, by simp⟩

end

/-- A query of two or more words that all occur in a name of different words, in order, matches
exactly if fewer words stand before the first of them than the query has. -/
theorem matchesQuery_scattered (n : Name) (query first second : String) (others : List String)
    (words : wordsOf query = first :: second :: others) (apart : Apart (wordsOf n.display))
    (found : Scattered (wordsOf query) (wordsOf n.display)) :
    n.matchesQuery query = true ↔ seek (wordsOf n.display) first < (wordsOf query).length := by
  rw [matchesQuery_iff, words]
  rw [words] at found
  rw [align_scattered first apart found]
  split
  · rename_i fewer
    obtain ⟨count, walked, counted⟩ :=
      align_scattered_some (apart.sublist (List.drop_sublist _ _)) (found.drop_seek first).2
    have one := counted (List.cons_ne_nil second others)
    exact iff_of_true ⟨count + 1, by rw [walked, Option.map_some], by omega⟩ fewer
  · rename_i hidden
    exact iff_of_false (by simp) hidden

theorem matchesQuery_scattered_captain :
    wordsOf "jim KIRK" = ["jim", "KIRK"] ∧ Apart (wordsOf captain.display) ∧
    Scattered (wordsOf "jim KIRK") (wordsOf captain.display) ∧
    (captain.matchesQuery "jim KIRK" = true ↔
      seek (wordsOf captain.display) "jim" < (wordsOf "jim KIRK").length) := by
  have words : wordsOf "jim KIRK" = ["jim", "KIRK"] := by decide +kernel
  have shown : wordsOf captain.display = ["Capt", "James", "Tiberius", "Kirk"] := by decide +kernel
  have apart : Apart (wordsOf captain.display) := by decide +kernel
  have found : Scattered (wordsOf "jim KIRK") (wordsOf captain.display) := by
    rw [words, shown]
    exact .cons_right (.cons (by decide +kernel) (.cons_right (.cons (by decide +kernel) .nil)))
  exact ⟨words, apart, found, matchesQuery_scattered captain _ _ _ _ words apart found⟩

def professor : Name where
  honorific := some "Prof Dr"
  given := some "Peter"
  family := some "Smith"

/-- Honorifics can hide a match. -/
theorem matchesQuery_hidden :
    Apart (wordsOf professor.display) ∧ (wordsOf "Peter Smith").length = 2 ∧
    Scattered (wordsOf "Peter Smith") (wordsOf professor.display) ∧
    professor.matchesQuery "Peter Smith" = false := by
  have asked : wordsOf "Peter Smith" = ["Peter", "Smith"] := by decide +kernel
  have shown : wordsOf professor.display = ["Prof", "Dr", "Peter", "Smith"] := by decide +kernel
  refine ⟨by decide +kernel, by rw [asked]; rfl, ?_, by decide +kernel⟩
  rw [asked, shown]
  exact .cons_right (.cons_right (.cons (by decide +kernel) (.cons (by decide +kernel) .nil)))

end CardFile.Name
