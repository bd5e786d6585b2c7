import CardFile.Email
import CardFile.Proofs.Trim

/-!
Mailboxes by the labels of their domains. One domain is a subdomain of another if the labels of the
other are the last of its own, so two addresses name one mailbox if their local parts agree and the
labels of one domain are the last of the other's. Labels may be empty, and a second `@` is a
character of the domain like any other.
-/
namespace CardFile

namespace Text

theorem cut_eq_takeWhile (sep : Char) (s : List Char) : cut sep s =
    if sep ∈ s then some (s.takeWhile (· != sep), (s.dropWhile (· != sep)).drop 1) else none := by
  induction s with
  | nil => rfl
  | cons c s ih =>
    rw [cut]
    by_cases here : c = sep
    · simp [here]
    · have other : sep ∈ c :: s ↔ sep ∈ s := by simp [Ne.symm here]
      rw [if_neg here, ih]
      by_cases later : sep ∈ s <;> simp [here, later, other]

theorem cut_map (sep : Char) (f : Char → Char) (kept : ∀ c, f c = sep ↔ c = sep) (s : List Char) :
    cut sep (s.map f) = (cut sep s).map fun (before, after) => (before.map f, after.map f) := by
  induction s with
  | nil => rfl
  | cons c s ih =>
    rw [List.map_cons, cut, cut, ih]
    by_cases here : c = sep
    · rw [if_pos here, if_pos ((kept c).mpr here)]
      rfl
    · rw [if_neg here, if_neg fun same => here ((kept c).mp same), Option.map_map, Option.map_map]
      rfl

theorem intercalate_append (sep : Char) (front back : List (List Char)) (before : front ≠ [])
    (after : back ≠ []) : [sep].intercalate (front ++ back) =
      [sep].intercalate front ++ sep :: [sep].intercalate back := by
  induction front with
  | nil => exact absurd rfl before
  | cons first others ih =>
    rw [List.cons_append, List.intercalate_cons_of_ne_nil (by simp [after])]
    cases others with
    | nil => simp [List.intercalate_singleton]
    | cons second others =>
      rw [ih (List.cons_ne_nil second others), List.intercalate_cons_cons]
      simp

end Text

namespace Email

/-- What stands before the first `@`, which is the whole address if it has none. -/
def localPart (address : String) : List Char :=
  address.toList.takeWhile (· != '@')

def domain (address : String) : List Char :=
  ((address.toList.dropWhile (· != '@')).drop 1).map Char.toLower

def labels (address : String) : List (List Char) :=
  (domain address).splitOn '.'

private theorem toLower_mark (c : Char) : c.toLower = '@' ↔ c = '@' := by
  by_cases capital : 65 ≤ c.val.toNat ∧ c.val.toNat ≤ 90
  · have lowered : c.toLower.val.toNat = (c.val.toNat + 32) % 2 ^ 32 :=
      congrArg (fun d : Char => d.val.toNat) (dif_pos capital)
    constructor
    · intro mark
      rw [mark] at lowered
      have code : '@'.val.toNat = 64 := rfl
      omega
    · rintro rfl
      exact absurd capital (by decide)
  · have kept : c.toLower = c := dif_neg capital
    rw [kept]

private theorem split_lowered (address : String) : split (address.toList.map Char.toLower) =
    ((localPart address).map Char.toLower,
      if '@' ∈ address.toList then some (domain address) else none) := by
  rw [split, Text.cut_map '@' _ toLower_mark, Text.cut_eq_takeWhile]
  by_cases marked : '@' ∈ address.toList
  · simp [marked, localPart, domain]
  · have whole : address.toList.takeWhile (· != '@') = address.toList := by
      rw [List.takeWhile_eq_self_iff]
      intro c member
      simpa using fun same : c = '@' => marked (same ▸ member)
    simp [marked, localPart, whole]

private theorem isSubdomain_iff (domain parent : List Char) :
    isSubdomain domain parent = true ↔ ('.' :: parent) <:+ domain :=
  List.isSuffixOf_iff_suffix

theorem labels_suffix_iff (parent domain : List Char) :
    parent.splitOn '.' <:+ domain.splitOn '.' ↔
      domain = parent ∨ isSubdomain domain parent = true := by
  rw [isSubdomain_iff]
  constructor
  · rintro ⟨front, whole⟩
    have same := congrArg ['.'].intercalate whole
    rw [List.intercalate_splitOn] at same
    cases front with
    | nil =>
      rw [List.nil_append, List.intercalate_splitOn] at same
      exact Or.inl same.symm
    | cons first others =>
      rw [Text.intercalate_append '.' _ _ (List.cons_ne_nil first others)
        (List.splitOn_ne_nil '.' parent), List.intercalate_splitOn] at same
      exact Or.inr ⟨_, same⟩
  · rintro (rfl | ⟨front, rfl⟩)
    · exact List.suffix_rfl
    · rw [List.splitOn_append_cons_self]
      exact List.suffix_append _ _

private theorem domainsMatch_iff (a b : String) : domainsMatch (domain a) (domain b) = true ↔
    labels a <:+ labels b ∨ labels b <:+ labels a := by
  rw [labels, labels, labels_suffix_iff, labels_suffix_iff, domainsMatch, Bool.or_eq_true,
    Bool.or_eq_true, beq_iff_eq, eq_comm (a := domain b)]
  tauto

private theorem sameMailbox_iff (a b : String) : sameMailbox a b = true ↔
    Text.sameLetters (localPart a) (localPart b) = true ∧
      ('@' ∉ a.toList ∧ '@' ∉ b.toList ∨
        '@' ∈ a.toList ∧ '@' ∈ b.toList ∧ (labels a <:+ labels b ∨ labels b <:+ labels a)) := by
  rw [← domainsMatch_iff, sameMailbox, split_lowered, split_lowered, Bool.and_eq_true]
  apply and_congr_right
  intro _
  by_cases inA : '@' ∈ a.toList <;> by_cases inB : '@' ∈ b.toList <;> simp [inA, inB]

/-- Two addresses name one mailbox if their local parts are equal up to the case of ASCII letters,
and either neither has a domain, or both have one and the labels of one domain are the last labels
of the other. So every address names its own mailbox, and it does not matter which of the two is
asked for. -/
theorem sameMailbox_labels :
    (∀ a b : String, sameMailbox a b = true ↔
      Text.sameLetters (localPart a) (localPart b) = true ∧
        ('@' ∉ a.toList ∧ '@' ∉ b.toList ∨
          '@' ∈ a.toList ∧ '@' ∈ b.toList ∧ (labels a <:+ labels b ∨ labels b <:+ labels a))) ∧
    (∀ a : String, sameMailbox a a = true) ∧
    ∀ a b : String, sameMailbox a b = sameMailbox b a := by
  refine ⟨sameMailbox_iff, ?_, ?_⟩
  · intro a
    rw [sameMailbox_iff]
    refine ⟨by rw [Text.sameLetters, beq_self_eq_true], ?_⟩
    by_cases marked : '@' ∈ a.toList
    · exact Or.inr ⟨marked, marked, Or.inl List.suffix_rfl⟩
    · exact Or.inl ⟨marked, marked⟩
  · intro a b
    rw [Bool.eq_iff_iff, sameMailbox_iff, sameMailbox_iff, Text.sameLetters, Text.sameLetters,
      beq_iff_eq, beq_iff_eq, eq_comm]
    tauto

end Email

end CardFile
