/-!
Classes of characters given by ranges of code points, as Unicode's data files give them.
-/
namespace CardFile.Text

def inRanges (ranges : List (Nat × Nat)) (c : Char) : Bool :=
  ranges.any fun (first, last) => first ≤ c.toNat && c.toNat ≤ last

end CardFile.Text
