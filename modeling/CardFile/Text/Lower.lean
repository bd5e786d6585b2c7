import CardFile.Text.CaseTable
import CardFile.Text.Range

/-!
Lower case for all of Unicode. Each character is mapped on its own, with two exceptions: U+0130
becomes two characters, and a capital sigma that ends a word becomes the final form.
-/
namespace CardFile.Text

def isCaseIgnorable (c : Char) : Bool :=
  inRanges caseIgnorableRanges c

def isCased (c : Char) : Bool :=
  inRanges casedRanges c

def lowerChar (c : Char) : List Char :=
  if c.toNat < 0x80 then [c.toLower]
  else if c.toNat = 0x130 then ['i', '\u0307']
  else match lowerRuns.findSome? (CaseRun.imageOf? · c.toNat) with
    | some n => [Char.ofNat n]
    | none => [c]

/-- True when the nearest character that is not passed over is a letter with case. -/
def meetsCased (s : List Char) : Bool :=
  match s.dropWhile isCaseIgnorable with
  | [] => false
  | c :: _ => isCased c

/-- Maps the rest of a text, given the characters before it, the nearest first. -/
def lowerAfter (before : List Char) : List Char → List Char
  | [] => []
  | c :: r =>
    (if c = 'Σ' then [if meetsCased before && !meetsCased r then 'ς' else 'σ'] else lowerChar c) ++
      lowerAfter (c :: before) r

def lower (s : List Char) : List Char :=
  lowerAfter [] s

end CardFile.Text
