import CardFile.Wire.Fold
import CardFile.Wire.Transfer

/-!
Documents: the records of a text, read line by line. Text outside records is ignored, and so are
the blocks nested in a record; a content line that cannot be read is passed over. The only failure
is a block that is never closed.
-/
namespace CardFile.Wire

inductive Boundary
  | opening (block : List Char)
  | closing (block : List Char)
  deriving DecidableEq

/-- The tag before the first colon decides, whatever its case and surrounding blanks. -/
def Boundary.ofLine? (line : List Char) : Option Boundary :=
  match Text.cut ':' line with
  | none => none
  | some (tag, block) =>
    if Text.sameLetters (Text.trim tag) "BEGIN".toList then some (opening (Text.trim block))
    else if Text.sameLetters (Text.trim tag) "END".toList then some (closing (Text.trim block))
    else none

def isVCard (block : List Char) : Bool :=
  Text.sameLetters block vcard.toList

/-- A nested block that is open: its name as written and the number of its first line. -/
structure Block where
  name : List Char
  line : Nat
  deriving DecidableEq

structure OpenRecord where
  line : Nat
  properties : List Property
  deriving DecidableEq

namespace OpenRecord

def add (r : OpenRecord) (line : ContentLine) : OpenRecord :=
  { r with properties := r.properties ++ [line.toProperty] }

def close (r : OpenRecord) : Record :=
  ⟨vcard, r.properties⟩

end OpenRecord

/-- Where a reader stands between two lines. After a soft line break the content line waits for
its continuation, its break already taken off; inside nested blocks the innermost comes first. -/
inductive Place
  | outside
  | inside (record : OpenRecord)
  | continuing (record : OpenRecord) (line : ContentLine)
  | skipping (record : OpenRecord) (block : Block) (outer : List Block)
  deriving DecidableEq

structure Reader where
  records : List Record
  count : Nat
  place : Place
  deriving DecidableEq

/-- Takes in a content line, or waits if its value ends in a soft line break. -/
def OpenRecord.take (r : OpenRecord) (line : ContentLine) : Place :=
  if line.isQuotedPrintable && line.value.getLast? == some '=' then
    .continuing r { line with value := line.value.dropLast }
  else .inside (r.add line)

namespace Reader

def initial : Reader :=
  ⟨[], 0, .outside⟩

def stepInside (s : Reader) (r : OpenRecord) (line : List Char) : Reader :=
  let count := s.count + 1
  let content := match ContentLine.read line with
    | .ok content => r.take content
    | .error _ => .inside r
  match Boundary.ofLine? line with
  | some (.closing block) =>
    if isVCard block then ⟨s.records ++ [r.close], count, .outside⟩
    else ⟨s.records, count, content⟩
  | some (.opening block) => ⟨s.records, count, .skipping r ⟨block, count⟩ []⟩
  | none => ⟨s.records, count, content⟩

def step (s : Reader) (line : List Char) : Reader :=
  let count := s.count + 1
  match s.place with
  | .outside =>
    match Boundary.ofLine? line with
    | some (.opening block) =>
      if isVCard block then ⟨s.records, count, .inside ⟨count, []⟩⟩
      else ⟨s.records, count, .outside⟩
    | _ => ⟨s.records, count, .outside⟩
  | .inside r => s.stepInside r line
  | .continuing r waiting =>
    match Boundary.ofLine? line with
    | some _ => s.stepInside (r.add waiting) line
    | none => ⟨s.records, count, r.take { waiting with value := waiting.value ++ line }⟩
  | .skipping r block outer =>
    match Boundary.ofLine? line with
    | some (.closing name) =>
      if Text.sameLetters name block.name then
        match outer with
        | [] => ⟨s.records, count, .inside r⟩
        | next :: more => ⟨s.records, count, .skipping r next more⟩
      else ⟨s.records, count, .skipping r block outer⟩
    | some (.opening name) => ⟨s.records, count, .skipping r ⟨name, count⟩ (block :: outer)⟩
    | none => ⟨s.records, count, .skipping r block outer⟩

end Reader

/-- A block that the text leaves open, and the number of its first line. -/
structure Unclosed where
  line : Nat
  block : String
  deriving DecidableEq

def Unclosed.report (e : Unclosed) : String :=
  "line " ++ toString e.line ++ ": unexpected end of input: " ++ e.block ++
    " not closed with END:" ++ e.block

def Reader.finish (s : Reader) : Except Unclosed (List Record) :=
  match s.place with
  | .outside => .ok s.records
  | .inside r => .error ⟨r.line, vcard⟩
  | .continuing r _ => .error ⟨r.line, vcard⟩
  | .skipping _ block _ => .error ⟨block.line, String.ofList block.name⟩

def readLines (lines : List (List Char)) : Except Unclosed (List Record) :=
  (lines.foldl Reader.step Reader.initial).finish

/-- The records in a text, one for each block named VCARD that is not nested in another. -/
def parse (text : String) : Except Unclosed (List Record) :=
  readLines (logicalLines text.toList)

end CardFile.Wire
