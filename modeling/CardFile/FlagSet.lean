import CardFile.Text.Ascii
import CardFile.Text.Blank
import CardFile.Wire.Record

/-!
Sets of flags, as telephone numbers and postal addresses have them. On the wire a flag is a marker
of its property; in text the flags of a set are joined by bars. A set may hold bits that no flag
stands for: they keep their place in the text form but have no marker.
-/
namespace CardFile

/-- The flags of a kind of set, the one of bit 0 first, and the number of bits a set has. -/
structure FlagTable where
  names : List String
  width : Nat

structure FlagSet (table : FlagTable) where
  bits : Nat
  deriving DecidableEq

namespace FlagSet

variable {table : FlagTable}

def empty : FlagSet table := ⟨0⟩

def contains (f : FlagSet table) (bit : Nat) : Bool :=
  f.bits.testBit bit

def insert (f : FlagSet table) (bit : Nat) : FlagSet table :=
  ⟨f.bits ||| 1 <<< bit⟩

def bitOf? (table : FlagTable) (marker : String) : Option Nat :=
  table.names.findIdx? fun name => sameIgnoringCase name marker

/-- The bits that an attribute stands for: one as a marker, any number as a `TYPE` parameter. -/
def bitsOf (table : FlagTable) (a : Attribute) : List Nat :=
  match a.text? with
  | none => (bitOf? table a.name).toList
  | some types =>
    if sameIgnoringCase a.name "TYPE" then
      (types.toList.splitOn ',').filterMap fun token =>
        bitOf? table (String.ofList (Text.trim token))
    else []

def ofAttributes (attributes : List Attribute) : FlagSet table :=
  (attributes.flatMap (bitsOf table)).foldl insert empty

def flagNames (f : FlagSet table) : List String :=
  table.names.zipIdx.filterMap fun (name, bit) => if f.contains bit then some name else none

def toMarkers (f : FlagSet table) : List Attribute :=
  f.flagNames.map Attribute.marker

def unnamed (f : FlagSet table) : Nat :=
  f.bits >>> table.names.length <<< table.names.length

/-- The names of the flags joined by bars, then the bits without a name as a hexadecimal number. -/
def toText (f : FlagSet table) : String :=
  " | ".intercalate (f.flagNames ++
    if f.unnamed = 0 then [] else ["0x" ++ String.ofList (Nat.toDigits 16 f.unnamed)])

def hexNumber? (bound : Nat) (s : List Char) : Option Nat :=
  let digits := match s with
    | '+' :: r => r
    | s => s
  if digits.isEmpty || digits.any fun c => !Text.isHexDigit c then none
  else
    let n := digits.foldl (fun n c => n * 16 + Text.hexValue c) 0
    if n < bound then some n else none

def piece? (table : FlagTable) (s : List Char) : Option Nat :=
  match s with
  | '0' :: 'x' :: digits => hexNumber? (1 <<< table.width) digits
  | s => (table.names.findIdx? fun name => name.toList == s).map fun bit => 1 <<< bit

/-- Reads the text form. Blanks may surround the pieces, and a blank text is the empty set. -/
def ofText? (s : String) : Option (FlagSet table) :=
  if isAllBlank s then some empty
  else do
    let pieces ← ((s.toList.splitOn '|').map Text.trim).mapM (piece? table)
    some ⟨pieces.foldl (· ||| ·) 0⟩

end FlagSet

def phoneTable : FlagTable where
  names := ["PREF", "WORK", "HOME", "VOICE", "FAX", "MSG", "CELL", "PAGER", "BBS", "MODEM", "CAR",
    "ISDN", "VIDEO"]
  width := 16

def addressTable : FlagTable where
  names := ["DOM", "INTL", "POSTAL", "PARCEL", "HOME", "WORK"]
  width := 8

abbrev PhoneFlags := FlagSet phoneTable

abbrev AddressFlags := FlagSet addressTable

end CardFile
