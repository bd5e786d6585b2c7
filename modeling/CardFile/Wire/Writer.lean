import CardFile.Octets.QuotedPrintable
import CardFile.Text.Utf8
import CardFile.Wire.Fold
import CardFile.Wire.Parameter
import CardFile.Wire.Record
import CardFile.Wire.Structured

/-!
Writing records as vCard 2.1 text. Text that a content line cannot hold as it is goes through
quoted-printable, and every line is folded.
-/
namespace CardFile.Wire

/-- What follows the name and parameters of a property: transfer parameters, and the value as it
stands on the line. -/
structure Payload where
  parameters : List Char
  value : List Char

def needsQuotedPrintable (s : List Char) : Bool :=
  s.any fun c => Text.isControl c && c != '\t'

def isAscii (s : List Char) : Bool :=
  s.all fun c => c.toNat < 0x80

namespace Payload

def ofOctets (bytes : List UInt8) (charset : Option String) : Payload :=
  { parameters :=
      (match charset with
        | some label => ";CHARSET=".toList ++ label.toList
        | none => []) ++ ";QUOTED-PRINTABLE".toList
    value := QuotedPrintable.encode bytes }

/-- Plain where that is possible; otherwise the UTF-8 octets, labelled unless they are ASCII. -/
def ofText (s : List Char) : Payload :=
  if needsQuotedPrintable s then
    ofOctets (Text.Utf8.encode s) (if isAscii s then none else some "UTF-8")
  else ⟨[], s⟩

end Payload

def writeParameter (a : Attribute) : List Char :=
  ';' :: a.name.toList ++
    match a.text? with
    | some text => '=' :: writeValue text.toList
    | none => []

namespace Property

def components (p : Property) : List String :=
  (schema? p.name).getD []

def parameters (p : Property) : List Attribute :=
  p.attributes.filter fun a => !(components p).contains a.name

def hasComponents (p : Property) : Bool :=
  p.attributes.any fun a => (components p).contains a.name

/-- The text of a component, empty where it is missing. Of several, the first counts. -/
def component (p : Property) (name : String) : String :=
  ((p.attribute? name).bind Attribute.text?).getD ""

def structuredText (p : Property) : List Char :=
  joinComponents ((components p).map fun name => (component p name).toList)

/-- Components, where there are any, take the place of the value. -/
def payload (p : Property) : Payload :=
  if hasComponents p then .ofText (structuredText p)
  else match p.value with
    | some (.text s) => .ofText s.toList
    | some (.octets bytes charset) => .ofOctets bytes charset
    | none => ⟨[], []⟩

def line (p : Property) : List Char :=
  (match p.group with
    | some group => group.toList ++ ['.']
    | none => []) ++
  p.name.toList ++ (parameters p).flatMap writeParameter ++
  (payload p).parameters ++ ':' :: (payload p).value

end Property

/-- The lines of a record, before folding. A record without a version of its own is marked as
version 2.1. -/
def recordLines (r : Record) : List (List Char) :=
  ["BEGIN:".toList ++ r.name.toList] ++
  (if r.properties.any (·.name == "VERSION") then [] else ["VERSION:2.1".toList]) ++
  r.properties.map Property.line ++
  ["END:".toList ++ r.name.toList]

def render (records : List Record) : String :=
  String.ofList ((records.flatMap recordLines).flatMap fold)

end CardFile.Wire
