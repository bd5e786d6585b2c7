import CardFile.Text.Charset

/-!
The tree of a document: records, their properties, and the attributes of a property. An attribute
is either a parameter or a component of the structured value; the schema of the property's name
says which.
-/
namespace CardFile

/-- The value of a property or attribute. Octets come from a transfer encoding and are read in the
charset that was declared with them. -/
inductive Value
  | text (s : String)
  | octets (bytes : List UInt8) (charset : Option String)
  deriving DecidableEq

def Value.toText : Value → String
  | text s => s
  | octets bytes charset => Text.decodeLabelled charset bytes

structure Attribute where
  name : String
  value : Option Value := none
  deriving DecidableEq

namespace Attribute

def marker (name : String) : Attribute :=
  { name }

def ofText (name text : String) : Attribute :=
  { name, value := some (.text text) }

def text? (a : Attribute) : Option String :=
  a.value.map Value.toText

end Attribute

structure Property where
  group : Option String := none
  name : String
  value : Option Value := none
  attributes : List Attribute := []
  deriving DecidableEq

namespace Property

def ofText (name text : String) : Property :=
  { name, value := some (.text text) }

def text? (p : Property) : Option String :=
  p.value.map Value.toText

/-- The first attribute of a name, its case being significant. -/
def attribute? (p : Property) (name : String) : Option Attribute :=
  p.attributes.find? (·.name == name)

end Property

structure Record where
  name : String
  properties : List Property
  deriving DecidableEq

namespace Wire

def vcard : String := "VCARD"

/-- The components of a structured property, in the order of the value. Other properties have
none. -/
def schema? : String → Option (List String)
  | "N" => some ["F", "G", "ADD", "PRE", "SUF"]
  | "ADR" => some ["PO", "EXT", "STREET", "L", "R", "PC", "C"]
  | "ORG" => some ["ORGNAME", "OUN"]
  | _ => none

end Wire

end CardFile
