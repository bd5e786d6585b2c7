import CardFile.Octets.Base64
import CardFile.Octets.QuotedPrintable
import CardFile.Wire.ContentLine
import CardFile.Wire.Record
import CardFile.Wire.Structured

/-!
From content lines to properties. Parameters that declare a transfer encoding or a charset are
used up in decoding the value; the others become attributes, and so do the components of a
structured value.
-/
namespace CardFile.Wire

inductive Transfer
  | identity
  | quotedPrintable
  | base64
  deriving DecidableEq

namespace Transfer

def ofLabel (label : String) : Transfer :=
  if sameIgnoringCase label "QUOTED-PRINTABLE" then quotedPrintable
  else if sameIgnoringCase label "BASE64" || sameIgnoringCase label "B" then base64
  else identity

/-- The encoding that a parameter declares: by `ENCODING=`, with any label, or by a marker that is
itself the label of an encoding. -/
def ofParameter? (p : Parameter) : Option Transfer :=
  match p.value with
  | some label => if p.isNamed "ENCODING" then some (ofLabel label) else none
  | none =>
    match ofLabel p.name with
    | identity => none
    | declared => some declared

/-- The last declaration counts. -/
def declared (parameters : List Parameter) : Transfer :=
  (parameters.filterMap ofParameter?).getLast?.getD identity

end Transfer

def charsetOf? (p : Parameter) : Option String :=
  if p.isNamed "CHARSET" then p.value else none

def declaredCharset (parameters : List Parameter) : Option String :=
  (parameters.filterMap charsetOf?).getLast?

/-- The attribute of a parameter that declares neither a transfer encoding nor a charset. -/
def attributeOf? (p : Parameter) : Option Attribute :=
  if (Transfer.ofParameter? p).isSome || (charsetOf? p).isSome then none
  else some { name := p.name, value := p.value.map .text }

namespace ContentLine

/-- True when soft line breaks may continue the value on the following lines. -/
def isQuotedPrintable (line : ContentLine) : Bool :=
  line.parameters.any fun p =>
    match p.value with
    | none => p.isNamed "QUOTED-PRINTABLE"
    | some label => p.isNamed "ENCODING" && sameIgnoringCase label "QUOTED-PRINTABLE"

/-- The value, out of its transfer encoding. Base64 that is malformed stays as written. -/
def decodedValue (line : ContentLine) : Value :=
  match Transfer.declared line.parameters with
  | .identity => .text (String.ofList line.value)
  | .quotedPrintable =>
    .octets (QuotedPrintable.decode line.value) (declaredCharset line.parameters)
  | .base64 =>
    match Base64.decode? line.value with
    | some bytes => .octets bytes (declaredCharset line.parameters)
    | none => .text (String.ofList line.value)

def componentsOf (names : List String) (value : Value) : List Attribute :=
  (names.zip (splitComponents value.toText.toList)).filterMap fun (name, component) =>
    if component.isEmpty then none else some (.ofText name (String.ofList component))

def toProperty (line : ContentLine) : Property :=
  let attributes := line.parameters.filterMap attributeOf?
  match schema? line.name with
  | some names =>
    { group := line.group, name := line.name
      attributes := attributes ++ componentsOf names line.decodedValue }
  | none =>
    { group := line.group, name := line.name
      value := some line.decodedValue, attributes }

end ContentLine

end CardFile.Wire
