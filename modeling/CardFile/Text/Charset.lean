import CardFile.Text.Ascii
import CardFile.Text.Blank
import CardFile.Text.Utf8
import CardFile.Text.Charset.Table
import CardFile.Text.Surrogate

/-!
Character sets of octet values: the labels by which a set is declared, and the text that octets
stand for in it. Decoding never fails and gives no meaning to a byte order mark; what is malformed
becomes a replacement character. The multi-octet sets of Chinese, Japanese and Korean text have no
tables here: their labels are unknown, and octets under them are read as UTF-8.
-/
namespace CardFile.Text

inductive Charset
  | utf8
  | utf16 (bigEndian : Bool)
  | singleOctet (upper : List Nat)
  | userDefined
  /-- For labels of retired encodings: any text at all is a single replacement character. -/
  | withheld

namespace Charset

def labels : List (Charset × List String) := [
  (utf8, ["unicode-1-1-utf-8", "unicode11utf8", "unicode20utf8", "utf-8", "utf8",
    "x-unicode20utf8"]),
  (singleOctet windows1252, ["ansi_x3.4-1968", "ascii", "cp1252", "cp819", "csisolatin1", "ibm819",
    "iso-8859-1", "iso-ir-100", "iso8859-1", "iso88591", "iso_8859-1", "iso_8859-1:1987", "l1",
    "latin1", "us-ascii", "windows-1252", "x-cp1252"]),
  (singleOctet latin2, ["csisolatin2", "iso-8859-2", "iso-ir-101", "iso8859-2", "iso88592",
    "iso_8859-2", "iso_8859-2:1987", "l2", "latin2"]),
  (singleOctet latin9, ["csisolatin9", "iso-8859-15", "iso8859-15", "iso885915", "iso_8859-15",
    "l9"]),
  (singleOctet windows1251, ["cp1251", "windows-1251", "x-cp1251"]),
  (singleOctet koi8r, ["cskoi8r", "koi", "koi8", "koi8-r", "koi8_r"]),
  (singleOctet macRoman, ["csmacintosh", "mac", "macintosh", "x-mac-roman"]),
  (singleOctet windows874, ["dos-874", "iso-8859-11", "iso8859-11", "iso885911", "tis-620",
    "windows-874"]),
  (singleOctet windows1250, ["cp1250", "windows-1250", "x-cp1250"]),
  (singleOctet windows1253, ["cp1253", "windows-1253", "x-cp1253"]),
  (singleOctet windows1254, ["cp1254", "csisolatin5", "iso-8859-9", "iso-ir-148", "iso8859-9",
    "iso88599", "iso_8859-9", "iso_8859-9:1989", "l5", "latin5", "windows-1254", "x-cp1254"]),
  (singleOctet windows1255, ["cp1255", "windows-1255", "x-cp1255"]),
  (singleOctet windows1256, ["cp1256", "windows-1256", "x-cp1256"]),
  (singleOctet windows1257, ["cp1257", "windows-1257", "x-cp1257"]),
  (singleOctet windows1258, ["cp1258", "windows-1258", "x-cp1258"]),
  (singleOctet latin3, ["csisolatin3", "iso-8859-3", "iso-ir-109", "iso8859-3", "iso88593",
    "iso_8859-3", "iso_8859-3:1988", "l3", "latin3"]),
  (singleOctet latin4, ["csisolatin4", "iso-8859-4", "iso-ir-110", "iso8859-4", "iso88594",
    "iso_8859-4", "iso_8859-4:1988", "l4", "latin4"]),
  (singleOctet isoCyrillic, ["csisolatincyrillic", "cyrillic", "iso-8859-5", "iso-ir-144",
    "iso8859-5", "iso88595", "iso_8859-5", "iso_8859-5:1988"]),
  (singleOctet isoArabic, ["arabic", "asmo-708", "csiso88596e", "csiso88596i", "csisolatinarabic",
    "ecma-114", "iso-8859-6", "iso-8859-6-e", "iso-8859-6-i", "iso-ir-127", "iso8859-6", "iso88596",
    "iso_8859-6", "iso_8859-6:1987"]),
  (singleOctet isoGreek, ["csisolatingreek", "ecma-118", "elot_928", "greek", "greek8",
    "iso-8859-7", "iso-ir-126", "iso8859-7", "iso88597", "iso_8859-7", "iso_8859-7:1987",
    "sun_eu_greek"]),
  (singleOctet isoHebrew, ["csiso88598e", "csiso88598i", "csisolatinhebrew", "hebrew", "iso-8859-8",
    "iso-8859-8-e", "iso-8859-8-i", "iso-ir-138", "iso8859-8", "iso88598", "iso_8859-8",
    "iso_8859-8:1988", "logical", "visual"]),
  (singleOctet latin6, ["csisolatin6", "iso-8859-10", "iso-ir-157", "iso8859-10", "iso885910", "l6",
    "latin6"]),
  (singleOctet latin7, ["iso-8859-13", "iso8859-13", "iso885913"]),
  (singleOctet latin8, ["iso-8859-14", "iso8859-14", "iso885914"]),
  (singleOctet latin10, ["iso-8859-16"]),
  (singleOctet koi8u, ["koi8-ru", "koi8-u"]),
  (singleOctet ibm866, ["866", "cp866", "csibm866", "ibm866"]),
  (singleOctet macCyrillic, ["x-mac-cyrillic", "x-mac-ukrainian"]),
  (utf16 false, ["csunicode", "iso-10646-ucs-2", "ucs-2", "unicode", "unicodefeff", "utf-16",
    "utf-16le"]),
  (utf16 true, ["unicodefffe", "utf-16be"]),
  (userDefined, ["x-user-defined"]),
  (withheld, ["csiso2022kr", "hz-gb-2312", "iso-2022-cn", "iso-2022-cn-ext", "iso-2022-kr",
    "replacement"])]

/-- Finds the charset that a label names; ASCII case and surrounding ASCII blanks do not matter. -/
def ofLabel? (label : String) : Option Charset :=
  let wanted := (dropWhileEnd isAsciiBlank (label.toList.dropWhile isAsciiBlank)).map Char.toLower
  (labels.find? fun (_, names) => names.any fun name => name.toList == wanted).map (·.1)

/-- The sixteen-bit units of octets. A last octet without a partner is no unit; the flag tells. -/
def units (bigEndian : Bool) : List UInt8 → List Nat × Bool
  | [] => ([], false)
  | [_] => ([], true)
  | a :: b :: rest =>
    let unit := if bigEndian then a.toNat * 0x100 + b.toNat else b.toNat * 0x100 + a.toNat
    let (more, odd) := units bigEndian rest
    (unit :: more, odd)

/-- Joins surrogates in pairs. One left at the very end and an odd octet after it are malformed
together. -/
def decodeUnits (odd : Bool) : List Nat → List Char
  | [] => if odd then [Utf8.replacement] else []
  | [u] =>
    if isLeadSurrogate u then [Utf8.replacement]
    else if isTrailSurrogate u then Utf8.replacement :: decodeUnits odd []
    else Char.ofNat u :: decodeUnits odd []
  | u :: v :: rest =>
    if isLeadSurrogate u then
      if isTrailSurrogate v then
        joinSurrogates u v :: decodeUnits odd rest
      else Utf8.replacement :: decodeUnits odd (v :: rest)
    else if isTrailSurrogate u then Utf8.replacement :: decodeUnits odd (v :: rest)
    else Char.ofNat u :: decodeUnits odd (v :: rest)

def decodeOctet (upper : List Nat) (b : UInt8) : Char :=
  if b.toNat < 0x80 then Char.ofNat b.toNat
  else match upper[b.toNat - 0x80]? with
    | some n => Char.ofNat n
    | none => Utf8.replacement

def decode : Charset → List UInt8 → List Char
  | utf8, octets => Utf8.decode octets
  | utf16 bigEndian, octets =>
    let (us, odd) := units bigEndian octets
    decodeUnits odd us
  | singleOctet upper, octets => octets.map (decodeOctet upper)
  | userDefined, octets => octets.map fun b =>
    if b.toNat < 0x80 then Char.ofNat b.toNat else Char.ofNat (0xF700 + b.toNat)
  | withheld, octets => if octets.isEmpty then [] else [Utf8.replacement]

end Charset

/-- Decodes octets by the charset of a label; UTF-8 where the label is absent or unknown. -/
def decodeLabelled (label : Option String) (octets : List UInt8) : String :=
  String.ofList (((label.bind Charset.ofLabel?).getD .utf8).decode octets)

end CardFile.Text
