/-!
The forms in which cards are put out.
-/
namespace CardFile.Command

inductive Format
  | json
  | vcard
  deriving DecidableEq

/-- The form of a name; its case is significant. -/
def Format.ofName? : String → Option Format
  | "json" => some json
  | "vcard" => some vcard
  | _ => none

end CardFile.Command
