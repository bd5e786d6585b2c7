import CardFile.Command.Arguments

/-!
What the program says where arguments lead to no invocation.
-/
namespace CardFile.Command

def version : String := "0.1.0"

def usage : String :=
  "Inspect and normalize vCard address books\n\n" ++
  "Usage: rolodex [--strict] [--format json|vcard] COMMAND\n\n" ++
  "Commands:\n" ++
  "  decode FILE               Print every card of a file\n" ++
  "  match FILE --name TEXT    Print the file-as of the cards that a name matches\n" ++
  "  match FILE --email TEXT   Print the file-as of the cards that an address matches\n" ++
  "  score FILE                Print the use score of each card, the highest first\n" ++
  "  help [COMMAND]            Print this text\n\n" ++
  "Options:\n" ++
  "  --strict                  Fail on malformed text instead of treating it as empty\n" ++
  "  --format json|vcard       The form in which cards are printed\n" ++
  "  -h, --help                Print this text\n" ++
  "  -V, --version             Print the version\n"

namespace Refusal

def isAnswer : Refusal → Bool
  | help => true
  | version => true
  | _ => false

def message : Refusal → String
  | invalidValue => "error: a value is missing or is not one of the possible values\n"
  | missingArgument => "error: a required argument was not provided\n"
  | conflict => "error: an argument was given twice, or with one that excludes it\n"
  | unknownArgument => "error: unexpected argument\n"
  | unknownCommand => "error: unrecognized command\n"
  | missingCommand => "error: a command is required\n"
  | surplusValue => "error: a value was given to an option that takes none\n"
  | help => usage
  | version => "rolodex " ++ Command.version ++ "\n"
  | helpForNothing => usage

end Refusal

end CardFile.Command
