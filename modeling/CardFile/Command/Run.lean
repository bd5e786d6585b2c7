import CardFile.Card.Encode
import CardFile.Card.Json
import CardFile.Command.Arguments

/-!
What the commands put out. A file is read as UTF-8, malformed or not. Unless the invocation is
strict, text that cannot be read counts as text without cards.
-/
namespace CardFile.Command

inductive FileFault
  | notFound
  | isDirectory
  | other (message : String)

def FileFault.message : FileFault → String
  | notFound => "No such file or directory (os error 2)"
  | isDirectory => "Is a directory (os error 21)"
  | other message => message

inductive Failure
  | file (fault : FileFault)
  | unreadable (e : Wire.Unclosed)
  | blankQuery (kind : String)

def Failure.message : Failure → String
  | file fault => "I/O error: " ++ fault.message
  | unreadable e => (Card.LoadFault.unreadable e).message
  | blankQuery kind => "Invalid input: " ++ kind ++ " query must not be empty"

namespace Query

def kind : Query → String
  | name _ => "name"
  | email _ => "email"

def text : Query → String
  | name text => text
  | email text => text

def matchesCard : Query → Card → Bool
  | name text, c => c.nameMatches text
  | email text, c => c.emailMatches text

end Query

def decodeOutput (format : Format) (pretty : Bool) (cards : List Card) : String :=
  match format with
  | .json => (Json.ofList Card.toJson cards).render pretty ++ "\n"
  | .vcard => Card.renderAll cards

/-- The file-as of each card that a query matches, one to a line. -/
def findOutput (query : Query) (cards : List Card) : Except Failure String :=
  if isAllBlank query.text then .error (.blankQuery query.kind)
  else .ok (String.join ((cards.filter query.matchesCard).map fun c => c.fileAsText ++ "\n"))

/-- The place of a score in a ranking. What is no number comes last. -/
def rank : Option Score → Nat
  | some s => s.code + 1
  | none => 0

def scoreText : Option Score → String
  | some s => s.fixed 3
  | none => "NaN"

/-- The score of each card on a day, the highest first; equal scores keep the order of the file. -/
def scoreOutput (today : Date) (cards : List Card) : String :=
  let scored := cards.map fun c => (c, c.effectiveScore? today)
  let ranked := scored.mergeSort fun a b => rank b.2 ≤ rank a.2
  String.join (ranked.map fun (c, score) => c.fileAsText ++ "\t" ++ scoreText score ++ "\n")

def cardsOf (strict : Bool) (octets : List UInt8) : Except Failure (List Card) :=
  let text := String.ofList (Text.Utf8.decode octets)
  if strict then (Card.loadStrict text).mapError .unreadable else .ok (Card.load text)

def Task.file : Task → String
  | decode file => file
  | find file _ => file
  | score file => file

def Invocation.run (i : Invocation) (contents : String → Except FileFault (List UInt8))
    (format : Format) (pretty : Bool) (today : Date) : Except Failure String := do
  let octets ← (contents i.task.file).mapError .file
  let cards ← cardsOf i.strict octets
  match i.task with
  | .decode _ => .ok (decodeOutput (i.format.getD format) pretty cards)
  | .find _ query => findOutput query cards
  | .score _ => .ok (scoreOutput today cards)

end CardFile.Command
