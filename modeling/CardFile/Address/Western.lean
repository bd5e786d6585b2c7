import CardFile.Address.Basic
import CardFile.Text.Lower

/-!
Splitting the lines of a label into an address by the conventions of Western addresses: box and
street first, then a line with the locality, then perhaps the country.
-/
namespace CardFile.Address

def boxLeaders : List String :=
  ["po box", "p.o. box", "p. o. box", "p.o.box", "pob ", "box "]

def isPostBox (line : List Char) : Bool :=
  boxLeaders.any fun leader => leader.toList.isPrefixOf (Text.lower line)

def hasDigit (s : List Char) : Bool :=
  s.any Char.isDigit

def labelLines (text : List Char) : List (List Char) :=
  ((Text.lines text).map Text.trim).filter fun line => !line.isEmpty

def joinedWords (ws : List (List Char)) : Option String :=
  joinNonEmpty " " (ws.map String.ofList)

/-- City, region and postal code. The city ends at the first comma, and without a comma there is
no region; the code is the run of words with digits at the end. -/
def splitLocality (line : List Char) : Option String × Option String × Option String :=
  let (city, rest) := match Text.cut ',' line with
    | some (city, rest) => (some (Text.trim city), rest)
    | none => (none, line)
  let ws := (Text.words rest).reverse
  let code := joinedWords (ws.takeWhile hasDigit).reverse
  let head := joinedWords (ws.dropWhile hasDigit).reverse
  match city with
  | some city => (filled (some (String.ofList city)), head, code)
  | none => (head, none, code)

/-- Takes the country off the end: a last line after two others, with no digit and no comma. -/
def takeCountry (lines : List (List Char)) : Option (List Char) × List (List Char) :=
  match lines.getLast? with
  | some last =>
    if 2 < lines.length ∧ !hasDigit last ∧ !last.contains ',' then (some last, lines.dropLast)
    else (none, lines)
  | none => (none, lines)

/-- Takes the locality off the end, if another line stands before it. -/
def takeLocality (lines : List (List Char)) : Option (List Char) × List (List Char) :=
  if 1 < lines.length then (lines.getLast?, lines.dropLast) else (none, lines)

def takePostBox (lines : List (List Char)) : Option (List Char) × List (List Char) :=
  (lines.find? isPostBox, lines.eraseP isPostBox)

def parse (text : String) : Address :=
  let (country, lines) := takeCountry (labelLines text.toList)
  let (locality, lines) := takeLocality lines
  let (po, streets) := takePostBox lines
  let (city, region, code) := (locality.map splitLocality).getD (none, none, none)
  { po := po.map String.ofList
    ext := joinNonEmpty ", " ((streets.drop 1).map String.ofList)
    street := streets.head?.map String.ofList
    city, region, code
    country := country.map String.ofList }

def ofLabel (label : AddressLabel) : Address :=
  { parse label.text with flags := label.flags }

end CardFile.Address
