import CardFile.Name.Basic
import CardFile.Text.Lower

/-!
Splitting a full name into components by the conventions of Western names: honorifics first and
suffixes last, the given name before the family name, or after it and a comma.
-/
namespace CardFile.Name

def honorifics : List String :=
  ["mr", "mrs", "ms", "miss", "mx", "dr", "prof", "rev", "fr", "sir", "dame", "lady", "lord", "hon",
    "capt"]

def suffixes : List String :=
  ["jr", "sr", "ii", "iii", "iv", "v", "vi", "phd", "ph.d", "md", "dds", "esq", "mba", "cpa"]

/-- Words that belong to the family name after them, if written in lower case. -/
def particles : List String :=
  ["van", "von", "de", "der", "den", "da", "das", "dos", "di", "del", "della", "du", "la", "le",
    "st", "st.", "bin", "ibn"]

/-- A word in lower case, without the commas and full stops at its end. -/
def bare (word : String) : String :=
  String.ofList (Text.lower (Text.dropWhileEnd (fun c => c == ',' || c == '.') word.toList))

def isHonorific (word : String) : Bool :=
  honorifics.contains (bare word)

def isSuffix (word : String) : Bool :=
  suffixes.contains (bare word)

def isParticle (word : String) : Bool :=
  particles.contains word

def stripCommas (word : String) : String :=
  String.ofList (Text.dropWhileEnd (· == ',') word.toList)

/-- Takes words from the front while they satisfy `p` and more than `keep` are left. -/
def takeLeading (p : String → Bool) (keep : Nat) : List String → List String × List String
  | [] => ([], [])
  | w :: ws =>
    if keep ≤ ws.length ∧ p w then
      let (taken, rest) := takeLeading p keep ws
      (w :: taken, rest)
    else ([], w :: ws)

/-- Takes words from the end while they satisfy `p` and more than `keep` are left. -/
def takeTrailing (p : String → Bool) (keep : Nat) (ws : List String) :
    List String × List String :=
  let (taken, rest) := takeLeading p keep ws.reverse
  (taken.reverse, rest.reverse)

def joinWords (ws : List String) : Option String :=
  joinNonEmpty " " (ws.map stripCommas)

/-- The words of a name without honorifics and suffixes: given, additional and family names. The
family name is the last word and the particles right before it. -/
def splitMiddle : List String → List String × List String × List String
  | [] => ([], [], [])
  | [only] => ([only], [], [])
  | first :: second :: more =>
    let rest := second :: more
    let (particles, additional) := takeTrailing isParticle 0 rest.dropLast
    ([first], additional, particles ++ rest.getLast?.toList)

def parseForward (fullName : String) : Name :=
  let (honorifics, rest) := takeLeading isHonorific 1 (wordsOf fullName)
  let (suffixes, middle) := takeTrailing isSuffix 1 rest
  let (given, additional, family) := splitMiddle middle
  { honorific := joinNonEmpty " " honorifics
    given := joinWords given
    additional := joinWords additional
    family := joinWords family
    suffix := joinWords suffixes }

def parseReversed (family rest : String) : Name :=
  let (honorifics, rest) := takeLeading isHonorific 0 (wordsOf rest)
  let (suffixes, names) := takeTrailing isSuffix 0 rest
  { honorific := joinNonEmpty " " honorifics
    given := joinWords (names.take 1)
    additional := joinWords (names.drop 1)
    family := joinNonEmpty " " [trimmed family]
    suffix := joinWords suffixes }

/-- A comma does not reverse a name if only suffixes follow it. -/
def onlySuffixes (after : String) : Bool :=
  !(wordsOf after).isEmpty && (wordsOf after).all isSuffix

def parse (fullName : String) : Name :=
  match Text.cut ',' (trimmed fullName).toList with
  | some (before, after) =>
    if onlySuffixes (String.ofList after) then parseForward (trimmed fullName)
    else parseReversed (String.ofList before) (String.ofList after)
  | none => parseForward (trimmed fullName)

end CardFile.Name
