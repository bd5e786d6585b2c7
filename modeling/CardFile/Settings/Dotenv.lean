import CardFile.Text.Alphanumeric
import CardFile.Text.Blank

/-!
Files of variables: lines `NAME=value`, with quotes, escapes, comments, and references to variables
that are set already. Reading stops at the first line that is malformed, but keeps what came before.
A variable that is set already stays as it is.
-/
namespace CardFile.Settings.Dotenv

abbrev Variables := List (String × String)

inductive Place
  | plain
  | blank
  | escape
  | single
  | singleEscape
  | double
  | doubleEscape
  deriving DecidableEq

/-- The place after a character; `none` where a comment starts. -/
def Place.next? (p : Place) (c : Char) : Option Place :=
  match p with
  | blank =>
    if c = '#' then none
    else some (if c = '\\' then escape else if c = '"' then double else if c = '\'' then single
      else plain)
  | plain =>
    some (if Text.isBlank c ∧ c ≠ '\n' ∧ c ≠ '\r' then blank
      else if c = '\\' then escape else if c = '"' then double else if c = '\'' then single
      else plain)
  | escape => some plain
  | single => some (if c = '\\' then singleEscape else if c = '\'' then plain else single)
  | singleEscape => some single
  | double => some (if c = '\\' then doubleEscape else if c = '"' then plain else double)
  | doubleEscape => some double

def follow (p : Place) : List Char → List Char × Option Place
  | [] => ([], some p)
  | c :: r =>
    match p.next? c with
    | none => ([], none)
    | some p =>
      let (kept, place) := follow p r
      (c :: kept, place)

/-- Joins lines while quotes are open at their end; each line ends in its LF. The last element is
`none` if the text ends before the line does. -/
def joined (before : List Char) (p : Place) : List (List Char) → List (Option (List Char))
  | [] => if p = .plain then [] else [none]
  | line :: rest =>
    if ((before ++ line).dropWhile Text.isBlank).head? = some '#' then
      some [] :: joined [] .plain rest
    else match follow p line with
      | (kept, none) => some (before ++ kept) :: joined [] .plain rest
      | (_, some .plain) => some (before ++ line) :: joined [] .plain rest
      | (_, some p) => joined (before ++ line) p rest

def physicalLines (text : List Char) : List (List Char) :=
  let segments := text.splitOn '\n'
  segments.dropLast.map (· ++ ['\n']) ++ (segments.getLast?.toList.filter fun l => !l.isEmpty)

/-- How a value is being read. In a reference the name so far comes with it. -/
inductive Mode
  | plain
  | ended
  | escape (quoted : Bool)
  | single
  | double
  | reference (name : List Char) (quoted : Bool)
  | braced (name : List Char) (quoted : Bool)

def Variables.text (vars : Variables) (name : List Char) : List Char :=
  ((vars.lookup (String.ofList name)).getD "").toList

def Mode.within (quoted : Bool) : Mode :=
  if quoted then double else plain

/-- Reads a value, its quotes and escapes undone and its references replaced. A
name that is not in braces goes on while there are letters and numbers, of any script. -/
def readValue (vars : Variables) : Mode → List Char → Option (List Char)
  | .plain, [] => some []
  | .ended, [] => some []
  | .escape quoted, [] => if quoted then none else some []
  | .reference name quoted, [] => if quoted then none else some (vars.text name)
  | _, [] => none
  | .ended, c :: r =>
    if c = ' ' ∨ c = '\t' then readValue vars .ended r
    else if c = '#' then some []
    else none
  | .escape quoted, c :: r =>
    if c = 'n' then (readValue vars (.within quoted) r).map ('\n' :: ·)
    else if ['\\', '\'', '"', '$', ' '].contains c then
      (readValue vars (.within quoted) r).map (c :: ·)
    else none
  | .single, c :: r =>
    if c = '\'' then readValue vars .plain r else (readValue vars .single r).map (c :: ·)
  | .reference name quoted, c :: r =>
    if Text.isAlphanumeric c then readValue vars (.reference (name ++ [c]) quoted) r
    else if c = '\x7b' ∧ name = [] then readValue vars (.braced [] quoted) r
    else if c = '$' then (readValue vars (.reference [] quoted) r).map (vars.text name ++ ·)
    else (readValue vars (.within quoted) r).map (vars.text name ++ c :: ·)
  | .braced name quoted, c :: r =>
    if c = '\x7d' then (readValue vars (.within quoted) r).map (vars.text name ++ ·)
    else readValue vars (.braced (name ++ [c]) quoted) r
  | .double, c :: r =>
    if c = '$' then readValue vars (.reference [] true) r
    else if c = '"' then readValue vars .plain r
    else if c = '\\' then readValue vars (.escape true) r
    else (readValue vars .double r).map (c :: ·)
  | .plain, c :: r =>
    if c = '$' then readValue vars (.reference [] false) r
    else if c = '\'' then readValue vars .single r
    else if c = '"' then readValue vars .double r
    else if c = '\\' then readValue vars (.escape false) r
    else if c = ' ' ∨ c = '\t' then readValue vars .ended r
    else (readValue vars .plain r).map (c :: ·)

def isNameChar (c : Char) : Bool :=
  c.isAlphanum || c == '_' || c == '.'

def takeName? (s : List Char) : Option (List Char × List Char) :=
  match s with
  | c :: _ =>
    if c.isAlpha || c == '_' then
      some (s.takeWhile isNameChar, (s.dropWhile isNameChar).dropWhile Text.isBlank)
    else none
  | [] => none

def takeEqual? : List Char → Option (List Char)
  | '=' :: r => some r
  | _ => none

/-- The name that a line sets, and what follows its equals sign. The word `export` may stand in
front of the name. -/
def takeTarget? (line : List Char) : Option (List Char × List Char) := do
  let (name, rest) ← takeName? line
  match takeEqual? rest with
  | some rest => some (name, rest)
  | none =>
    if name = "export".toList then
      let (name, rest) ← takeName? rest
      let rest ← takeEqual? rest
      some (name, rest)
    else none

/-- What a line sets; `some none` for a line without content, `none` for a malformed one. -/
def assignment? (vars : Variables) (line : List Char) : Option (Option (String × String)) :=
  match Text.trim line with
  | [] => some none
  | '#' :: _ => some none
  | line => do
    let (name, rest) ← takeTarget? line
    let value ← match rest.dropWhile Text.isBlank with
      | [] => some []
      | '#' :: _ => some []
      | rest => readValue vars .plain rest
    some (some (String.ofList name, String.ofList value))

def setAll (vars : Variables) : List (Option (List Char)) → Variables
  | [] => vars
  | none :: _ => vars
  | some line :: rest =>
    match assignment? vars line with
    | none => vars
    | some none => setAll vars rest
    | some (some (name, value)) =>
      setAll (if (vars.lookup name).isSome then vars else vars ++ [(name, value)]) rest

def load (text : String) (vars : Variables) : Variables :=
  let text := match text.toList with
    | '\uFEFF' :: r => r
    | s => s
  setAll vars (joined [] .plain (physicalLines text))

end CardFile.Settings.Dotenv
