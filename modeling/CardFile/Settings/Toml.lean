import CardFile.Settings.Value
import CardFile.Text.Ascii
import CardFile.Text.Blank

/-!
Configuration files in TOML. Covered are comments, table headers, and keys, dotted, quoted or not,
with strings on one line, truth values, numbers and the empty list; anything else is refused. A key
or table may be defined only once.
-/
namespace CardFile.Settings.Toml

def isBlank (c : Char) : Bool :=
  c == ' ' || c == '\t'

def skipBlanks (s : List Char) : List Char :=
  s.dropWhile isBlank

/-- Control characters, other than tab, may not stand anywhere. -/
def isForbidden (c : Char) : Bool :=
  (c.toNat < 0x20 && c != '\t') || c.toNat = 0x7F

/-- Nothing more on a line than blanks and a comment. -/
def isLineEnd (s : List Char) : Bool :=
  match skipBlanks s with
  | [] => true
  | '#' :: comment => !comment.any isForbidden
  | _ => false

def escapedCode? (digits : List Char) : Option Char :=
  if digits.all Text.isHexDigit then
    let n := digits.foldl (fun n c => n * 16 + Text.hexValue c) 0
    if n.isValidChar then some (Char.ofNat n) else none
  else none

def escaped? (c : Char) : Option Char :=
  match c with
  | 'b' => some '\x08'
  | 't' => some '\t'
  | 'n' => some '\n'
  | 'f' => some '\x0C'
  | 'r' => some '\r'
  | 'e' => some '\x1B'
  | '"' => some '"'
  | '\\' => some '\\'
  | _ => none

private def consTaken (c : Option Char) (taken : Option (List Char × List Char)) :
    Option (List Char × List Char) := do
  let c ← c
  let (s, rest) ← taken
  some (c :: s, rest)

def takeString? : List Char → Option (List Char × List Char)
  | [] => none
  | '"' :: r => some ([], r)
  | '\\' :: 'x' :: a :: b :: r => consTaken (escapedCode? [a, b]) (takeString? r)
  | '\\' :: 'u' :: a :: b :: c :: d :: r => consTaken (escapedCode? [a, b, c, d]) (takeString? r)
  | '\\' :: 'U' :: a :: b :: c :: d :: e :: f :: g :: h :: r =>
    consTaken (escapedCode? [a, b, c, d, e, f, g, h]) (takeString? r)
  | '\\' :: c :: r => consTaken (escaped? c) (takeString? r)
  | c :: r => if c = '\\' ∨ isForbidden c then none else consTaken (some c) (takeString? r)

def takeLiteral? (s : List Char) : Option (List Char × List Char) := do
  let (text, rest) ← Text.cut '\'' s
  if text.any isForbidden then none else some (text, rest)

def takeKey? : List Char → Option (List Char × List Char)
  | '"' :: r => takeString? r
  | '\'' :: r => takeLiteral? r
  | s =>
    let name := s.takeWhile isKeyChar
    if name.isEmpty then none else some (name, s.drop name.length)

/-- Reads keys with points between them, and the blanks around each. `fuel` bounds their number; the
length of the text is enough. -/
def takeKeys? (fuel : Nat) (s : List Char) : Option (List String × List Char) :=
  match fuel with
  | 0 => none
  | fuel + 1 => do
    let (name, rest) ← takeKey? (skipBlanks s)
    match skipBlanks rest with
    | '.' :: r =>
      let (names, rest) ← takeKeys? fuel r
      some (String.ofList name :: names, rest)
    | rest => some ([String.ofList name], rest)

def digits? (isOfKind : Char → Bool) (s : List Char) : Option (List Char) :=
  let groups := s.splitOn '_'
  if groups.any List.isEmpty || !groups.all (·.all isOfKind) then none else some groups.flatten

def wholeInBase? (base : Nat) (s : List Char) : Option Scalar := do
  let digits ← digits? (fun c => Text.isHexDigit c && Text.hexValue c < base) s
  let n := digits.foldl (fun n c => n * base + Text.hexValue c) 0
  if n < 0x8000000000000000 then some (.whole n) else none

/-- Digits before the point, which begin with a zero only if it is all there is. -/
def leadingDigits? (s : List Char) : Option (List Char) := do
  let digits ← digits? Char.isDigit s
  if digits.head? = some '0' ∧ digits ≠ ['0'] then none else some digits

/-- A number with a fraction, an exponent or both. A finite numeral must have a finite value. -/
def real? (s : List Char) : Option Scalar := do
  let (sign, rest) := Numeral.takeSign s
  let mantissa := rest.takeWhile fun c => c != 'e' && c != 'E'
  let power := rest.drop mantissa.length
  let whole ← leadingDigits? (mantissa.takeWhile (· != '.'))
  let fraction ← match mantissa.dropWhile (· != '.') with
    | [] => some []
    | _ :: r => ('.' :: ·) <$> digits? Char.isDigit r
  let power ← match power with
    | [] => some []
    | _ :: r =>
      let (sign, r) := Numeral.takeSign r
      ('e' :: sign ++ ·) <$> digits? Char.isDigit r
  match realOfText? (sign ++ whole ++ fraction ++ power) with
  | some (.real negative magnitude) =>
    if magnitude.isFinite then some (.real negative magnitude) else none
  | _ => none

/-- A number. Only numbers in base ten may have a sign. -/
def number? (s : List Char) : Option Scalar :=
  match s with
  | '0' :: 'x' :: r => wholeInBase? 16 r
  | '0' :: 'o' :: r => wholeInBase? 8 r
  | '0' :: 'b' :: r => wholeInBase? 2 r
  | s =>
    let (sign, rest) := Numeral.takeSign s
    if rest = "inf".toList ∨ rest = "nan".toList then realOfText? s
    else match leadingDigits? rest with
      | some digits => (wholeOfText? (sign ++ digits)).map .whole
      | none => real? s

def scalar? (s : List Char) : Option Scalar :=
  match s with
  | '"' :: r => do
    let (text, rest) ← takeString? r
    if isLineEnd rest then some (.text (String.ofList text)) else none
  | '\'' :: r => do
    let (text, rest) ← takeLiteral? r
    if isLineEnd rest then some (.text (String.ofList text)) else none
  | s =>
    let word := s.takeWhile fun c => !isBlank c && c != '#'
    if !isLineEnd (s.drop word.length) then none
    else if word = "true".toList then some (.truth true)
    else if word = "false".toList then some (.truth false)
    else number? word

inductive Origin
  | value
  | header
  /-- By a header of a table inside it. -/
  | outer
  /-- By a dotted key that passes through it. -/
  | dotted
  deriving DecidableEq

/-- What is known between two lines: the definitions so far, the latest first, each by its full
path; the table that keys belong to; and the tree that has been written. -/
structure State where
  defined : List (List String × Origin)
  current : List String
  tree : Tree
  /-- True inside the brackets of an empty list, which may be lines apart. -/
  inList : Bool

def treePath : List String → Path
  | [] => []
  | key :: keys => Path.ofText key.toList ++ keys.map .key

namespace State

/-- Passes through a table. One that is not defined yet is defined now; otherwise it must have come
about in one of the ways given. -/
def pass? (origin : Origin) (allowed : List Origin) (s : State) (path : List String) :
    Option State :=
  match s.defined.lookup path with
  | none => some { s with defined := (path, origin) :: s.defined }
  | some found => if allowed.contains found then some s else none

/-- Reads a header. Its table must be new, or known from headers of tables inside it only. -/
def addHeader? (s : State) (path : List String) : Option State := do
  let outer := (List.range' 1 (path.length - 1)).map path.take
  let s ← outer.foldlM (pass? .outer [.outer, .header, .dotted]) s
  let found := s.defined.lookup path
  if found = none ∨ found = some .outer then
    some { s with
      defined := (path, .header) :: s.defined, current := path
      tree := s.tree.ensureTable (treePath path) }
  else none

/-- Reads a key. It must be new, and the table that holds it must be the current one or come from
dotted keys. -/
def addKey? (s : State) (path : List String) : Option State := do
  let full := s.current ++ path
  let passed := (List.range' 1 (path.length - 1)).map fun n => s.current ++ path.take n
  let s ← passed.foldlM (pass? .dotted [.outer, .dotted]) s
  if passed.getLast?.all fun table => s.defined.lookup table = some .dotted then
    if s.defined.lookup full = none then
      some { s with defined := (full, .value) :: s.defined }
    else none
  else none

def write (s : State) (path : List String) (new : Tree) : State :=
  { s with tree := s.tree.put new (treePath (s.current ++ path)) }

def closeList? (s : State) (line : List Char) : Option State :=
  match skipBlanks line with
  | ']' :: r => if isLineEnd r then some { s with inList := false } else none
  | _ => if isLineEnd line then some { s with inList := true } else none

def statement? (s : State) (line : List Char) : Option State := do
  match skipBlanks line with
  | '[' :: r =>
    let (path, rest) ← takeKeys? r.length r
    match rest with
    | ']' :: rest => if isLineEnd rest then s.addHeader? path else none
    | _ => none
  | line =>
    let (path, rest) ← takeKeys? line.length line
    let s ← s.addKey? path
    let write := s.write path
    match rest with
    | '=' :: rest =>
      match skipBlanks rest with
      | '[' :: rest => (write (.list [])).closeList? rest
      | rest => (write ∘ .value) <$> scalar? rest
    | _ => none

def line? (s : State) (line : List Char) : Option State :=
  if s.inList then s.closeList? line
  else if isLineEnd line then some s
  else s.statement? line

end State

/-- The content of a file, without the byte order marks that may stand in front of it: one as in
any text file, and one that TOML allows. -/
def content (text : String) : List Char :=
  match text.toList with
  | '\uFEFF' :: '\uFEFF' :: r => r
  | '\uFEFF' :: r => r
  | s => s

def write? (text : String) (t : Tree) : Option Tree := do
  let s ← (Text.lines (content text)).foldlM State.line? ⟨[], [], t, false⟩
  if s.inList then none else some s.tree

end CardFile.Settings.Toml
