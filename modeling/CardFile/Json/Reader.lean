import CardFile.Json.Basic
import CardFile.Text.Ascii
import CardFile.Text.Surrogate

/-!
Reading JSON. Reading goes on until the text is used up or goes wrong, and what was read up to
there is kept, so that whoever takes the value apart meets the faults in the order of the text.
-/
namespace CardFile.Json

def isBlank (c : Char) : Bool :=
  c == ' ' || c == '\t' || c == '\n' || c == '\r'

def skipBlanks (s : List Char) : List Char :=
  s.dropWhile isBlank

def unit? (a b c d : Char) : Option Nat :=
  if [a, b, c, d].all Text.isHexDigit then
    some ([a, b, c, d].foldl (fun n c => n * 16 + Text.hexValue c) 0)
  else none

def escaped? (c : Char) : Option Char :=
  match c with
  | '"' => some '"'
  | '\\' => some '\\'
  | '/' => some '/'
  | 'b' => some '\x08'
  | 'f' => some '\x0C'
  | 'n' => some '\n'
  | 'r' => some '\r'
  | 't' => some '\t'
  | _ => none

def consCode (code : Nat) (read : Option (List Nat × List Char)) :
    Option (List Nat × List Char) :=
  read.map fun (codes, rest) => (code :: codes, rest)

/-- Reads a string to its closing quote, as code points and the units of escapes. -/
def readCodes : List Char → Option (List Nat × List Char)
  | [] => none
  | '"' :: r => some ([], r)
  | '\\' :: 'u' :: a :: b :: c :: d :: r =>
    match unit? a b c d with
    | some unit => consCode unit (readCodes r)
    | none => none
  | '\\' :: c :: r =>
    match escaped? c with
    | some c => consCode c.toNat (readCodes r)
    | none => none
  | c :: r => if c = '\\' ∨ c.toNat < 0x20 then none else consCode c.toNat (readCodes r)

/-- True of the numerals that are JSON: no plus sign, no needless zero in front, and digits on
both sides of a point. -/
def isNumber (n : Numeral) : Bool :=
  n.sign != ['+'] && (n.whole == ['0'] || (n.whole != [] && n.whole.head? != some '0')) &&
    (n.point.isEmpty || !n.fraction.isEmpty)

/-- Reads a number. The mark of an exponent must have its digits; a second mark is not part of the
number. -/
def readNumber (s : List Char) : Option (Numeral × List Char) :=
  match Numeral.scan? s with
  | none => none
  | some n =>
    let rest := s.drop n.text.length
    let marked := match rest with
      | c :: _ => n.mark.isEmpty && (c == 'e' || c == 'E')
      | [] => false
    if isNumber n && !marked then some (n, rest) else none

def readLeaf (s : List Char) : Json × List Char :=
  match s with
  | 'n' :: 'u' :: 'l' :: 'l' :: r => (.null, r)
  | 't' :: 'r' :: 'u' :: 'e' :: r => (.bool true, r)
  | 'f' :: 'a' :: 'l' :: 's' :: 'e' :: r => (.bool false, r)
  | '"' :: r =>
    match readCodes r with
    | some (codes, r) => (((Text.joinCodes? codes).map (.string ∘ String.ofList)).getD .unpaired, r)
    | none => (.broken, [])
  | s =>
    match readNumber s with
    | some (n, r) => (.number n, r)
    | none => (.broken, [])

def member (codes : List Nat) (value : Json) : String × Json :=
  match Text.joinCodes? codes with
  | some name => (String.ofList name, value)
  | none => ("", .nameless value)

/-- Reads the name of a member and the colon after it. A name without a colon is kept for the
value that is missing. -/
def readName (s : List Char) : List Nat × Option (List Char) :=
  match skipBlanks s with
  | '"' :: r =>
    match readCodes r with
    | some (codes, r) =>
      match skipBlanks r with
      | ':' :: r => (codes, some r)
      | _ => (codes, none)
    | none => ([], none)
  | _ => ([], none)

mutual

/-- Reads a value and gives the text after it. `fuel` bounds the depth of the calls; twice the
length of the text is enough. -/
def readValue (fuel : Nat) (s : List Char) : Json × List Char :=
  match fuel with
  | 0 => (.broken, [])
  | fuel + 1 =>
    match skipBlanks s with
    | '[' :: r =>
      match skipBlanks r with
      | ']' :: r => (.array [], r)
      | r =>
        let (items, r) := readItems fuel r
        (.array items, r)
    | '\x7b' :: r =>
      match skipBlanks r with
      | '\x7d' :: r => (.object [], r)
      | r =>
        let (members, r) := readMembers fuel r
        (.object members, r)
    | s => readLeaf s

def readItems (fuel : Nat) (s : List Char) : List Json × List Char :=
  match fuel with
  | 0 => ([.broken], [])
  | fuel + 1 =>
    let (item, r) := readValue fuel s
    match skipBlanks r with
    | ',' :: r =>
      let (items, r) := readItems fuel r
      (item :: items, r)
    | ']' :: r => ([item], r)
    | _ => ([item, .broken], [])

def readMembers (fuel : Nat) (s : List Char) : List (String × Json) × List Char :=
  match fuel with
  | 0 => ([("", .broken)], [])
  | fuel + 1 =>
    match readName s with
    | (codes, none) => ([member codes .broken], [])
    | (codes, some r) =>
      let (value, r) := readValue fuel r
      match skipBlanks r with
      | ',' :: r =>
        let (members, r) := readMembers fuel r
        (member codes value :: members, r)
      | '\x7d' :: r => ([member codes value], r)
      | _ => ([member codes value, ("", .broken)], [])

end

/-- Reads a text. The second part tells whether only blanks follow the value. -/
def read (text : String) : Json × Bool :=
  let (j, rest) := readValue (2 * text.toList.length + 2) text.toList
  (j, rest.all isBlank)

end CardFile.Json
