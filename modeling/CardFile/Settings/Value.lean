import CardFile.Score.Text
import CardFile.Settings.Path
import CardFile.Text.Lower

/-!
Values of a configuration, and the tree of tables and lists that they are kept in. Sources write one
value after another; what a path leads to takes the place of what was there before, and a table or
list on the way takes the place of anything else.
-/
namespace CardFile.Settings

inductive Scalar
  | text (s : String)
  | truth (b : Bool)
  | whole (n : Int)
  /-- A number that is not whole, or too large for 64 bits, by sign and magnitude. -/
  | real (negative : Bool) (magnitude : Score)
  | notANumber

inductive Tree
  /-- A place in a list that nothing was written to. -/
  | vacant
  | value (v : Scalar)
  | list (items : List Tree)
  | table (entries : List (String × Tree))

namespace Tree

def entries : Tree → List (String × Tree)
  | table entries => entries
  | _ => []

def items : Tree → List Tree
  | list items => items
  | _ => []

def child? (t : Tree) (key : String) : Option Tree :=
  t.entries.lookup key

def modifyEntry (f : Tree → Tree) (key : String) (t : Tree) : Tree :=
  let old := (t.child? key).getD vacant
  table ((t.entries.filter fun (k, _) => k != key) ++ [(key, f old)])

/-- Changes the item at a place, which is made if the list ends before it. -/
def modifyItem (f : Tree → Tree) (place : Nat) (t : Tree) : Tree :=
  let missing := List.replicate (place + 1 - t.items.length) vacant
  list ((t.items ++ missing).modify place f)

def modify (f : Tree → Tree) : Path → Tree → Tree
  | [], t => f t
  | .key name :: path, t => t.modifyEntry (modify f path) name
  | .item place :: path, t => t.modifyItem (modify f path) place

def put (t new : Tree) (path : Path) : Tree :=
  t.modify (fun _ => new) path

def ensureTable (t : Tree) (path : Path) : Tree :=
  t.modify (fun old => table old.entries) path

mutual

/-- Lays a tree over another. Tables are merged entry by entry; any other tree takes the place of
what it is laid over. -/
def overlaid (base : Tree) : Tree → Tree
  | table entries => overlaidBy (table base.entries) entries
  | new => new

def overlaidBy (base : Tree) : List (String × Tree) → Tree
  | [] => base
  | (key, new) :: rest => overlaidBy (base.modifyEntry (fun old => overlaid old new) key) rest

end

/-- A field of a structure, which may be given as a table or as the list of its fields. -/
def field? (t : Tree) (place : Nat) (key : String) : Option Tree :=
  match t with
  | list items => items[place]?
  | t => t.child? key

end Tree

def wholeOfText? (s : List Char) : Option Int :=
  let (sign, digits) := Numeral.takeSign s
  if digits.isEmpty || !digits.all Char.isDigit then none
  else
    let magnitude : Int := Nat.ofDigitChars 10 digits 0
    let n := if sign = ['-'] then -magnitude else magnitude
    if -0x8000000000000000 ≤ n ∧ n < 0x8000000000000000 then some n else none

/-- A number with an optional fraction and exponent, or one of the names of what is none. -/
def realOfText? (s : List Char) : Option Scalar :=
  let (sign, rest) := Numeral.takeSign s
  let name := String.ofList (rest.map Char.toLower)
  if name = "inf" ∨ name = "infinity" then some (.real (sign == ['-']) .infinity)
  else if name = "nan" then some .notANumber
  else match Numeral.scan? s with
    | some n => if n.text = s then some (.real n.isNegative n.magnitude.toScore) else none
    | none => none

def truthOfText? (s : List Char) : Option Bool :=
  if Text.lower s = "true".toList then some true
  else if Text.lower s = "false".toList then some false
  else none

def Scalar.ofText (s : String) : Scalar :=
  match truthOfText? s.toList with
  | some b => truth b
  | none =>
    match wholeOfText? s.toList with
    | some n => whole n
    | none => (realOfText? s.toList).getD (text s)

def Scalar.toText : Scalar → String
  | text s => s
  | truth b => if b then "true" else "false"
  | whole n => toString n
  | real negative magnitude => (if negative then "-" else "") ++ magnitude.shortestText
  | notANumber => "NaN"

/-- A value as yes or no: words of either meaning, and numbers by whether they differ from 0. -/
def Scalar.toTruth? : Scalar → Option Bool
  | text s =>
    let word := String.ofList (Text.lower s.toList)
    if ["1", "true", "on", "yes"].contains word then some true
    else if ["0", "false", "off", "no"].contains word then some false
    else none
  | truth b => some b
  | whole n => some (n != 0)
  | real _ magnitude => some (magnitude != .zero)
  | notANumber => some true

end CardFile.Settings
