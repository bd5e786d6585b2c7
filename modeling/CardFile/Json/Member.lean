import CardFile.Json.Number

/-!
Values of other types as JSON. A structure is an object with a member for each of its fields, given
by a table; it can be read from an array of the fields, too. Members may come in any order but not
twice, those that are not in the table are ignored, and only members that may be null may be
missing.
-/
namespace CardFile.Json

inductive Fault
  | malformed
  | mismatch
  deriving DecidableEq

def unexpected : Json → Fault
  | broken => .malformed
  | unpaired => .malformed
  | number n => if n.score?.isSome then .mismatch else .malformed
  | _ => .mismatch

def asString : Json → Except Fault String
  | string s => .ok s
  | j => .error j.unexpected

def asBool : Json → Except Fault Bool
  | bool b => .ok b
  | j => .error j.unexpected

/-- Reads a whole number of 32 bits with sign. A negative zero is no whole number. -/
def asInt32 : Json → Except Fault Int
  | number n =>
    let magnitude := n.magnitude.digits
    let value : Int := if n.isNegative then -magnitude else magnitude
    if n.isWhole && !(n.isNegative && magnitude == 0) && -0x80000000 ≤ value &&
        value < 0x80000000 then
      .ok value
    else .error (unexpected (number n))
  | j => .error j.unexpected

def asScore : Json → Except Fault Score
  | number n =>
    match n.score? with
    | some score => .ok (if n.isNegative then .zero else score)
    | none => .error .malformed
  | j => .error j.unexpected

def asOption {α : Type} (read : Json → Except Fault α) : Json → Except Fault (Option α)
  | null => .ok none
  | j => (read j).map some

def asList {α : Type} (read : Json → Except Fault α) : Json → Except Fault (List α)
  | array items => items.mapM read
  | j => .error j.unexpected

def ofOption {α : Type} (write : α → Json) : Option α → Json
  | some a => write a
  | none => null

def ofList {α : Type} (write : α → Json) (l : List α) : Json :=
  array (l.map write)

structure Member (α : Type) where
  name : String
  required : Bool
  write : α → Json
  read : Json → α → Except Fault α

namespace Member

variable {α β : Type}

def field (name : String) (write : β → Json) (read : Json → Except Fault β) (get : α → β)
    (set : β → α → α) : Member α where
  name
  required := true
  write a := write (get a)
  read j a := (read j).map (set · a)

def optional (name : String) (write : β → Json) (read : Json → Except Fault β)
    (get : α → Option β) (set : Option β → α → α) : Member α where
  name
  required := false
  write a := ofOption write (get a)
  read j a := (asOption read j).map (set · a)

def text (name : String) (get : α → Option String) (set : Option String → α → α) : Member α :=
  optional name Json.string asString get set

end Member

def ofMembers {α : Type} (table : List (Member α)) (a : α) : Json :=
  object (table.map fun m => (m.name, m.write a))

def takeMembers {α : Type} (table : List (Member α)) (met : List String) (a : α) :
    List (String × Json) → Except Fault α
  | [] => if table.all fun m => !m.required || met.contains m.name then .ok a else .error .mismatch
  | (_, nameless _) :: _ => .error .malformed
  | (name, j) :: rest =>
    match table.find? (·.name == name) with
    | some m =>
      if met.contains name then .error .mismatch
      else do
        let a ← m.read j a
        takeMembers table (name :: met) a rest
    | none => if j.isBroken then .error .malformed else takeMembers table met a rest

def takeItems {α : Type} : List (Member α) → α → List Json → Except Fault α
  | [], a, [] => .ok a
  | [], _, _ :: _ => .error .malformed
  | _ :: _, _, [] => .error .mismatch
  | m :: table, a, j :: rest => do
    let a ← m.read j a
    takeItems table a rest

def asMembers {α : Type} (table : List (Member α)) (start : α) : Json → Except Fault α
  | object members => takeMembers table [] start members
  | array items => takeItems table start items
  | j => .error j.unexpected

end CardFile.Json
