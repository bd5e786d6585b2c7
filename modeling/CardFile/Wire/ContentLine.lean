import CardFile.Wire.Parameter

/-!
Content lines: `[group.]name[;parameter]*:value`, read from one logical line. The value stays raw
here; what its transfer encoding and charset make of it is decided later.
-/
namespace CardFile.Wire

/-- A content line in its parts. The name is in capitals and the value as written. -/
structure ContentLine where
  group : Option String
  name : String
  parameters : List Parameter
  value : List Char
  deriving DecidableEq

inductive LineFault
  | noSeparator
  | badName (name : String)
  | parameter (fault : ParameterFault)
  deriving DecidableEq

namespace LineFault

def message : LineFault → String
  | noSeparator => "missing colon separator"
  | badName name => "invalid property name: " ++ name
  | parameter .emptyName => "empty parameter name"

def rule : LineFault → String
  | noSeparator => "invalid property name"
  | badName _ => "invalid property name"
  | parameter _ => "invalid parameter"

def report (line : Nat) (fault : LineFault) : String :=
  "line " ++ toString line ++ ": " ++ fault.rule ++ ": " ++ fault.message

end LineFault

def isNameChar (c : Char) : Bool :=
  c.isAlphanum || c == '-' || c == '_'

def isName (s : List Char) : Bool :=
  !s.isEmpty && s.all isNameChar

/-- Cuts a line at the first colon that an even number of double quotes precedes. -/
def cutValue (quoted : Bool) : List Char → Option (List Char × List Char)
  | [] => none
  | c :: r =>
    if c = ':' ∧ quoted = false then some ([], r)
    else (cutValue (if c = '"' then !quoted else quoted) r).map fun (head, value) =>
      (c :: head, value)

/-- The group of a head and what follows it. What stands before the first dot is a group only if
it is a name. -/
def cutGroup (head : List Char) : Option (List Char) × List Char :=
  match Text.cut '.' head with
  | some (group, rest) => if isName group then (some group, rest) else (none, head)
  | none => (none, head)

def cutName (head : List Char) : List Char × List Char :=
  (Text.cut ';' head).getD (head, [])

def ContentLine.read (line : List Char) : Except LineFault ContentLine :=
  match cutValue false line with
  | none => .error .noSeparator
  | some (head, value) =>
    let (group, rest) := cutGroup head
    let (name, parameters) := cutName rest
    if isName name then
      match readParameters parameters with
      | .error fault => .error (.parameter fault)
      | .ok parameters =>
        .ok ⟨group.map String.ofList, String.ofList (name.map Char.toUpper), parameters, value⟩
    else .error (.badName (String.ofList name))

end CardFile.Wire
