import CardFile.Json.Basic

/-!
Writing JSON, on one line or with two spaces of indentation. Only quotes, backslashes and the
control characters below U+0020 are escaped.
-/
namespace CardFile.Json

def escapeChar (c : Char) : List Char :=
  if c = '"' then ['\\', '"']
  else if c = '\\' then ['\\', '\\']
  else if c = '\n' then ['\\', 'n']
  else if c = '\r' then ['\\', 'r']
  else if c = '\t' then ['\\', 't']
  else if c = '\x08' then ['\\', 'b']
  else if c = '\x0C' then ['\\', 'f']
  else if c.toNat < 0x20 then
    ['\\', 'u', '0', '0', Nat.digitChar (c.toNat / 16), Nat.digitChar (c.toNat % 16)]
  else [c]

def writeString (s : String) : List Char :=
  '"' :: s.toList.flatMap escapeChar ++ ['"']

def writeLeaf : Json → List Char
  | null => "null".toList
  | bool b => if b then "true".toList else "false".toList
  | number n => n.text
  | string s => writeString s
  | _ => []

mutual

def compact : Json → List Char
  | array items => '[' :: compactItems items ++ [']']
  | object members => '\x7b' :: compactMembers members ++ ['\x7d']
  | j => writeLeaf j

def compactItems : List Json → List Char
  | [] => []
  | [j] => compact j
  | j :: rest => compact j ++ ',' :: compactItems rest

def compactMembers : List (String × Json) → List Char
  | [] => []
  | [(name, j)] => writeString name ++ ':' :: compact j
  | (name, j) :: rest => writeString name ++ ':' :: compact j ++ ',' :: compactMembers rest

end

def newLine (level : Nat) : List Char :=
  '\n' :: List.replicate (2 * level) ' '

mutual

def indented (level : Nat) : Json → List Char
  | array [] => ['[', ']']
  | object [] => ['\x7b', '\x7d']
  | array items => '[' :: indentedItems (level + 1) items ++ newLine level ++ [']']
  | object members => '\x7b' :: indentedMembers (level + 1) members ++ newLine level ++ ['\x7d']
  | j => writeLeaf j

def indentedItems (level : Nat) : List Json → List Char
  | [] => []
  | [j] => newLine level ++ indented level j
  | j :: rest => newLine level ++ indented level j ++ ',' :: indentedItems level rest

def indentedMembers (level : Nat) : List (String × Json) → List Char
  | [] => []
  | [(name, j)] => newLine level ++ writeString name ++ ':' :: ' ' :: indented level j
  | (name, j) :: rest =>
    newLine level ++ writeString name ++ ':' :: ' ' :: indented level j ++
      ',' :: indentedMembers level rest

end

def render (pretty : Bool) (j : Json) : String :=
  String.ofList (if pretty then indented 0 j else compact j)

end CardFile.Json
