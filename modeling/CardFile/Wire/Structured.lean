/-!
Structured values: a list of components joined by semicolons, in which a backslash before a
semicolon or a backslash makes it part of the component.
-/
namespace CardFile.Wire

def escapeComponent : List Char → List Char
  | [] => []
  | c :: r => if c = '\\' ∨ c = ';' then '\\' :: c :: escapeComponent r else c :: escapeComponent r

def consFirst (c : Char) : List (List Char) → List (List Char)
  | [] => [[c]]
  | first :: more => (c :: first) :: more

/-- The components of a value; there is always one. A backslash before any other character stands
for itself. -/
def splitComponents : List Char → List (List Char)
  | [] => [[]]
  | '\\' :: ';' :: r => consFirst ';' (splitComponents r)
  | '\\' :: '\\' :: r => consFirst '\\' (splitComponents r)
  | ';' :: r => [] :: splitComponents r
  | c :: r => consFirst c (splitComponents r)

def joinComponents (components : List (List Char)) : List Char :=
  [';'].intercalate (components.map escapeComponent)

end CardFile.Wire
