import CardFile.Text.Ascii
import CardFile.Text.Blank

/-!
Parameters of a content line. A value may be quoted, which makes semicolons and colons part of it,
and caret escapes stand for the characters that even a quoted value cannot hold.
-/
namespace CardFile.Wire

/-- A parameter, or a marker where there is no value. -/
structure Parameter where
  name : String
  value : Option String
  deriving DecidableEq

namespace Parameter

def isNamed (p : Parameter) (name : String) : Bool :=
  sameIgnoringCase p.name name

end Parameter

/-- Writes a parameter value. Control characters other than LF have no written form and are left
out. -/
def escapeValue : List Char → List Char
  | [] => []
  | '^' :: r => '^' :: '^' :: escapeValue r
  | '\n' :: r => '^' :: 'n' :: escapeValue r
  | '"' :: r => '^' :: '\'' :: escapeValue r
  | c :: r => if Text.isControl c then escapeValue r else c :: escapeValue r

def needsQuotes (s : List Char) : Bool :=
  s.any fun c => c == '"' || c == ':' || c == ';' || c == ','

def writeValue (s : List Char) : List Char :=
  if needsQuotes s then '"' :: escapeValue s ++ ['"'] else escapeValue s

def consValue (c : Char) : List Char × List Char → List Char × List Char
  | (value, rest) => (c :: value, rest)

/-- Reads a value to the next semicolon outside quotes, or to the end. The second part is what
follows that semicolon. -/
def readValue (quoted : Bool) : List Char → List Char × List Char
  | [] => ([], [])
  | '"' :: r => readValue (!quoted) r
  | ';' :: r => if quoted then consValue ';' (readValue quoted r) else ([], r)
  | '^' :: 'n' :: r => consValue '\n' (readValue quoted r)
  | '^' :: '\'' :: r => consValue '"' (readValue quoted r)
  | '^' :: '^' :: r => consValue '^' (readValue quoted r)
  | c :: r => consValue c (readValue quoted r)

theorem readValue_suffix (quoted : Bool) (s : List Char) : (readValue quoted s).2 <:+ s := by
  fun_induction readValue quoted s with
  | case1 => exact List.suffix_rfl
  | case4 => exact List.suffix_cons _ _
  | case5 _ _ ih => exact ih.trans (List.suffix_append ['^', 'n'] _)
  | case6 _ _ ih => exact ih.trans (List.suffix_append ['^', '\''] _)
  | case7 _ _ ih => exact ih.trans (List.suffix_append ['^', '^'] _)
  | _ => rename_i ih; exact ih.trans (List.suffix_cons _ _)

inductive ParameterFault
  | emptyName
  deriving DecidableEq

def consMarker (name : List Char) (more : List Parameter) : List Parameter :=
  if name.isEmpty then more else ⟨String.ofList name, none⟩ :: more

/-- Reads parameters separated by semicolons. Empty segments are passed over. -/
def readParameters (s : List Char) : Except ParameterFault (List Parameter) :=
  if s.isEmpty then .ok [] else
  let name := Text.trim (s.takeWhile fun c => c != '=' && c != ';')
  match _h : s.dropWhile fun c => c != '=' && c != ';' with
  | [] => .ok (consMarker name [])
  | stop :: r =>
    if stop = '=' then
      if name.isEmpty then .error .emptyName
      else do
        let more ← readParameters (readValue false r).2
        .ok (⟨String.ofList name, some (String.ofList (readValue false r).1)⟩ :: more)
    else do
      let more ← readParameters r
      .ok (consMarker name more)
termination_by s.length
decreasing_by
  all_goals
    have hr := congrArg List.length _h
    have hs := (List.dropWhile_suffix (fun c => c != '=' && c != ';') (l := s)).length_le
    have hv := (readValue_suffix false r).length_le
    simp only [List.length_cons] at hr
    omega

end CardFile.Wire
