import CardFile.Command.Format
import CardFile.Settings.Dotenv
import CardFile.Settings.Toml

/-!
The settings of the program. Variables of the environment come first, the configuration file is
written over them, and the outcome is laid over the defaults; so a table that the file starts anew
has its defaults even where a variable had replaced it.
-/
namespace CardFile

structure Settings where
  level : String
  format : Command.Format
  pretty : Bool

namespace Settings

inductive Fault
  | unreadable
  | blankLevel
  deriving DecidableEq

def Fault.message : Fault → String
  | unreadable => "Configuration error: the configuration cannot be read"
  | blankLevel => "Configuration error: logging.level must not be empty"

def validate (s : Settings) : Except Fault Unit :=
  if isAllBlank s.level then .error .blankLevel else .ok ()

def defaults : Tree :=
  .table [
    ("logging", .table [("level", .value (.text "info"))]),
    ("output", .table [("format", .value (.text "json")), ("pretty", .value (.truth true))])]

def variableNames : List String :=
  ["ROLODEX_LOGGING_LEVEL", "ROLODEX_OUTPUT_FORMAT", "ROLODEX_OUTPUT_PRETTY"]

def variableStart : List Char := "rolodex_".toList

/-- A level of a name, its words joined by underscores. Hyphens and spaces separate words. -/
def levelKey (level : List Char) : List Char :=
  let words := level.splitOnP fun c => c == '-' || c == ' '
  ['_'].intercalate (words.filter fun word => !word.isEmpty)

def namePath (name : List Char) : Path :=
  let levels := name.splitOnP fun c => c == '_' || c == '.'
  Path.ofText (['.'].intercalate (levels.map levelKey))

def variablePath? (name : String) : Option Path :=
  let lower := Text.lower name.toList
  if variableStart.isPrefixOf lower then some (namePath (lower.drop variableStart.length)) else none

/-- Writes a variable into a tree. An empty one counts as not set. -/
def putVariable (t : Tree) (entry : String × String) : Tree :=
  let (name, value) := entry
  match variablePath? name with
  | some path => if value.isEmpty then t else t.put (.value (.ofText value)) path
  | none => t

/-- A format is given by its name, or by a table with that name as its only key. -/
def formatOf? : Tree → Option Command.Format
  | .value (.text name) => Command.Format.ofName? name
  | .table [(name, _)] => Command.Format.ofName? name
  | _ => none

def scalarOf? : Tree → Option Scalar
  | .value v => some v
  | _ => none

def ofTree? (t : Tree) : Option Settings := do
  let logging ← t.child? "logging"
  let level ← logging.field? 0 "level" >>= scalarOf?
  let output ← t.child? "output"
  let format ← output.field? 0 "format" >>= formatOf?
  let pretty ← output.field? 1 "pretty" >>= scalarOf? >>= Scalar.toTruth?
  some ⟨level.toText, format, pretty⟩

def load (environment : Dotenv.Variables) (dotenv toml : Option String) :
    Except Fault Settings := do
  let entries := match dotenv with
    | some text => Dotenv.load text environment
    | none => environment
  let fromEnvironment := entries.foldl putVariable (.table [])
  let some given := match toml with
      | some text => Toml.write? text fromEnvironment
      | none => some fromEnvironment
    | .error .unreadable
  let some settings := ofTree? (defaults.overlaid given) | .error .unreadable
  settings.validate
  .ok settings

end Settings

end CardFile
