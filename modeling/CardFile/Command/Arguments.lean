import CardFile.Command.Format
import CardFile.Text.Blank

/-!
The command line. The program takes two options of its own, `--strict` and `--format`, then a
command with its file and options; the program's options may also stand among those of the command.
Arguments are taken from left to right, and the first that cannot be understood settles the outcome,
but the value of an option or file is looked at only when the next argument is understood.
-/
namespace CardFile.Command

inductive Query
  | name (text : String)
  | email (text : String)
  deriving DecidableEq

inductive Task
  | decode (file : String)
  | find (file : String) (query : Query)
  | score (file : String)
  deriving DecidableEq

structure Invocation where
  strict : Bool
  format : Option Format
  task : Task
  deriving DecidableEq

/-- Why arguments lead to no invocation. Help and the version are given in place of one. -/
inductive Refusal
  | invalidValue
  | missingArgument
  | conflict
  | unknownArgument
  | unknownCommand
  | missingCommand
  | surplusValue
  | help
  | version
  | helpForNothing
  deriving DecidableEq

inductive Level
  | program
  | decode
  | find
  | score
  deriving DecidableEq

def Level.ofCommand? : String → Option Level
  | "decode" => some decode
  | "match" => some find
  | "score" => some score
  | _ => none

inductive Switch
  | strict
  | help
  | version
  deriving DecidableEq

inductive Setting
  | format
  | name
  | email
  deriving DecidableEq

def Level.long? (level : Level) (name : String) : Option (Switch ⊕ Setting) :=
  match name with
  | "strict" => some (.inl .strict)
  | "format" => some (.inr .format)
  | "help" => some (.inl .help)
  | "version" => if level = program then some (.inl .version) else none
  | "name" => if level = find then some (.inr .name) else none
  | "email" => if level = find then some (.inr .email) else none
  | _ => none

def Level.short? (level : Level) (letter : Char) : Option Switch :=
  if letter = 'h' then some .help
  else if letter = 'V' ∧ level = program then some .version
  else none

/-- A value that has been met but not looked at; none if an option still waits for it. -/
inductive Pending
  | setting (option : Setting) (value : Option String)
  | file (value : String)

structure Given where
  strict : Bool := false
  format : Option Format := none
  name : Option String := none
  email : Option String := none
  file : Option String := none
  pending : Option Pending := none

namespace Given

/-- Sets an option. None may be set twice. -/
def set (g : Given) (option : Setting) (value : String) : Except Refusal Given :=
  match option with
  | .format =>
    if g.format.isSome then .error .conflict
    else match Format.ofName? value with
      | some f => .ok { g with format := some f }
      | none => .error .invalidValue
  | .name => if g.name.isSome then .error .conflict else .ok { g with name := some value }
  | .email => if g.email.isSome then .error .conflict else .ok { g with email := some value }

/-- Looks at the pending value. An option must have one, and a file cannot be empty. -/
def settle (g : Given) : Except Refusal Given :=
  match g.pending with
  | none => .ok g
  | some (.setting _ none) => .error .invalidValue
  | some (.setting option (some value)) => set { g with pending := none } option value
  | some (.file value) =>
    if value = "" then .error .invalidValue
    else .ok { g with file := some value, pending := none }

def waiting? (g : Given) : Option Setting :=
  match g.pending with
  | some (.setting option none) => some option
  | _ => none

def hasFile (g : Given) : Bool :=
  g.file.isSome ||
    match g.pending with
    | some (.file _) => true
    | _ => false

def takeFile (g : Given) (value : String) : Except Refusal Given :=
  if g.hasFile then .error .unknownArgument
  else do
    let g ← g.settle
    .ok { g with pending := some (.file value) }

def takeSwitch (g : Given) (switch : Switch) : Except Refusal Given := do
  let g ← g.settle
  match switch with
  | .strict => if g.strict then .error .conflict else .ok { g with strict := true }
  | .help => .error .help
  | .version => .error .version

/-- Takes an option with the value attached to it, or starts to wait for one. -/
def takeSetting (g : Given) (option : Setting) (attached : Option String) :
    Except Refusal Given := do
  let g ← g.settle
  match attached with
  | some value => g.set option value
  | none => .ok { g with pending := some (.setting option none) }

end Given

/-- An argument by its look. A lone hyphen is plain. -/
inductive Word
  | long (name : String) (attached : Option String)
  | short (letter : Char)
  | plain

def Word.ofArgument (argument : String) : Word :=
  match argument.toList with
  | '-' :: '-' :: r =>
    match Text.cut '=' r with
    | some (name, value) => long (String.ofList name) (some (String.ofList value))
    | none => long (String.ofList r) none
  | '-' :: letter :: _ => short letter
  | _ => plain

def takeOption? (level : Level) (g : Given) (argument : String) : Option (Except Refusal Given) :=
  match Word.ofArgument argument with
  | .long name attached =>
    match level.long? name with
    | some (.inl switch) =>
      some (if attached.isSome then .error .surplusValue else g.takeSwitch switch)
    | some (.inr option) => some (g.takeSetting option attached)
    | none => some (.error .unknownArgument)
  | .short letter =>
    match level.short? letter with
    | some switch => some (g.takeSwitch switch)
    | none => some (.error .unknownArgument)
  | .plain =>
    match g.waiting? with
    | some option => some (.ok { g with pending := some (.setting option (some argument)) })
    | none => none

/-- Takes the arguments of a command. After `--` they are files, whatever they look like. -/
def takeArguments (level : Level) (onlyFiles : Bool) (g : Given) :
    List String → Except Refusal Given
  | [] => g.settle
  | argument :: rest =>
    if onlyFiles then do
      let g ← g.takeFile argument
      takeArguments level true g rest
    else if argument = "--" then takeArguments level true g rest
    else do
      let g ← (takeOption? level g argument).getD (g.takeFile argument)
      takeArguments level false g rest

/-- The task of a command, given its arguments. A query is by name or by e-mail, not both. -/
def Level.task (level : Level) (g : Given) : Except Refusal Task :=
  match level, g.file, g.name, g.email with
  | find, _, some _, some _ => .error .conflict
  | find, some file, some name, none => .ok (.find file (.name name))
  | find, some file, none, some email => .ok (.find file (.email email))
  | decode, some file, _, _ => .ok (.decode file)
  | score, some file, _, _ => .ok (.score file)
  | _, _, _, _ => .error .missingArgument

def helpOn : List String → Refusal
  | [] => .help
  | [command] => if command = "help" ∨ (Level.ofCommand? command).isSome then .help
    else .unknownCommand
  | _ => .unknownCommand

/-- Takes the arguments of the program. The command's own are taken before the last value of the
program is looked at. -/
def takeProgram (onlyFiles : Bool) (g : Given) : List String → Except Refusal Invocation
  | [] => do
    let g ← g.settle
    .error (if g.strict || g.format.isSome then .missingCommand else .helpForNothing)
  | argument :: rest =>
    if onlyFiles then
      .error (if argument = "help" ∨ (Level.ofCommand? argument).isSome then .unknownArgument
        else .unknownCommand)
    else if argument = "--" then takeProgram true g rest
    else match takeOption? .program g argument with
      | some taken => do
        let g ← taken
        takeProgram false g rest
      | none =>
        match Level.ofCommand? argument with
        | some level => do
          let own ← takeArguments level false {} rest
          let task ← level.task own
          let g ← g.settle
          .ok ⟨g.strict || own.strict, own.format <|> g.format, task⟩
        | none => .error (if argument = "help" then helpOn rest else .unknownCommand)

def Invocation.ofArguments (arguments : List String) : Except Refusal Invocation :=
  takeProgram false {} arguments

end CardFile.Command
