import CardFile.Command.Run
import CardFile.Command.Usage
import CardFile.Settings.Basic
import Std.Time.Zoned

/-!
The program. It reads its arguments, the environment and the files that they name, and leaves what
becomes of them to `Command` and `Settings`.
-/
namespace CardFile.Program

def octetsOf (path : String) : IO (Except Command.FileFault (List UInt8)) := do
  try
    return .ok (← IO.FS.readBinFile path).toList
  catch
    | .noFileOrDirectory .. => return .error .notFound
    | .inappropriateType .. => return .error .isDirectory
    | e => return .error (.other (toString e))

def textOf? (path : String) : IO (Option String) := do
  match ← octetsOf path with
  | .ok octets => return some (String.ofList (Text.Utf8.decode octets))
  | .error _ => return none

def nearestDotenv? : IO (Option String) := do
  let depth := (← IO.currentDir).components.length
  for above in List.range depth do
    if let some text ← textOf? (String.join (List.replicate above "../") ++ ".env") then
      return some text
  return none

def environment : IO Settings.Dotenv.Variables := do
  let values ← Settings.variableNames.mapM fun name => do
    return (← IO.getEnv name).map fun value => (name, value)
  return values.filterMap id

def today : IO Date := do
  let now ← Std.Time.PlainDate.now
  return ⟨now.year.toInt, now.month.val, now.day.val⟩

def output (invocation : Command.Invocation) : IO (Except String String) := do
  match Settings.load (← environment) (← nearestDotenv?) (← textOf? "rolodex.toml") with
  | .error fault => return .error fault.message
  | .ok settings =>
    let octets ← octetsOf invocation.task.file
    return (invocation.run (fun _ => octets) settings.format settings.pretty (← today)).mapError
      Command.Failure.message

end CardFile.Program

def main (arguments : List String) : IO UInt32 := do
  match CardFile.Command.Invocation.ofArguments arguments with
  | .error refusal =>
    if refusal.isAnswer then
      (← IO.getStdout).putStr refusal.message
      return 0
    else
      (← IO.getStderr).putStr refusal.message
      return 2
  | .ok invocation =>
    match ← CardFile.Program.output invocation with
    | .ok text =>
      (← IO.getStdout).putStr text
      return 0
    | .error message =>
      (← IO.getStderr).putStrLn ("Error: " ++ message)
      return 1
