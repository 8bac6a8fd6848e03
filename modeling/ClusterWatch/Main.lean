import ClusterWatch.Json.Text
import ClusterWatch.Startup.Launch
/-!
# The program

The outer layer of the program: it reads files and the environment, prints what there is to print,
and runs until its input ends.
-/

open ClusterWatch

namespace ClusterWatch.Main

/-- The content of a file of the machine. -/
def readFile (path : String) : IO (Except FileError String) := do
  try
    match String.fromUTF8? (← IO.FS.readBinFile path) with
    | some text => return .ok text
    | none => return .error (.other "stream did not contain valid UTF-8")
  catch
    | .noFileOrDirectory .. => return .error .missing
    | .inappropriateType _ _ details =>
      return .error (if details = "not a directory" then .notDirectory else .isDirectory)
    | e => return .error (.other (toString e))

/-- The variables of the environment that the program looks at, with their values. -/
def environment : IO (List (String × String)) :=
  Startup.environmentVariables.filterMapM fun name => do
    return (← IO.getEnv name).map (name, ·)

/-- A log line as it is written. -/
def lineText (format : Config.LogFormat) (l : Log.Line) : String :=
  match format with
  | .json =>
    (Json.Value.object [("level", .string l.level.name),
      ("fields", .object [("message", .string l.message)]), ("target", .string l.source)]).text
  | .plain => l.level.name ++ " " ++ l.source ++ ": " ++ l.message

/-- Prints what the program leaves. -/
def report (e : Startup.Ending) : IO UInt32 := do
  for l in e.lines do
    IO.println (lineText e.format l)
  IO.print e.output
  IO.eprint e.complaint
  return e.code

/-- Waits for the end of the input. -/
def waitForEnd : IO Unit := do
  let _ ← (← IO.getStdin).readToEnd

end ClusterWatch.Main

/-- Starts the program, and stops it when its input ends. -/
def main (arguments : List String) : IO UInt32 := do
  let surroundings : Startup.Surroundings IO :=
    { read := Main.readFile
      environment := ← Main.environment
      now := .ofSecond 0 }
  match ← Startup.launch surroundings arguments with
  | .inl ending => Main.report ending
  | .inr started =>
    Main.waitForEnd
    Main.report (Startup.finish started)
