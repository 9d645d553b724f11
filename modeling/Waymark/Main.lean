import Waymark.Program
import Waymark.Json.Printer

/-!
# The command line

Runs the program on the arguments and the variables of the process. Results go
to the standard output; warnings, events and failures go to the standard error
output.
-/

namespace Waymark.Shell

/-- The variables that the program looks at. -/
def variableNames : List String :=
  ["RUST_LOG", "TRAMLINE_LOG_LEVEL", "TRAMLINE_LOG_FORMAT", "TRAMLINE_LOG_SAMPLING_MODE",
    "TRAMLINE_LOG_SAMPLING_RATE", "TRAMLINE_LOG_ASYNC", "TRAMLINE_LOG_FILTER",
    "TRAMLINE_LOG_LOCATION"]

def environment : IO Environment := do
  let pairs ← variableNames.mapM fun name => return (name, ← IO.getEnv name)
  return pairs.filterMap fun (name, value) => value.map fun v => (name, v)

/-- The text of the file that the command reads, under its path. -/
def files (args : List String) : IO Files := do
  match CommandLine.read args with
  | .error _ => return fun _ => .error "no file"
  | .ok command =>
    let text ← (IO.FS.readFile ⟨command.table⟩).toBaseIO
    return fun _ => text.mapError toString

/-- An event on a line of its own. -/
def eventLine (format : Log.Format) (e : Log.Event) : String :=
  match format with
  | .json => Json.text (.obj [("level", .str e.level.text),
      ("fields", .obj [("message", .str e.message)]), ("target", .str e.target)])
  | .pretty => "  " ++ e.level.text ++ " " ++ e.target ++ ": " ++ e.message

def usage : String :=
  "Usage: tramline <routes|match|url-for|help> --table <TABLE> [OPTIONS]"

end Waymark.Shell

open Waymark in
def main (args : List String) : IO UInt32 := do
  let report := Program.run (← Shell.environment) args (← Shell.files args)
  let err ← IO.getStderr
  for text in report.warnings do err.putStrLn text
  for event in report.events do err.putStrLn (Shell.eventLine report.settings.format event)
  for text in report.printed do IO.println text
  match CommandLine.read args with
  | .error .help => IO.println Shell.usage
  | .error _ => err.putStrLn Shell.usage
  | .ok _ => pure ()
  if let some text := report.failure then err.putStrLn text
  return UInt32.ofNat report.code
