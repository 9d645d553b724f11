import Waymark.Command.Arguments
import Waymark.Command.Execution
import Waymark.Log.Settings

/-!
# The program

A run of the program as a function of its environment, its arguments and the
files: what it prints, what it logs and how it ends. Output of commands is kept
free of routine events, so the log is quiet unless a level is asked for.
-/

namespace Waymark.Program

structure Report where
  /-- The exit code. -/
  code : Nat
  /-- What is printed, one text below the other. -/
  printed : List String
  /-- What is written about a failure. -/
  failure : Option String
  warnings : List String
  /-- The events that the log shows. -/
  events : List Log.Event
  settings : Log.Settings

/-- The settings of the log; without a level only warnings are shown. -/
def settings (env : Environment) : Log.Settings :=
  let s := Log.Settings.ofEnvironment env
  if (env.get? "TRAMLINE_LOG_LEVEL").isNone then { s with level := "warn" } else s

/-- The exit code of a command line that is no command. -/
def usageCode : UsageError → Nat
  | .help => 0
  | _ => 2

/-- What is written about a failure. -/
def failureText (f : Failure) : String := "Error: " ++ f.report

def run (env : Environment) (args : List String) (files : Files) : Report :=
  let s := settings env
  match CommandLine.read args with
  | .error e => ⟨usageCode e, [], none, s.warnings, [], s⟩
  | .ok command =>
    let (outcome, t) := command.run files
    let events := (Log.Subscriber.new s env).shown t.events
    match outcome with
    | .ok () => ⟨0, t.lines, none, s.warnings, events, s⟩
    | .error f => ⟨1, t.lines, some (failureText f), s.warnings, events, s⟩

namespace Report

/-- The lines of the output. -/
def lines (r : Report) : List String := Text.linesBelow r.printed

/-- The lines of the complaints: the warnings and the failure. -/
def complaints (r : Report) : List String := Text.linesBelow (r.warnings ++ r.failure.toList)

end Report

end Waymark.Program
