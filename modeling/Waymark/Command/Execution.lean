import Waymark.Command.Basic
import Waymark.Message.Reader
import Waymark.Table.Building
import Waymark.Table.Reader
import Waymark.Tree.Listing
import Waymark.Tree.Refusals
import Waymark.Tree.Schema

/-!
# Executing commands

A command reads the table, builds its tree and prints lines. Lines that were
printed before a failure stay printed.
-/

namespace Waymark

/-- What commands see of the files: the text of a file, or why it cannot be read. -/
abbrev Files := String → Except String String

/-- The lines that were printed, and the events that were noted in the log. -/
structure Transcript where
  lines : List String := []
  events : List Log.Event := []

abbrev Execution := ExceptT Failure (StateM Transcript)

namespace Execution

def print (lines : List String) : Execution Unit :=
  modify fun t => { t with lines := t.lines ++ lines }

def logAll (events : List Log.Event) : Execution Unit :=
  modify fun t => { t with events := t.events ++ events }

end Execution

namespace RouteTable

/-- The reason why a text is no route table. -/
def malformed : String := "not a route table"

/-- The table of a YAML text. -/
def ofYaml (text : String) : Except Failure RouteTable :=
  match ofYaml? text with
  | some t => .ok t
  | none => .error ⟨["Failed to parse route table", malformed]⟩

def loaded : Log.Event :=
  ⟨.info, "tramline::table", "Route table loaded", ["message", "table", "entries"]⟩

/-- Reads the table in a file. -/
def load (files : Files) (path : String) : Execution RouteTable := do
  match files path with
  | .error reason => throw ⟨["Failed to read route table " ++ path, reason]⟩
  | .ok text =>
    match ofYaml text with
    | .error failure => throw (failure.within ("Invalid route table " ++ path))
    | .ok table =>
      Execution.logAll [loaded]
      return table

/-- Reads the table in a file and builds its tree. -/
def loadRouter (files : Files) (path : String) : Execution Router := do
  let (router, events) := (← load files path).build
  Execution.logAll events
  router

end RouteTable

namespace Inquiry

/-- The scope of a request or a session. A method is sent in capitals. -/
def scope (q : Inquiry) : Except Failure Scope := do
  let scope ←
    if q.socket then pure (Scope.socket q.path)
    else if isToken (Text.upper q.method) then pure (Scope.request (Text.upper q.method) q.path)
    else throw ⟨["Invalid method " ++ q.method, "invalid HTTP method"]⟩
  let scope := { scope with query := q.query }
  return match q.host with
    | some host => scope.withHeader "host" host
    | none => scope

/-- The messages that wait for the application. -/
def inbound (q : Inquiry) : List Message :=
  if q.socket then
    .socketConnect :: q.frames.map Message.socketReceive ++ [.socketDisconnect 1000]
  else []

end Inquiry

namespace Params

/-- The parameters of a list of `KEY=VALUE`; the last value of a key counts. -/
def readPairs (pairs : List String) : Except Failure Params :=
  pairs.foldlM (fun ps pair =>
    match Text.cutAt? '=' pair.toList with
    | none => .error ⟨["parameter '" ++ pair ++ "' is not KEY=VALUE"]⟩
    | some ([], _) => .error ⟨["parameter '" ++ pair ++ "' has an empty key"]⟩
    | some (key, value) => .ok (ps.insert (String.ofList key) (.str (String.ofList value))))
    Params.empty

end Params

namespace Command

/-- The states of lifespans that never ran. -/
def created (_ : Handle) : LifespanState := .created

/-- Dispatches an inquiry and prints the messages that were sent. -/
def answer (router : Router) (q : Inquiry) : Execution Unit := do
  let scope ← q.scope
  let (outcome, x) := (router.dispatch Echo.bindings scope).run.run (.new q.inbound none)
  Execution.logAll x.events
  Execution.print (x.sent.map Message.text)
  match outcome with
  | .ok () => return ()
  | .error e => throw (e.toFailure.within "Dispatch failed")

/-- Looks a name up and prints the path, or the URL against a base. -/
def lookUp (router : Router) (name : String) (pairs : List String) (base : Option String) :
    Execution Unit := do
  let params ← Params.readPairs pairs
  Execution.logAll (router.refusals name params)
  match router.urlPath? name params, base with
  | none, _ => throw ⟨[NoMatchFound.message ⟨name⟩]⟩
  | some u, none => Execution.print [u.toJson.text]
  | some u, some base =>
    match u.absolute base with
    | .ok url => Execution.print [url.text]
    | .error e => throw ⟨[e.message]⟩

/-- Executes a command. -/
def execute (files : Files) : Command → Execution Unit
  | .list table schema => do
    let router ← RouteTable.loadRouter files table
    if schema then Execution.print (router.operations.map fun o => o.toJson.text)
    else Execution.print (router.lines created "")
  | .dispatch table inquiry => do answer (← RouteTable.loadRouter files table) inquiry
  | .reverse table name params base => do
    lookUp (← RouteTable.loadRouter files table) name params base

/-- The outcome of a command, and what it printed and noted. -/
def run (files : Files) (c : Command) : Except Failure Unit × Transcript :=
  (c.execute files).run.run {}

end Command

end Waymark
