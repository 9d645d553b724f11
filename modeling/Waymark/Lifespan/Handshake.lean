import Waymark.Exchange

/-!
# The handshake of the lifecycle

The transport says when the application starts and stops, and is told how that
went. Startup ends at the first handler that fails. Shutdown runs every handler
and reports the failures at the end, after it has told the transport that the
application stopped.
-/

namespace Waymark.Lifespan

/-- What a lifecycle handler does, given the state of its lifespan: it fails, or leaves entries
in the journal. -/
abbrev Hook := LifespanState → Except Failure (List String)

def source : String := "tramline::router::lifespan"

def currentState (l : Lifespan) : Action ε LifespanState := do return (← get).stateOf l.cell

/-- Enters a state. -/
def enter (l : Lifespan) (s : LifespanState) : Action ε Unit := do
  modify (·.withState l.cell s)
  Action.log ⟨.info, source, "Lifespan state transition", ["from", "to"]⟩

/-- Takes the next message, which has to be the expected one. -/
def expect (m : Message) : Action DispatchError Unit := do
  let got ← Action.receive.mapError .channel
  if got ≠ m then throw (.unexpected m.kind got.kind)

def tell (m : Message) : Action DispatchError Unit := (Action.send m).mapError .channel

def startHandlers (hooks : Handle → Hook) (l : Lifespan) : List Handle → Action DispatchError Unit
  | [] => pure ()
  | h :: hs => do
    match hooks h (← l.currentState) with
    | .ok entries =>
      Action.record entries
      startHandlers hooks l hs
    | .error failure =>
      Action.log ⟨.error, source, "Startup handler failed", ["handler_index", "error"]⟩
      l.enter .failed
      tell (.lifecycleStartFailed failure.text)
      throw (.startupFailed failure.text)

def start (hooks : Handle → Hook) (l : Lifespan) : Action DispatchError Unit := do
  l.enter .starting
  startHandlers hooks l l.startup
  l.enter .running
  Action.log ⟨.info, source, "Startup complete", ["handlers", "duration_us"]⟩
  tell .lifecycleStartComplete

/-- Runs the handlers and gives the texts of their failures. -/
def stopHandlers (hooks : Handle → Hook) (l : Lifespan) :
    List Handle → Action DispatchError (List String)
  | [] => pure []
  | h :: hs => do
    match hooks h (← l.currentState) with
    | .ok entries =>
      Action.record entries
      stopHandlers hooks l hs
    | .error failure =>
      Action.log ⟨.error, source, "Shutdown handler failed", ["handler_index", "error"]⟩
      return failure.text :: (← stopHandlers hooks l hs)

def stop (hooks : Handle → Hook) (l : Lifespan) : Action DispatchError Unit := do
  l.enter .stopping
  let failures ← stopHandlers hooks l l.shutdown
  l.enter .stopped
  tell .lifecycleStopComplete
  if !failures.isEmpty then throw (.shutdownFailed failures)

/-- One whole run of the application. -/
def serve (hooks : Handle → Hook) (l : Lifespan) : Action DispatchError Unit := do
  expect .lifecycleStart
  l.start hooks
  expect .lifecycleStop
  l.stop hooks

end Waymark.Lifespan
