import Waymark.Failure
import Waymark.Lifespan.State
import Waymark.Log.Event
import Waymark.Response
import Waymark.Tree.Basic

/-!
# Exchanges

All that a running application can see and change: the messages that have come
in and those it sent, the states of the lifespans, a journal, and the log. An
action is a step on an exchange that may fail, and keeps what it did before it
failed.
-/

namespace Waymark

structure Exchange where
  /-- The messages that can still be received. -/
  inbound : List Message
  sent : List Message
  /-- How many more sends the channel accepts; `none` for any number. -/
  room : Option Nat
  /-- The states that the lifespans have entered, the latest first. -/
  states : List (Handle × LifespanState)
  journal : List String
  events : List Log.Event

/-- A step on an exchange that fails with an `ε` or gives an `α`. -/
abbrev Action (ε α : Type) := ExceptT ε (StateM Exchange) α

namespace Exchange

/-- An exchange at its beginning. -/
def new (inbound : List Message) (room : Option Nat) : Exchange := ⟨inbound, [], room, [], [], []⟩

/-- The state of the lifespan with that cell. -/
def stateOf (x : Exchange) (cell : Handle) : LifespanState :=
  ((x.states.find? fun e => e.1 == cell).map (·.2)).getD .created

/-- The exchange after a lifespan has entered a state. -/
def withState (x : Exchange) (cell : Handle) (s : LifespanState) : Exchange :=
  { x with states := (cell, s) :: x.states }

end Exchange

namespace Action

/-- The action with its failures turned into others. -/
def mapError (f : ε → ε') (a : Action ε α) : Action ε' α := ExceptT.adapt f a

/-- Adds events to the log. -/
def logAll (events : List Log.Event) : Action ε Unit :=
  modify fun x => { x with events := x.events ++ events }

def log (event : Log.Event) : Action ε Unit := logAll [event]

/-- Adds entries to the journal. -/
def record (entries : List String) : Action ε Unit :=
  modify fun x => { x with journal := x.journal ++ entries }

/-- Takes the next message. -/
def receive : Action ChannelError Message := do
  let x ← get
  match x.inbound with
  | [] => throw .closed
  | m :: rest =>
    set { x with inbound := rest }
    return m

/-- Sends a message while the channel accepts it. -/
def send (m : Message) : Action ChannelError Unit := do
  let x ← get
  if x.room = some 0 then throw .closed
  set { x with sent := x.sent ++ [m], room := x.room.map (· - 1) }

/-- Sends messages in order up to the first that is not accepted. -/
def sendAll : List Message → Action ChannelError Unit
  | [] => pure ()
  | m :: ms => do
    send m
    sendAll ms

/-- The first message for which `f` has a result, and the messages after it. -/
def firstThat (f : Message → Option α) : List Message → Option (α × List Message)
  | [] => none
  | m :: ms =>
    match f m with
    | some a => some (a, ms)
    | none => firstThat f ms

/-- Takes messages until `f` has a result. Each message passed over is noted in the log. -/
def await (f : Message → Option α) (note : Log.Event) : Action ChannelError α := do
  let x ← get
  match firstThat f x.inbound with
  | some (a, rest) =>
    set { x with inbound := rest }
    logAll (List.replicate (x.inbound.length - rest.length - 1) note)
    return a
  | none =>
    set { x with inbound := [] }
    logAll (List.replicate x.inbound.length note)
    throw .closed

end Action

end Waymark
