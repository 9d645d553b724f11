import Waymark.Lifespan.Handshake
import Waymark.Session

/-!
# Runs up to the log

What is logged is for those who read the log. Two runs are the same to the
transport if they give the same result and leave the same exchange but for the
events in it. `Action.Agrees` says that of two actions, which may be one and
the same action: then it says that the action does not read the log.

Actions that are put together of agreeing parts agree (`Agrees.bind`), whatever
each of them logs on the way (`agrees_logAll`).
-/

namespace Waymark

def Exchange.quiet (x : Exchange) : Exchange := { x with events := [] }

namespace Exchange

theorem quiet_eq_iff {x y : Exchange} : x.quiet = y.quiet ↔ x.inbound = y.inbound ∧
    x.sent = y.sent ∧ x.room = y.room ∧ x.states = y.states ∧ x.journal = y.journal := by
  simp [quiet]

end Exchange

namespace Action

variable {ε ε' α β : Type}

/-- The actions have the same result and the same effects but on the log, in exchanges that are
the same but for the log. -/
def Agrees (a a' : Action ε α) : Prop :=
  ∀ x x' : Exchange, x.quiet = x'.quiet → (a x).1 = (a' x').1 ∧ (a x).2.quiet = (a' x').2.quiet

theorem bind_eq (a : Action ε α) (k : α → Action ε β) (x : Exchange) :
    (a >>= k) x = match a x with
      | (.ok v, y) => k v y
      | (.error e, y) => (.error e, y) := by
  change (ExceptT.bindCont k (a x).1) (a x).2 = _
  cases a x with
  | mk v y => cases v <;> rfl

theorem bind_of_ok {a : Action ε α} {x : Exchange} {v : α} (h : (a x).1 = .ok v)
    (k : α → Action ε β) : (a >>= k) x = k v (a x).2 := by
  rw [bind_eq]
  generalize a x = p at h
  obtain ⟨u, y⟩ := p
  obtain rfl : u = .ok v := h
  rfl

theorem bind_of_error {a : Action ε α} {x : Exchange} {e : ε} (h : (a x).1 = .error e)
    (k : α → Action ε β) : (a >>= k) x = (.error e, (a x).2) := by
  rw [bind_eq]
  generalize a x = p at h
  obtain ⟨u, y⟩ := p
  obtain rfl : u = .error e := h
  rfl

theorem mapError_eq (f : ε → ε') (a : Action ε α) (x : Exchange) :
    (a.mapError f) x = ((a x).1.mapError f, (a x).2) := rfl

theorem agrees_pure (v : α) : Agrees (pure v : Action ε α) (pure v) :=
  fun _ _ hx => ⟨rfl, hx⟩

theorem agrees_throw (e : ε) : Agrees (throw e : Action ε α) (throw e) :=
  fun _ _ hx => ⟨rfl, hx⟩

theorem Agrees.bind {a a' : Action ε α} {k k' : α → Action ε β} (ha : a.Agrees a')
    (hk : ∀ v, (k v).Agrees (k' v)) : (a >>= k).Agrees (a' >>= k') := by
  intro x x' hx
  obtain ⟨hresult, hquiet⟩ := ha x x' hx
  cases hfirst : (a x).1 with
  | error e =>
      rw [bind_of_error hfirst, bind_of_error (hresult.symm.trans hfirst)]
      exact ⟨rfl, hquiet⟩
  | ok v =>
      rw [bind_of_ok hfirst, bind_of_ok (hresult.symm.trans hfirst)]
      exact hk v _ _ hquiet

theorem Agrees.mapError {a a' : Action ε α} (h : a.Agrees a') (f : ε → ε') :
    (a.mapError f).Agrees (a'.mapError f) := by
  intro x x' hx
  obtain ⟨hresult, hquiet⟩ := h x x' hx
  rw [mapError_eq, mapError_eq, hresult]
  exact ⟨rfl, hquiet⟩

theorem agrees_logAll (events events' : List Log.Event) :
    Agrees (logAll events : Action ε Unit) (logAll events') :=
  fun _ _ hx => ⟨rfl, hx⟩

theorem Agrees.logged {a a' : Action ε α} (h : a.Agrees a') (events events' : List Log.Event) :
    Agrees (do logAll events; a) (do logAll events'; a') :=
  (agrees_logAll events events').bind fun _ => h

theorem agrees_log (event : Log.Event) : Agrees (log event : Action ε Unit) (log event) :=
  agrees_logAll _ _

theorem agrees_modify {f : Exchange → Exchange}
    (hf : ∀ x x' : Exchange, x.quiet = x'.quiet → (f x).quiet = (f x').quiet) :
    Agrees (modify f : Action ε PUnit) (modify f) :=
  fun x x' hx => ⟨rfl, hf x x' hx⟩

theorem agrees_get {k k' : Exchange → Action ε α}
    (h : ∀ x x' : Exchange, x.quiet = x'.quiet → (k x).Agrees (k' x')) :
    Agrees (get >>= k) (get >>= k') :=
  fun x x' hx => h x x' hx x x' hx

theorem agrees_record (entries : List String) :
    Agrees (record entries : Action ε Unit) (record entries) := by
  refine agrees_modify ?_
  intro x x' hx
  simp_all [Exchange.quiet_eq_iff]

theorem agrees_receive : Agrees receive receive := by
  rintro ⟨inbound, sent, room, states, journal, events⟩
    ⟨inbound', sent', room', states', journal', events'⟩ hx
  obtain ⟨rfl, rfl, rfl, rfl, rfl⟩ := Exchange.quiet_eq_iff.mp hx
  cases inbound <;> exact ⟨rfl, rfl⟩

theorem await_of_some {f : Message → Option α} {x : Exchange} {v : α} {rest : List Message}
    (h : firstThat f x.inbound = some (v, rest)) (note : Log.Event) :
    await f note x = (.ok v, { x with
      inbound := rest
      events := x.events ++ List.replicate (x.inbound.length - rest.length - 1) note }) := by
  have hget : (get : Action ChannelError Exchange) x = (.ok x, x) := rfl
  rw [await, bind_eq, hget]
  simp only [h]
  rfl

theorem await_of_none {f : Message → Option α} {x : Exchange} (h : firstThat f x.inbound = none)
    (note : Log.Event) : await f note x = (.error .closed, { x with
      inbound := []
      events := x.events ++ List.replicate x.inbound.length note }) := by
  have hget : (get : Action ChannelError Exchange) x = (.ok x, x) := rfl
  rw [await, bind_eq, hget]
  simp only [h]
  rfl

theorem agrees_await (f : Message → Option α) (note : Log.Event) :
    Agrees (await f note) (await f note) := by
  rintro ⟨inbound, sent, room, states, journal, events⟩
    ⟨inbound', sent', room', states', journal', events'⟩ hx
  obtain ⟨rfl, rfl, rfl, rfl, rfl⟩ := Exchange.quiet_eq_iff.mp hx
  cases h : firstThat f inbound with
  | none =>
      rw [await_of_none h, await_of_none h]
      exact ⟨rfl, rfl⟩
  | some p =>
      rw [await_of_some h, await_of_some h]
      exact ⟨rfl, rfl⟩

theorem send_eq (m : Message) (x : Exchange) : send m x =
    (if 1 ≤ x.room.getD 1 then .ok () else .error .closed,
      { x with
        sent := x.sent ++ [m].take (x.room.getD 1)
        room := x.room.map (· - 1) }) := by
  obtain ⟨inbound, sent, room, states, journal, events⟩ := x
  rcases room with _ | _ | k
  · rfl
  · simp [send]
    rfl
  · simp [send]
    rfl

theorem agrees_send (m : Message) : Agrees (send m) (send m) := by
  rintro ⟨inbound, sent, room, states, journal, events⟩
    ⟨inbound', sent', room', states', journal', events'⟩ hx
  obtain ⟨rfl, rfl, rfl, rfl, rfl⟩ := Exchange.quiet_eq_iff.mp hx
  rcases room with _ | _ | k <;> exact ⟨rfl, rfl⟩

theorem agrees_sendAll (ms : List Message) : Agrees (sendAll ms) (sendAll ms) := by
  induction ms with
  | nil => exact agrees_pure ()
  | cons m ms ih => exact (agrees_send m).bind fun _ => ih

end Action

/-! ## The handshake of the lifecycle -/

namespace Lifespan

open Waymark.Action

variable (hooks : Handle → Hook) (l : Lifespan)

theorem agrees_currentState {ε : Type} :
    Agrees (l.currentState : Action ε LifespanState) l.currentState := by
  intro x x' hx
  refine ⟨?_, hx⟩
  obtain ⟨_, _, _, hstates, _⟩ := Exchange.quiet_eq_iff.mp hx
  change Except.ok (x.stateOf l.cell) = Except.ok (x'.stateOf l.cell)
  rw [Exchange.stateOf, Exchange.stateOf, hstates]

theorem agrees_enter {ε : Type} (s : LifespanState) :
    Agrees (l.enter s : Action ε Unit) (l.enter s) := by
  have hstate : Agrees (modify (·.withState l.cell s) : Action ε PUnit)
      (modify (·.withState l.cell s)) := by
    refine agrees_modify ?_
    intro x x' hx
    simp_all [Exchange.quiet_eq_iff, Exchange.withState]
  exact hstate.bind fun _ => agrees_log _

theorem agrees_expect (m : Message) : Agrees (expect m) (expect m) := by
  refine (agrees_receive.mapError _).bind ?_
  intro got
  split
  · exact agrees_throw _
  · exact agrees_pure ()

theorem agrees_tell (m : Message) : Agrees (tell m) (tell m) := (agrees_send m).mapError _

theorem agrees_startHandlers (hs : List Handle) :
    Agrees (startHandlers hooks l hs) (startHandlers hooks l hs) := by
  induction hs with
  | nil => exact agrees_pure ()
  | cons h hs ih =>
      refine l.agrees_currentState.bind ?_
      intro state
      cases hooks h state with
      | ok entries => exact (agrees_record entries).bind fun _ => ih
      | error failure =>
          refine (agrees_log _).bind fun _ => ?_
          refine (l.agrees_enter .failed).bind fun _ => ?_
          exact (agrees_tell _).bind fun _ => agrees_throw _

theorem agrees_start : Agrees (start hooks l) (start hooks l) := by
  refine (l.agrees_enter .starting).bind fun _ => ?_
  refine (agrees_startHandlers hooks l l.startup).bind fun _ => ?_
  refine (l.agrees_enter .running).bind fun _ => ?_
  exact (agrees_log _).bind fun _ => agrees_tell _

theorem agrees_stopHandlers (hs : List Handle) :
    Agrees (stopHandlers hooks l hs) (stopHandlers hooks l hs) := by
  induction hs with
  | nil => exact agrees_pure []
  | cons h hs ih =>
      refine l.agrees_currentState.bind ?_
      intro state
      cases hooks h state with
      | ok entries => exact (agrees_record entries).bind fun _ => ih
      | error failure =>
          refine (agrees_log _).bind fun _ => ?_
          exact ih.bind fun failures => agrees_pure _

theorem agrees_stop : Agrees (stop hooks l) (stop hooks l) := by
  refine (l.agrees_enter .stopping).bind fun _ => ?_
  refine (agrees_stopHandlers hooks l l.shutdown).bind fun failures => ?_
  refine (l.agrees_enter .stopped).bind fun _ => ?_
  refine (agrees_tell _).bind fun _ => ?_
  split
  · exact agrees_throw _
  · exact agrees_pure ()

theorem agrees_serve : Agrees (serve hooks l) (serve hooks l) := by
  refine (agrees_expect _).bind fun _ => ?_
  refine (agrees_start hooks l).bind fun _ => ?_
  exact (agrees_expect _).bind fun _ => agrees_stop hooks l

end Lifespan

end Waymark
