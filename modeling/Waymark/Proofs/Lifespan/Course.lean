import Mathlib.Data.List.Basic
import Waymark.Proofs.Exchange
import Waymark.Proofs.Tree.Endings

/-!
# The course of a lifespan

A dispatch of the lifecycle runs one lifespan from the first message to the last
and calls no endpoint. `Lifespan.Course` lists the ways in which such a run can
go, by the messages that come in, the handlers that fail and the messages that
the channel takes; every run goes in one of them (`Lifespan.exists_course`).

What a run did is data: the handlers it called with the state that each of them
saw, the states it entered, what it sent, and how much it took. `Does` says that
of an action, up to the log, and `Does.bind` adds up the deeds of two actions.
So the proof that a lifespan keeps to its course (`Course.serves`) follows the
text of the handshake.
-/

namespace Waymark

/-! ## Histories -/

namespace Exchange

def history (x : Exchange) (cell : Handle) : List LifespanState :=
  .created :: ((x.states.filter fun e => e.1 == cell).map (·.2)).reverse

theorem getLast?_history (x : Exchange) (cell : Handle) :
    (x.history cell).getLast? = some (x.stateOf cell) := by
  rw [history, List.getLast?_cons, List.getLast?_reverse, List.head?_map, List.head?_filter]
  rfl

end Exchange

namespace Lifespan

variable {hooks : Handle → Hook} {l : Lifespan} {x : Exchange}

/-! ## Deeds -/

/-- What a lifespan does in a run. -/
structure Deeds where
  /-- The handlers that it calls, with the state that each of them sees. -/
  calls : List (Handle × LifespanState) := []
  /-- The states that it enters. -/
  entered : List LifespanState := []
  sent : List Message := []
  /-- How many messages it takes. -/
  taken : Nat := 0

/-- In that state none of the handlers fails. -/
def AllSucceed (hooks : Handle → Hook) (s : LifespanState) (hs : List Handle) : Prop :=
  ∀ h ∈ hs, ∃ entries, hooks h s = .ok entries

def written (hooks : Handle → Hook) (calls : List (Handle × LifespanState)) : List String :=
  calls.flatMap fun c => (hooks c.1 c.2).toOption.getD []

def failures (hooks : Handle → Hook) (calls : List (Handle × LifespanState)) : List String :=
  calls.filterMap fun c =>
    match hooks c.1 c.2 with
    | .ok _ => none
    | .error failure => some failure.text

namespace Deeds

/-- One after the other. -/
instance : Append Deeds where
  append d e :=
    { calls := d.calls ++ e.calls
      entered := d.entered ++ e.entered
      sent := d.sent ++ e.sent
      taken := d.taken + e.taken }

theorem append_eq (d e : Deeds) : d ++ e =
    ⟨d.calls ++ e.calls, d.entered ++ e.entered, d.sent ++ e.sent, d.taken + e.taken⟩ := rfl

theorem append_empty (d : Deeds) : d ++ ({} : Deeds) = d := by
  simp [append_eq]

theorem empty_append (d : Deeds) : ({} : Deeds) ++ d = d := by
  simp [append_eq]

/-- The exchange after the deeds, without its log. -/
def after (d : Deeds) (hooks : Handle → Hook) (l : Lifespan) (x : Exchange) : Exchange where
  inbound := x.inbound.drop d.taken
  sent := x.sent ++ d.sent
  room := x.room.map (· - d.sent.length)
  states := (d.entered.map fun s => (l.cell, s)).reverse ++ x.states
  journal := x.journal ++ written hooks d.calls
  events := []

theorem after_append (d e : Deeds) :
    (d ++ e).after hooks l x = e.after hooks l (d.after hooks l x) := by
  simp only [append_eq, after, written, List.drop_drop, List.append_assoc, Option.map_map,
    List.length_append, List.map_append, List.reverse_append, List.flatMap_append]
  congr 2
  funext k
  exact (Nat.sub_sub ..).symm

theorem after_quiet (d : Deeds) : d.after hooks l x.quiet = d.after hooks l x := rfl

theorem after_empty : ({} : Deeds).after hooks l x = x.quiet := by
  simp [after, written, Exchange.quiet]

theorem after_calls (cs : List (Handle × LifespanState)) :
    ({ calls := cs } : Deeds).after hooks l x =
      { x.quiet with journal := x.journal ++ written hooks cs } := by
  simp [after, Exchange.quiet]

theorem after_entered (s : LifespanState) :
    ({ entered := [s] } : Deeds).after hooks l x = (x.withState l.cell s).quiet := by
  simp [after, written, Exchange.quiet, Exchange.withState]

theorem after_sent (ms : List Message) : ({ sent := ms } : Deeds).after hooks l x =
    { x.quiet with sent := x.sent ++ ms, room := x.room.map (· - ms.length) } := by
  simp [after, written, Exchange.quiet]

theorem after_taken (n : Nat) : ({ taken := n } : Deeds).after hooks l x =
    { x.quiet with inbound := x.inbound.drop n } := by
  simp [after, written, Exchange.quiet]

theorem history_after (d : Deeds) :
    (d.after hooks l x).history l.cell = x.history l.cell ++ d.entered := by
  simp [after, Exchange.history, List.filter_map, Function.comp_def]

theorem history_after_of_ne (d : Deeds) {cell : Handle} (h : cell ≠ l.cell) :
    (d.after hooks l x).history cell = x.history cell := by
  have hne : (l.cell == cell) = false := beq_false_of_ne h.symm
  simp [after, Exchange.history, List.filter_map, Function.comp_def, hne]

theorem stateOf_after (d : Deeds) :
    (d.after hooks l x).stateOf l.cell = d.entered.getLast?.getD (x.stateOf l.cell) := by
  have hlast := (d.after hooks l x).getLast?_history l.cell
  rw [history_after, List.getLast?_append, Exchange.getLast?_history] at hlast
  cases hentered : d.entered.getLast? with
  | none =>
      rw [hentered] at hlast
      exact (Option.some.inj hlast).symm
  | some s =>
      rw [hentered] at hlast
      exact (Option.some.inj hlast).symm

theorem stateOf_after_of_ne (d : Deeds) {cell : Handle} (h : cell ≠ l.cell) :
    (d.after hooks l x).stateOf cell = x.stateOf cell := by
  have hlast := (d.after hooks l x).getLast?_history cell
  rw [history_after_of_ne d h, Exchange.getLast?_history] at hlast
  exact (Option.some.inj hlast).symm

end Deeds

/-- Run in an exchange, the action gives the result and does the deeds, whatever it logs. -/
def Does (hooks : Handle → Hook) (l : Lifespan) (a : Action DispatchError α) (d : Deeds)
    (v : Except DispatchError α) (x : Exchange) : Prop :=
  (a x).1 = v ∧ (a x).2.quiet = d.after hooks l x

section Does

variable {α β : Type} {a : Action DispatchError α} {k : α → Action DispatchError β} {d e f : Deeds}

theorem Does.bind {v : α} {w : Except DispatchError β} (ha : Does hooks l a d (.ok v) x)
    (hk : ∀ y : Exchange, y.quiet = d.after hooks l x → Does hooks l (k v) e w y)
    (hboth : d ++ e = f) : Does hooks l (a >>= k) f w x := by
  subst hboth
  obtain ⟨hresult, hquiet⟩ := ha
  obtain ⟨hresult', hquiet'⟩ := hk (a x).2 hquiet
  rw [Does, Action.bind_of_ok hresult, Deeds.after_append]
  refine ⟨hresult', hquiet'.trans ?_⟩
  rw [← hquiet, Deeds.after_quiet]

theorem Does.bind_error {error : DispatchError} (ha : Does hooks l a d (.error error) x) :
    Does hooks l (a >>= k) d (.error error) x := by
  rw [Does, Action.bind_of_error ha.1]
  exact ⟨rfl, ha.2⟩

end Does

/-! ## The steps of a handshake -/

section Exchange

variable {y : Exchange} {d : Deeds}

theorem Deeds.stateOf_eq (h : y.quiet = d.after hooks l x) :
    y.stateOf l.cell = d.entered.getLast?.getD (x.stateOf l.cell) :=
  (congrArg (·.stateOf l.cell) h).trans d.stateOf_after

theorem Deeds.stateOf_eq_of_ne (h : y.quiet = d.after hooks l x) {cell : Handle}
    (hcell : cell ≠ l.cell) : y.stateOf cell = x.stateOf cell :=
  (congrArg (·.stateOf cell) h).trans (d.stateOf_after_of_ne hcell)

theorem Deeds.inbound_eq (h : y.quiet = d.after hooks l x) :
    y.inbound = x.inbound.drop d.taken :=
  congrArg Exchange.inbound h

theorem Deeds.room_eq (h : y.quiet = d.after hooks l x) :
    y.room = x.room.map (· - d.sent.length) :=
  congrArg Exchange.room h

theorem Deeds.room_same (h : y.quiet = d.after hooks l x) (hsent : d.sent = []) :
    y.room = x.room := by
  rw [room_eq h, hsent]
  simp

end Exchange

theorem does_pure {α : Type} (v : α) : Does hooks l (pure v) {} (.ok v) x :=
  ⟨rfl, Deeds.after_empty.symm⟩

theorem does_throw {α : Type} (error : DispatchError) :
    Does hooks l (throw error : Action DispatchError α) {} (.error error) x :=
  ⟨rfl, Deeds.after_empty.symm⟩

theorem does_log (event : Log.Event) : Does hooks l (Action.log event) {} (.ok ()) x :=
  ⟨rfl, Deeds.after_empty.symm⟩

theorem does_currentState : Does hooks l l.currentState {} (.ok (x.stateOf l.cell)) x :=
  ⟨rfl, Deeds.after_empty.symm⟩

theorem does_enter (s : LifespanState) :
    Does hooks l (l.enter s) { entered := [s] } (.ok ()) x := by
  rw [Does, Deeds.after_entered]
  exact ⟨rfl, rfl⟩

theorem does_record {h : Handle} {s : LifespanState} {entries : List String}
    (hentries : hooks h s = .ok entries) :
    Does hooks l (Action.record entries) { calls := [(h, s)] } (.ok ()) x := by
  have hwritten : written hooks [(h, s)] = entries := by simp [written, hentries, Except.toOption]
  rw [Does, Deeds.after_calls, hwritten]
  exact ⟨rfl, rfl⟩

theorem does_fail {h : Handle} {s : LifespanState} {failure : Failure}
    (hfails : hooks h s = .error failure) (event : Log.Event) :
    Does hooks l (Action.log event) { calls := [(h, s)] } (.ok ()) x := by
  have hwritten : written hooks [(h, s)] = [] := by simp [written, hfails, Except.toOption]
  rw [Does, Deeds.after_calls, hwritten, List.append_nil]
  exact ⟨rfl, rfl⟩

theorem receive_eq {m : Message} {ms : List Message} (h : x.inbound = m :: ms) :
    (Action.receive.mapError .channel : Action DispatchError Message) x =
      (.ok m, { x with inbound := ms }) := by
  obtain ⟨inbound, sent, room, states, journal, events⟩ := x
  obtain rfl : inbound = m :: ms := h
  rfl

theorem does_expect {m : Message} {ms : List Message} (h : x.inbound = m :: ms) :
    Does hooks l (expect m) { taken := 1 } (.ok ()) x := by
  rw [Does, Deeds.after_taken, h, expect, Action.bind_eq, receive_eq h]
  dsimp only
  rw [if_neg (not_not_intro rfl)]
  exact ⟨rfl, rfl⟩

theorem does_expect_of_ne {expected m : Message} {ms : List Message} (h : x.inbound = m :: ms)
    (hm : m ≠ expected) : Does hooks l (expect expected) { taken := 1 }
      (.error (.unexpected expected.kind m.kind)) x := by
  rw [Does, Deeds.after_taken, h, expect, Action.bind_eq, receive_eq h]
  dsimp only
  rw [if_pos hm]
  exact ⟨rfl, rfl⟩

theorem does_expect_nil {expected : Message} (h : x.inbound = []) :
    Does hooks l (expect expected) {} (.error (.channel .closed)) x := by
  obtain ⟨inbound, sent, room, states, journal, events⟩ := x
  obtain rfl : inbound = [] := h
  exact ⟨rfl, Deeds.after_empty.symm⟩

/-- The messages that the channel takes. -/
def heard (room : Option Nat) (ms : List Message) : List Message := ms.take (room.getD ms.length)

/-- The result of a run that sends the messages, the last of them at its end. -/
def told (room : Option Nat) (ms : List Message) (v : Except DispatchError Unit) :
    Except DispatchError Unit :=
  if ms.length ≤ room.getD ms.length then v else .error (.channel .closed)

/-- Whether or not the channel takes the messages, an error ends what is done. -/
theorem Does.bind_told {a : Action DispatchError Unit} {k : Unit → Action DispatchError Unit}
    {d : Deeds} {room : Option Nat} {ms : List Message} {error : DispatchError}
    (ha : Does hooks l a d (told room ms (.error error)) x) :
    Does hooks l (a >>= k) d (told room ms (.error error)) x := by
  unfold told at ha ⊢
  by_cases hroom : ms.length ≤ room.getD ms.length
  · rw [if_pos hroom] at ha ⊢
    exact ha.bind_error
  · rw [if_neg hroom] at ha ⊢
    exact ha.bind_error

theorem does_tell (m : Message) :
    Does hooks l (tell m) { sent := heard x.room [m] } (told x.room [m] (.ok ())) x := by
  rw [Does, Deeds.after_sent, tell, Action.mapError_eq, Action.send_eq]
  rcases hroom : x.room with _ | _ | k
  · exact ⟨rfl, by simp [heard, Exchange.quiet]⟩
  · exact ⟨rfl, by simp [heard, Exchange.quiet]⟩
  · exact ⟨by simp [told, Except.mapError], by simp [heard, Exchange.quiet]⟩

/-- A message is sent, and what is left is to give the result. -/
theorem does_tell_bind {m : Message} {k : Unit → Action DispatchError Unit}
    {v : Except DispatchError Unit} (hk : ∀ y, Does hooks l (k ()) {} v y) :
    Does hooks l (tell m >>= k) { sent := heard x.room [m] } (told x.room [m] v) x := by
  have htell : Does hooks l (tell m) { sent := heard x.room [m] } (told x.room [m] (.ok ())) x :=
    does_tell m
  unfold told at htell ⊢
  by_cases hroom : [m].length ≤ x.room.getD [m].length
  · rw [if_pos hroom] at htell ⊢
    exact htell.bind (fun y _ => hk y) (Deeds.append_empty _)
  · rw [if_neg hroom] at htell ⊢
    exact htell.bind_error

/-! ## Startup and shutdown -/

/-- Startup handlers that succeed run one after the other, all in the state of the first. -/
theorem does_startHandlers {s : LifespanState} {hs : List Handle} (hstate : x.stateOf l.cell = s)
    (hstartup : AllSucceed hooks s hs) :
    Does hooks l (startHandlers hooks l hs) { calls := hs.map (·, s) } (.ok ()) x := by
  induction hs generalizing x with
  | nil => exact does_pure ()
  | cons h hs ih =>
      obtain ⟨hfirst, hrest⟩ := List.forall_mem_cons.mp hstartup
      obtain ⟨entries, hentries⟩ := hfirst
      refine does_currentState.bind (fun y hy => ?_) (Deeds.empty_append _)
      have hy' : y.stateOf l.cell = s := (Deeds.stateOf_eq hy).trans hstate
      rw [hstate, hentries]
      refine (does_record hentries).bind (e := { calls := hs.map (·, s) }) (fun z hz => ?_) rfl
      exact ih ((Deeds.stateOf_eq hz).trans hy') hrest

/-- The first startup handler that fails ends the startup. -/
theorem does_startHandlers_of_failure {s : LifespanState} {before : List Handle} {h : Handle}
    {failure : Failure} (hstate : x.stateOf l.cell = s)
    (hbefore : AllSucceed hooks s before)
    (hfails : hooks h s = .error failure) (after : List Handle) :
    Does hooks l (startHandlers hooks l (before ++ h :: after))
      { calls := (before ++ [h]).map (·, s)
        entered := [.failed]
        sent := heard x.room [.lifecycleStartFailed failure.text] }
      (told x.room [.lifecycleStartFailed failure.text]
        (.error (.startupFailed failure.text))) x := by
  induction before generalizing x with
  | nil =>
      refine does_currentState.bind (fun y hy => ?_) (Deeds.empty_append _)
      rw [hstate, hfails]
      refine (does_fail hfails _).bind (e := {
        entered := [.failed]
        sent := heard x.room [.lifecycleStartFailed failure.text] }) (fun z hz => ?_) rfl
      refine (does_enter .failed).bind (e := {
        sent := heard x.room [.lifecycleStartFailed failure.text] }) (fun w hw => ?_) rfl
      rw [← Deeds.room_same hy rfl, ← Deeds.room_same hz rfl, ← Deeds.room_same hw rfl]
      exact does_tell_bind fun _ => does_throw _
  | cons g before ih =>
      obtain ⟨⟨entries, hentries⟩, hrest⟩ := List.forall_mem_cons.mp hbefore
      refine does_currentState.bind (fun y hy => ?_) (Deeds.empty_append _)
      have hy' : y.stateOf l.cell = s := (Deeds.stateOf_eq hy).trans hstate
      rw [hstate, hentries]
      refine (does_record hentries).bind (e := {
        calls := (before ++ [h]).map (·, s)
        entered := [.failed]
        sent := heard x.room [.lifecycleStartFailed failure.text] }) (fun z hz => ?_) rfl
      rw [← Deeds.room_same hy rfl, ← Deeds.room_same hz rfl]
      exact ih ((Deeds.stateOf_eq hz).trans hy') hrest

/-- Shutdown handlers run one after the other, also behind one that fails. -/
theorem does_stopHandlers {s : LifespanState} {hs : List Handle} (hstate : x.stateOf l.cell = s) :
    Does hooks l (stopHandlers hooks l hs) { calls := hs.map (·, s) }
      (.ok (failures hooks (hs.map (·, s)))) x := by
  induction hs generalizing x with
  | nil => exact does_pure []
  | cons h hs ih =>
      refine does_currentState.bind (fun y hy => ?_) (Deeds.empty_append _)
      have hy' : y.stateOf l.cell = s := (Deeds.stateOf_eq hy).trans hstate
      rw [hstate]
      cases hresult : hooks h s with
      | ok entries =>
          have hfailures : failures hooks ((h :: hs).map (·, s)) =
              failures hooks (hs.map (·, s)) := by
            simp [failures, hresult]
          rw [hfailures]
          refine (does_record hresult).bind (e := { calls := hs.map (·, s) }) (fun z hz => ?_) rfl
          exact ih ((Deeds.stateOf_eq hz).trans hy')
      | error failure =>
          have hfailures : failures hooks ((h :: hs).map (·, s)) =
              failure.text :: failures hooks (hs.map (·, s)) := by
            simp [failures, hresult]
          rw [hfailures]
          refine (does_fail hresult _).bind (e := { calls := hs.map (·, s) }) (fun z hz => ?_) rfl
          have hrest := ih ((Deeds.stateOf_eq hz).trans hy')
          exact hrest.bind (fun _ _ => does_pure _) (Deeds.append_empty _)

theorem does_start (hstartup : AllSucceed hooks .starting l.startup) :
    Does hooks l (start hooks l)
      { calls := l.startup.map (·, .starting)
        entered := [.starting, .running]
        sent := heard x.room [.lifecycleStartComplete] }
      (told x.room [.lifecycleStartComplete] (.ok ())) x := by
  refine (does_enter .starting).bind (e := {
    calls := l.startup.map (·, .starting)
    entered := [.running]
    sent := heard x.room [.lifecycleStartComplete] }) (fun y hy => ?_) rfl
  have hstate : y.stateOf l.cell = .starting := Deeds.stateOf_eq hy
  refine (does_startHandlers hstate hstartup).bind (e := {
    entered := [.running]
    sent := heard x.room [.lifecycleStartComplete] }) (fun z hz => ?_) ?_
  · refine (does_enter .running).bind (e := {
      sent := heard x.room [.lifecycleStartComplete] }) (fun w hw => ?_) rfl
    refine (does_log _).bind (fun u hu => ?_) (Deeds.empty_append _)
    rw [← Deeds.room_same hy rfl, ← Deeds.room_same hz rfl, ← Deeds.room_same hw rfl,
      ← Deeds.room_same hu rfl]
    exact does_tell _
  · simp [Deeds.append_eq]

theorem does_start_of_failure {before after : List Handle} {h : Handle} {failure : Failure}
    (hstartup : l.startup = before ++ h :: after)
    (hbefore : AllSucceed hooks .starting before)
    (hfails : hooks h .starting = .error failure) :
    Does hooks l (start hooks l)
      { calls := (before ++ [h]).map (·, .starting)
        entered := [.starting, .failed]
        sent := heard x.room [.lifecycleStartFailed failure.text] }
      (told x.room [.lifecycleStartFailed failure.text]
        (.error (.startupFailed failure.text))) x := by
  refine (does_enter .starting).bind (e := {
    calls := (before ++ [h]).map (·, .starting)
    entered := [.failed]
    sent := heard x.room [.lifecycleStartFailed failure.text] }) (fun y hy => ?_) rfl
  rw [hstartup, ← Deeds.room_same hy rfl]
  have hstate : y.stateOf l.cell = .starting := Deeds.stateOf_eq hy
  exact (does_startHandlers_of_failure hstate hbefore hfails after).bind_told

/-- The result of a shutdown in which handlers failed with the texts. -/
def outcome (failures : List String) : Except DispatchError Unit :=
  if failures = [] then .ok () else .error (.shutdownFailed failures)

theorem does_stop : Does hooks l (stop hooks l)
    { calls := l.shutdown.map (·, .stopping)
      entered := [.stopping, .stopped]
      sent := heard x.room [.lifecycleStopComplete] }
    (told x.room [.lifecycleStopComplete]
      (outcome (failures hooks (l.shutdown.map (·, .stopping))))) x := by
  refine (does_enter .stopping).bind (e := {
    calls := l.shutdown.map (·, .stopping)
    entered := [.stopped]
    sent := heard x.room [.lifecycleStopComplete] }) (fun y hy => ?_) rfl
  have hstate : y.stateOf l.cell = .stopping := Deeds.stateOf_eq hy
  refine (does_stopHandlers hstate).bind (e := {
    entered := [.stopped]
    sent := heard x.room [.lifecycleStopComplete] }) (fun z hz => ?_) ?_
  · refine (does_enter .stopped).bind (e := {
      sent := heard x.room [.lifecycleStopComplete] }) (fun w hw => ?_) rfl
    rw [← Deeds.room_same hy rfl, ← Deeds.room_same hz rfl, ← Deeds.room_same hw rfl]
    refine does_tell_bind fun u => ?_
    cases failures hooks (l.shutdown.map (·, .stopping)) with
    | nil => exact does_pure ()
    | cons text texts => exact does_throw _
  · simp [Deeds.append_eq]

/-! ## The whole handshake -/

/-- The ways in which a handshake can go on a channel that takes so many messages, by the messages
that come in: what the lifespan does, and the result. -/
inductive Course (hooks : Handle → Hook) (l : Lifespan) (room : Option Nat) :
    List Message → Deeds → Except DispatchError Unit → Prop
  /-- Nothing comes in. -/
  | silent : Course hooks l room [] {} (.error (.channel .closed))
  /-- What comes first is not the start. -/
  | unopened {m : Message} {ms : List Message} (hm : m ≠ .lifecycleStart) :
      Course hooks l room (m :: ms) { taken := 1 }
        (.error (.unexpected Message.lifecycleStart.kind m.kind))
  /-- A startup handler fails, after those before it have succeeded. -/
  | failed {before after : List Handle} {h : Handle} {failure : Failure} {ms : List Message}
      (hstartup : l.startup = before ++ h :: after)
      (hbefore : AllSucceed hooks .starting before)
      (hfails : hooks h .starting = .error failure) :
      Course hooks l room (.lifecycleStart :: ms)
        { calls := (before ++ [h]).map (·, .starting)
          entered := [.starting, .failed]
          sent := heard room [.lifecycleStartFailed failure.text]
          taken := 1 }
        (told room [.lifecycleStartFailed failure.text] (.error (.startupFailed failure.text)))
  /-- The startup succeeds, but the channel does not take the news of it. -/
  | unheard {ms : List Message}
      (hstartup : AllSucceed hooks .starting l.startup)
      (hroom : room = some 0) :
      Course hooks l room (.lifecycleStart :: ms)
        { calls := l.startup.map (·, .starting)
          entered := [.starting, .running]
          taken := 1 }
        (.error (.channel .closed))
  /-- After the startup nothing more comes in. -/
  | abandoned (hstartup : AllSucceed hooks .starting l.startup)
      (hroom : room ≠ some 0) :
      Course hooks l room [.lifecycleStart]
        { calls := l.startup.map (·, .starting)
          entered := [.starting, .running]
          sent := [.lifecycleStartComplete]
          taken := 1 }
        (.error (.channel .closed))
  /-- What comes in after the startup is not the stop. -/
  | interrupted {m : Message} {ms : List Message}
      (hstartup : AllSucceed hooks .starting l.startup)
      (hroom : room ≠ some 0) (hm : m ≠ .lifecycleStop) :
      Course hooks l room (.lifecycleStart :: m :: ms)
        { calls := l.startup.map (·, .starting)
          entered := [.starting, .running]
          sent := [.lifecycleStartComplete]
          taken := 2 }
        (.error (.unexpected Message.lifecycleStop.kind m.kind))
  /-- Every shutdown handler runs, and those that fail are reported at the end. -/
  | stopped {ms : List Message}
      (hstartup : AllSucceed hooks .starting l.startup)
      (hroom : room ≠ some 0) :
      Course hooks l room (.lifecycleStart :: .lifecycleStop :: ms)
        { calls := l.startup.map (·, .starting) ++ l.shutdown.map (·, .stopping)
          entered := [.starting, .running, .stopping, .stopped]
          sent := heard room [.lifecycleStartComplete, .lifecycleStopComplete]
          taken := 2 }
        (told room [.lifecycleStartComplete, .lifecycleStopComplete]
          (outcome (failures hooks (l.shutdown.map (·, .stopping)))))

/-- The handlers all succeed, or there is a first one that does not. -/
theorem handlers_cases (hooks : Handle → Hook) (s : LifespanState) (hs : List Handle) :
    AllSucceed hooks s hs ∨ ∃ before h after failure, hs = before ++ h :: after ∧
      AllSucceed hooks s before ∧ hooks h s = .error failure := by
  induction hs with
  | nil => exact Or.inl (List.forall_mem_nil _)
  | cons h hs ih =>
      cases hresult : hooks h s with
      | error failure => exact Or.inr ⟨[], h, hs, failure, rfl, List.forall_mem_nil _, hresult⟩
      | ok entries =>
          have hfirst : ∃ entries, hooks h s = .ok entries := ⟨entries, hresult⟩
          rcases ih with hrest | ⟨before, g, after, failure, rfl, hbefore, hfails⟩
          · exact Or.inl (List.forall_mem_cons.mpr ⟨hfirst, hrest⟩)
          · exact Or.inr ⟨h :: before, g, after, failure, rfl,
              List.forall_mem_cons.mpr ⟨hfirst, hbefore⟩, hfails⟩

/-- Every handshake takes one of the courses. -/
theorem exists_course (hooks : Handle → Hook) (l : Lifespan) (room : Option Nat)
    (inbound : List Message) : ∃ d v, l.Course hooks room inbound d v := by
  rcases inbound with _ | ⟨m, ms⟩
  · exact ⟨_, _, .silent⟩
  by_cases hm : m = .lifecycleStart
  case neg => exact ⟨_, _, .unopened hm⟩
  subst hm
  rcases handlers_cases hooks .starting l.startup with
    hstartup | ⟨before, h, after, failure, hstartup, hbefore, hfails⟩
  case inr => exact ⟨_, _, .failed hstartup hbefore hfails⟩
  by_cases hroom : room = some 0
  · exact ⟨_, _, .unheard hstartup hroom⟩
  rcases ms with _ | ⟨m, ms⟩
  · exact ⟨_, _, .abandoned hstartup hroom⟩
  by_cases hm : m = .lifecycleStop
  · subst hm
    exact ⟨_, _, .stopped hstartup hroom⟩
  · exact ⟨_, _, .interrupted hstartup hroom hm⟩

variable {d e : Deeds} {v : Except DispatchError Unit}

theorem heard_cons {room : Option Nat} (h : room ≠ some 0) (m : Message) (ms : List Message) :
    heard room (m :: ms) = m :: heard (room.map (· - 1)) ms := by
  rcases room with _ | _ | k
  · simp [heard]
  · exact absurd rfl h
  · simp [heard]

theorem told_cons {room : Option Nat} (h : room ≠ some 0) (m : Message) (ms : List Message)
    (v : Except DispatchError Unit) : told room (m :: ms) v = told (room.map (· - 1)) ms v := by
  rcases room with _ | _ | k
  · simp [told]
  · exact absurd rfl h
  · simp [told]

theorem told_nil (room : Option Nat) (v : Except DispatchError Unit) : told room [] v = v :=
  if_pos (Nat.zero_le _)

theorem heard_nil (room : Option Nat) : heard room [] = [] := List.take_nil

/-- What a lifespan does up to its being told to stop. -/
def opening (l : Lifespan) : Deeds where
  calls := l.startup.map (·, .starting)
  entered := [.starting, .running]
  sent := [.lifecycleStartComplete]
  taken := 1

/-- When the startup has succeeded and the channel took the news, the lifespan waits to be told to
stop. -/
theorem does_serve_of_startup {ms : List Message} (hinbound : x.inbound = .lifecycleStart :: ms)
    (hstartup : AllSucceed hooks .starting l.startup)
    (hroom : x.room ≠ some 0)
    (hrest : ∀ y : Exchange, y.inbound = ms → y.room = x.room.map (· - 1) →
      Does hooks l (do expect .lifecycleStop; l.stop hooks) e v y) (hboth : l.opening ++ e = d) :
    Does hooks l (serve hooks l) d v x := by
  subst hboth
  refine (does_expect hinbound).bind (e := { l.opening with taken := 0 } ++ e) (fun y hy => ?_) ?_
  · have hstart := does_start (x := y) hstartup
    rw [Deeds.room_same hy rfl, told_cons hroom, told_nil, heard_cons hroom, heard_nil] at hstart
    refine hstart.bind (fun z hz => hrest z ?_ ?_) rfl
    · have htaken : y.inbound = ms := (Deeds.inbound_eq hy).trans (congrArg (List.drop 1) hinbound)
      exact (Deeds.inbound_eq hz).trans htaken
    · rw [Deeds.room_eq hz, Deeds.room_same hy rfl]
      rfl
  · rw [Deeds.append_eq, Deeds.append_eq, Deeds.append_eq, opening]
    simp

/-- A lifespan keeps to its course. -/
theorem Course.serves (h : l.Course hooks x.room x.inbound d v) :
    Does hooks l (serve hooks l) d v x := by
  generalize hinbound : x.inbound = inbound at h
  -- each course is followed up to the step that ends it
  cases h with
  | silent => exact (does_expect_nil hinbound).bind_error
  | unopened hm => exact (does_expect_of_ne hinbound hm).bind_error
  | @failed before after h failure ms hstartup hbefore hfails =>
      refine (does_expect hinbound).bind (e := {
        calls := (before ++ [h]).map (·, .starting)
        entered := [.starting, .failed]
        sent := heard x.room [.lifecycleStartFailed failure.text] }) (fun y hy => ?_) rfl
      rw [← Deeds.room_same hy rfl]
      exact (does_start_of_failure hstartup hbefore hfails).bind_told
  | unheard hstartup hroom =>
      refine (does_expect hinbound).bind (e := {
        calls := l.startup.map (·, .starting)
        entered := [.starting, .running] }) (fun y hy => ?_) rfl
      have hstart := does_start (x := y) hstartup
      rw [Deeds.room_same hy rfl, hroom] at hstart
      exact hstart.bind_error
  | abandoned hstartup hroom =>
      exact does_serve_of_startup hinbound hstartup hroom
        (fun y hy _ => (does_expect_nil hy).bind_error) (Deeds.append_empty _)
  | interrupted hstartup hroom hm =>
      refine does_serve_of_startup hinbound hstartup hroom
        (fun y hy _ => (does_expect_of_ne hy hm).bind_error) ?_
      rw [Deeds.append_eq, opening]
      simp
  | @stopped ms hstartup hroom =>
      rw [told_cons hroom, heard_cons hroom]
      refine does_serve_of_startup (e := {
        calls := l.shutdown.map (·, .stopping)
        entered := [.stopping, .stopped]
        sent := heard (x.room.map (· - 1)) [.lifecycleStopComplete]
        taken := 1 }) hinbound hstartup hroom (fun y hy hyroom => ?_) rfl
      refine (does_expect hy).bind (e := {
        calls := l.shutdown.map (·, .stopping)
        entered := [.stopping, .stopped]
        sent := heard (x.room.map (· - 1)) [.lifecycleStopComplete] }) (fun z hz => ?_) rfl
      rw [← hyroom, ← Deeds.room_same hz rfl]
      exact does_stop

/-! ## Handlers that are not called -/

section Agreement

variable {hooks' : Handle → Hook} {room : Option Nat} {inbound : List Message}

theorem failures_congr {calls : List (Handle × LifespanState)}
    (hagree : ∀ c ∈ calls, hooks' c.1 c.2 = hooks c.1 c.2) :
    failures hooks' calls = failures hooks calls := by
  refine List.filterMap_congr fun c hc => ?_
  rw [hagree c hc]

theorem Deeds.after_congr (hagree : ∀ c ∈ d.calls, hooks' c.1 c.2 = hooks c.1 c.2) :
    d.after hooks' l x = d.after hooks l x := by
  have hwritten : written hooks' d.calls = written hooks d.calls := by
    refine List.flatMap_congr fun c hc => ?_
    rw [hagree c hc]
  rw [after, after, hwritten]

/-- The course hangs on no handlers but those that are called. -/
theorem Course.congr (h : l.Course hooks room inbound d v)
    (hagree : ∀ c ∈ d.calls, hooks' c.1 c.2 = hooks c.1 c.2) :
    l.Course hooks' room inbound d v := by
  have hsucceed {s : LifespanState} {hs : List Handle} (hsub : hs.map (·, s) ⊆ d.calls)
      (hok : AllSucceed hooks s hs) : AllSucceed hooks' s hs := by
    intro h hh
    rw [hagree (h, s) (hsub (List.mem_map_of_mem hh))]
    exact hok h hh
  cases h with
  | silent => exact .silent
  | unopened hm => exact .unopened hm
  | @failed before after h failure ms hstartup hbefore hfails =>
      refine .failed hstartup (hsucceed ?_ hbefore) ?_
      · rw [List.map_append]
        exact List.subset_append_left _ _
      · rw [hagree (h, .starting) (List.mem_map_of_mem (by simp)), hfails]
  | unheard hstartup hroom => exact .unheard (hsucceed (List.Subset.refl _) hstartup) hroom
  | abandoned hstartup hroom => exact .abandoned (hsucceed (List.Subset.refl _) hstartup) hroom
  | interrupted hstartup hroom hm =>
      exact .interrupted (hsucceed (List.Subset.refl _) hstartup) hroom hm
  | @stopped ms hstartup hroom =>
      have hfailures : failures hooks' (l.shutdown.map (·, .stopping)) =
          failures hooks (l.shutdown.map (·, .stopping)) :=
        failures_congr fun c hc => hagree c (List.mem_append_right _ hc)
      rw [← hfailures]
      exact .stopped (hsucceed (List.subset_append_left _ _) hstartup) hroom

end Agreement

end Lifespan

end Waymark
