import Waymark.Proofs.Lifespan.Course

/-!
# What becomes of failures

A lifecycle handler that fails has two ways to be noticed: the state of the
lifespan and the error of the run. The state always shows it. The error does
only if the channel takes the message that announces the outcome, since a
message that is not taken ends the run with an error of the channel
(`Lifespan.told`), whatever had been found before.

So a failed startup is reported exactly if the channel has room for one more
message, and so are the failures of a shutdown. In the whole handshake the
shutdown is the second to speak, behind the news that the startup is complete.
-/

namespace Waymark.Lifespan

variable {hooks : Handle → Hook} {l : Lifespan} {x : Exchange} {s : LifespanState}

def failure? (hooks : Handle → Hook) (s : LifespanState) (h : Handle) : Option Failure :=
  match hooks h s with
  | .ok _ => none
  | .error failure => some failure

theorem failure?_eq_some_iff {h : Handle} {failure : Failure} :
    failure? hooks s h = some failure ↔ hooks h s = .error failure := by
  rw [failure?]
  cases hooks h s <;> simp

theorem failure?_eq_none_iff {h : Handle} :
    failure? hooks s h = none ↔ ∃ entries, hooks h s = .ok entries := by
  rw [failure?]
  cases hooks h s <;> simp

def firstFailure? (hooks : Handle → Hook) (s : LifespanState) (hs : List Handle) :
    Option Failure :=
  hs.findSome? (failure? hooks s)

theorem firstFailure?_eq_some_iff {hs : List Handle} {failure : Failure} :
    firstFailure? hooks s hs = some failure ↔ ∃ before h after, hs = before ++ h :: after ∧
      AllSucceed hooks s before ∧ hooks h s = .error failure := by
  simp only [firstFailure?, List.findSome?_eq_some_iff, failure?_eq_some_iff,
    failure?_eq_none_iff, AllSucceed]
  constructor
  · rintro ⟨before, h, after, rfl, hfails, hbefore⟩
    exact ⟨before, h, after, rfl, hbefore, hfails⟩
  · rintro ⟨before, h, after, rfl, hbefore, hfails⟩
    exact ⟨before, h, after, rfl, hfails, hbefore⟩

theorem firstFailure?_eq_none_iff {hs : List Handle} :
    firstFailure? hooks s hs = none ↔ AllSucceed hooks s hs := by
  simp only [firstFailure?, List.findSome?_eq_none_iff, failure?_eq_none_iff, AllSucceed]

/-! ## Results that have to be announced -/

theorem told_one (room : Option Nat) (m : Message) (v : Except DispatchError Unit) :
    told room [m] v = if room = some 0 then .error (.channel .closed) else v := by
  rcases room with _ | _ | k <;> simp [told]

theorem told_two {room : Option Nat} (h : room ≠ some 0) (m n : Message)
    (v : Except DispatchError Unit) :
    told room [m, n] v = if room = some 1 then .error (.channel .closed) else v := by
  rw [told_cons h, told_one]
  rcases room with _ | _ | _ | k <;> simp at h ⊢

theorem outcome_of_failures {texts : List String} (h : texts ≠ []) :
    outcome texts = .error (.shutdownFailed texts) :=
  if_neg h

theorem Does.journal_eq {α : Type} {a : Action DispatchError α} {d : Deeds}
    {v : Except DispatchError α} (h : Does hooks l a d v x) :
    (a x).2.journal = x.journal ++ written hooks d.calls :=
  congrArg Exchange.journal h.2

theorem Does.stateOf_eq {α : Type} {a : Action DispatchError α} {d : Deeds}
    {v : Except DispatchError α} (h : Does hooks l a d v x) :
    (a x).2.stateOf l.cell = d.entered.getLast?.getD (x.stateOf l.cell) :=
  Deeds.stateOf_eq h.2

/-! ## The reports -/

/-- Startup stops at the first handler that fails. -/
theorem start_of_firstFailure {failure : Failure}
    (h : firstFailure? hooks .starting l.startup = some failure) :
    (start hooks l x).2.stateOf l.cell = .failed ∧
      (start hooks l x).1 = .error (if x.room = some 0 then .channel .closed
        else .startupFailed failure.text) := by
  obtain ⟨before, g, after, hstartup, hbefore, hfails⟩ := firstFailure?_eq_some_iff.mp h
  have hdoes := does_start_of_failure (x := x) hstartup hbefore hfails
  refine ⟨hdoes.stateOf_eq, ?_⟩
  rw [hdoes.1, told_one, apply_ite Except.error]

/-- Shutdown runs every handler, and ends up stopped with all failures collected. -/
theorem stop_collects : (stop hooks l x).2.stateOf l.cell = .stopped ∧
    (stop hooks l x).2.journal = x.journal ++ written hooks (l.shutdown.map (·, .stopping)) ∧
    (failures hooks (l.shutdown.map (·, .stopping)) ≠ [] →
      (stop hooks l x).1 = .error (if x.room = some 0 then .channel .closed
        else .shutdownFailed (failures hooks (l.shutdown.map (·, .stopping))))) := by
  have hdoes : Does hooks l (stop hooks l) _ _ x := does_stop
  refine ⟨hdoes.stateOf_eq, hdoes.journal_eq, fun hfailures => ?_⟩
  rw [hdoes.1, told_one, outcome_of_failures hfailures, apply_ite Except.error]

theorem serve_of_firstFailure {failure : Failure} {ms : List Message}
    (hinbound : x.inbound = .lifecycleStart :: ms)
    (h : firstFailure? hooks .starting l.startup = some failure) :
    (serve hooks l x).2.stateOf l.cell = .failed ∧
      (serve hooks l x).1 = .error (if x.room = some 0 then .channel .closed
        else .startupFailed failure.text) := by
  obtain ⟨before, g, after, hstartup, hbefore, hfails⟩ := firstFailure?_eq_some_iff.mp h
  have hcourse : Course hooks l x.room (.lifecycleStart :: ms) _ _ :=
    .failed hstartup hbefore hfails
  rw [← hinbound] at hcourse
  refine ⟨hcourse.serves.stateOf_eq, ?_⟩
  rw [hcourse.serves.1, told_one, apply_ite Except.error]

theorem serve_collects {ms : List Message}
    (hinbound : x.inbound = .lifecycleStart :: .lifecycleStop :: ms)
    (hstartup : firstFailure? hooks .starting l.startup = none) (hroom : x.room ≠ some 0) :
    (serve hooks l x).2.stateOf l.cell = .stopped ∧
      (serve hooks l x).2.journal = x.journal ++ written hooks
        (l.startup.map (·, .starting) ++ l.shutdown.map (·, .stopping)) ∧
      (failures hooks (l.shutdown.map (·, .stopping)) ≠ [] →
        (serve hooks l x).1 = .error (if x.room = some 1 then .channel .closed
          else .shutdownFailed (failures hooks (l.shutdown.map (·, .stopping))))) := by
  have hcourse : Course hooks l x.room (.lifecycleStart :: .lifecycleStop :: ms) _ _ :=
    .stopped (firstFailure?_eq_none_iff.mp hstartup) hroom
  rw [← hinbound] at hcourse
  refine ⟨hcourse.serves.stateOf_eq, hcourse.serves.journal_eq, fun hfailures => ?_⟩
  rw [hcourse.serves.1, told_two hroom, outcome_of_failures hfailures, apply_ite Except.error]

/-- What becomes of the failures of handlers, on every channel.

If a startup handler fails, the lifespan has failed, and the result is the first failure unless
the channel refuses to take the news of it: then the result is that the channel is closed. A
shutdown runs all of its handlers and leaves the lifespan stopped, and if some of them fail, the
result is all their failures in order, again unless the channel refuses the news that the
application stopped. In a whole handshake it is the same, where the news of the shutdown is the
second message of two. -/
theorem reports_failures (hooks : Handle → Hook) (l : Lifespan) (x : Exchange) :
    (∀ failure, firstFailure? hooks .starting l.startup = some failure →
      ((start hooks l x).2.stateOf l.cell = .failed ∧
        (start hooks l x).1 = .error (if x.room = some 0 then .channel .closed
          else .startupFailed failure.text)) ∧
      (x.inbound.head? = some .lifecycleStart →
        (serve hooks l x).2.stateOf l.cell = .failed ∧
        (serve hooks l x).1 = .error (if x.room = some 0 then .channel .closed
          else .startupFailed failure.text))) ∧
    ((stop hooks l x).2.stateOf l.cell = .stopped ∧
      (stop hooks l x).2.journal = x.journal ++ written hooks (l.shutdown.map (·, .stopping)) ∧
      (failures hooks (l.shutdown.map (·, .stopping)) ≠ [] →
        (stop hooks l x).1 = .error (if x.room = some 0 then .channel .closed
          else .shutdownFailed (failures hooks (l.shutdown.map (·, .stopping)))))) ∧
    (x.inbound.take 2 = [.lifecycleStart, .lifecycleStop] →
      firstFailure? hooks .starting l.startup = none → x.room ≠ some 0 →
      (serve hooks l x).2.stateOf l.cell = .stopped ∧
      (serve hooks l x).2.journal = x.journal ++ written hooks
        (l.startup.map (·, .starting) ++ l.shutdown.map (·, .stopping)) ∧
      (failures hooks (l.shutdown.map (·, .stopping)) ≠ [] →
        (serve hooks l x).1 = .error (if x.room = some 1 then .channel .closed
          else .shutdownFailed (failures hooks (l.shutdown.map (·, .stopping)))))) := by
  refine ⟨fun failure hfailure => ⟨start_of_firstFailure hfailure, fun hopened => ?_⟩,
    stop_collects, fun hinbound hstartup hroom => ?_⟩
  · obtain ⟨ms, hms⟩ := List.head?_eq_some_iff.mp hopened
    exact serve_of_firstFailure hms hfailure
  · have hsplit := List.take_append_drop 2 x.inbound
    rw [hinbound] at hsplit
    exact serve_collects hsplit.symm hstartup hroom

end Waymark.Lifespan

namespace Waymark.Site

def doomed : Lifespan := ⟨[⟨[1]⟩], [⟨[2]⟩, ⟨[3]⟩], ⟨[0]⟩⟩

def failing (h : Handle) (_ : LifespanState) : Except Failure (List String) :=
  .error ⟨["handler", toString h.address]⟩

theorem reports_failures_doomed :
    Lifespan.firstFailure? failing .starting doomed.startup = some ⟨["handler", "[1]"]⟩ ∧
      (doomed.start failing (.new [] none)).1 = .error (.startupFailed "handler: [1]") ∧
      (doomed.stop failing (.new [] none)).1 =
        .error (.shutdownFailed ["handler: [2]", "handler: [3]"]) := by
  have hfirst : Lifespan.firstFailure? failing .starting doomed.startup =
      some ⟨["handler", "[1]"]⟩ := by decide +kernel
  have hall : Lifespan.failures failing (doomed.shutdown.map (·, .stopping)) =
      ["handler: [2]", "handler: [3]"] := by decide +kernel
  obtain ⟨hstart, hstop, -⟩ := Lifespan.reports_failures failing doomed (.new [] none)
  rw [hall] at hstop
  exact ⟨hfirst, (hstart _ hfirst).1.2, hstop.2.2 (by decide)⟩

/-- On a channel that takes nothing, neither the failure of the startup nor those of the shutdown
are reported. -/
theorem failures_unreported :
    Lifespan.firstFailure? failing .starting doomed.startup = some ⟨["handler", "[1]"]⟩ ∧
      (doomed.start failing (.new [] (some 0))).1 = .error (.channel .closed) ∧
      (doomed.stop failing (.new [] (some 0))).1 = .error (.channel .closed) := by
  decide +kernel

end Waymark.Site
