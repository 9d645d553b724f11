import Mathlib.Data.List.Chain
import Waymark.Proofs.Lifespan.Serving

/-!
# Histories of lifespans

An application may be asked to serve the lifecycle again and again, by one
router or by several that share a lifespan. What a lifespan goes through then is
its history, and the diagram of the states says which changes there should be.

One dispatch adds nothing to a history, or the states of one handshake
(`Round.history_run`); which of them these can be, `Lifespan.Passage` lists. So
a history is the first state and then one passage for each handshake that was
opened (`Round.history_runAll`). Within a passage every change is one of the
diagram. But nothing keeps a handshake from being opened after another one, in
whatever state that one has left the lifespan: then the lifespan starts again,
which the diagram does not have. `Round.follows_diagram` says that this is the
one way in which a history departs from it.
-/

namespace Waymark

namespace LifespanState

/-- The changes of state in the diagram. -/
def leadsTo : LifespanState → LifespanState → Bool
  | .created, .starting => true
  | .starting, .running => true
  | .starting, .failed => true
  | .running, .stopping => true
  | .stopping, .stopped => true
  | _, _ => false

/-- A start from a state in which a handshake has left the lifespan. -/
def restarts : LifespanState → LifespanState → Bool
  | .running, .starting => true
  | .stopped, .starting => true
  | .failed, .starting => true
  | _, _ => false

end LifespanState

/-! ## One handshake -/

namespace Lifespan

/-- What a lifespan goes through in one handshake that has been opened. -/
inductive Passage : List LifespanState → Prop
  | failed : Passage [.starting, .failed]
  | running : Passage [.starting, .running]
  | stopped : Passage [.starting, .running, .stopping, .stopped]

variable {hooks : Handle → Hook} {l : Lifespan} {room : Option Nat} {inbound : List Message}
variable {d : Deeds} {v : Except DispatchError Unit}

theorem Course.passage (h : l.Course hooks room inbound d v)
    (hopens : inbound.head? = some .lifecycleStart) : Passage d.entered := by
  cases h with
  | silent => cases hopens
  | unopened hm => exact absurd (Option.some.inj hopens) hm
  | failed _ _ _ => exact .failed
  | unheard _ _ | abandoned _ _ | interrupted _ _ _ => exact .running
  | stopped _ _ => exact .stopped

theorem Course.entered_eq_nil (h : l.Course hooks room inbound d v)
    (hopens : inbound.head? ≠ some .lifecycleStart) : d.entered = [] := by
  cases h with
  | silent | unopened _ => rfl
  | failed _ _ _ | unheard _ _ | abandoned _ _ | interrupted _ _ _ | stopped _ _ =>
      exact absurd rfl hopens

end Lifespan

/-- A dispatch of the lifecycle, on a channel of its own. -/
structure Round where
  router : Router
  bindings : Bindings
  scope : Scope
  kind_eq : scope.kind = .lifecycle
  inbound : List Message
  room : Option Nat

namespace Round

/-- The states of the lifespans and the journal are carried over from round to round. -/
def run (round : Round) (x : Exchange) : Exchange :=
  (round.router.dispatch round.bindings round.scope
    { x with inbound := round.inbound, sent := [], room := round.room }).2

def runAll (rounds : List Round) (x : Exchange) : Exchange :=
  rounds.foldl (fun x round => round.run x) x

def opens (round : Round) (cell : Handle) : Bool :=
  round.router.keeper.cell = cell && round.inbound.head? = some .lifecycleStart

/-- One dispatch adds a passage to the history of the lifespan that it starts, and nothing to the
history of any other. -/
theorem history_run (round : Round) (x : Exchange) (cell : Handle) :
    (round.opens cell = true ∧
      ∃ p, Lifespan.Passage p ∧ (round.run x).history cell = x.history cell ++ p) ∨
    (round.opens cell = false ∧ (round.run x).history cell = x.history cell) := by
  obtain ⟨d, v, hcourse⟩ :=
    round.router.keeper.exists_course round.bindings.hook round.room round.inbound
  have hquiet : (round.run x).quiet = d.after round.bindings.hook round.router.keeper
      { x with inbound := round.inbound, sent := [], room := round.room } :=
    (Router.does_dispatch round.kind_eq hcourse).2
  have hhistory : (round.run x).history cell = (d.after round.bindings.hook round.router.keeper
      { x with inbound := round.inbound, sent := [], room := round.room }).history cell :=
    congrArg (·.history cell) hquiet
  by_cases hcell : round.router.keeper.cell = cell
  case neg =>
    refine Or.inr ⟨by simp [opens, hcell], ?_⟩
    rw [hhistory, d.history_after_of_ne (Ne.symm hcell)]
    rfl
  subst hcell
  rw [d.history_after] at hhistory
  by_cases hopens : round.inbound.head? = some .lifecycleStart
  · exact Or.inl ⟨by simp [opens, hopens], d.entered, hcourse.passage hopens, hhistory⟩
  · rw [hcourse.entered_eq_nil hopens, List.append_nil] at hhistory
    exact Or.inr ⟨by simp [opens, hopens], hhistory⟩

theorem history_runAll (rounds : List Round) (x : Exchange) (cell : Handle) :
    ∃ ps : List (List LifespanState), (∀ p ∈ ps, Lifespan.Passage p) ∧
      ps.length = rounds.countP (·.opens cell) ∧
      (runAll rounds x).history cell = x.history cell ++ ps.flatten := by
  induction rounds generalizing x with
  | nil => exact ⟨[], List.forall_mem_nil _, rfl, (List.append_nil _).symm⟩
  | cons round rounds ih =>
      obtain ⟨ps, hps, hlength, hhistory⟩ := ih (round.run x)
      rcases round.history_run x cell with ⟨hopens, p, hp, hrun⟩ | ⟨hopens, hrun⟩
      · refine ⟨p :: ps, List.forall_mem_cons.mpr ⟨hp, hps⟩, ?_, ?_⟩
        · simp [hopens, hlength]
        · rw [List.flatten_cons, ← List.append_assoc, ← hrun]
          exact hhistory
      · refine ⟨ps, hps, ?_, ?_⟩
        · simp [hopens, hlength]
        · rw [← hrun]
          exact hhistory

end Round

/-! ## The changes in a history -/

namespace Lifespan

/-- From passage to passage every change is one of the diagram, or a restart. -/
theorem isChain_passages {ps : List (List LifespanState)} (hps : ∀ p ∈ ps, Passage p)
    {s : LifespanState} (hs : s.leadsTo .starting ∨ s.restarts .starting) :
    (s :: ps.flatten).IsChain fun s t => s.leadsTo t ∨ s.restarts t := by
  induction ps generalizing s with
  | nil => exact List.isChain_singleton _
  | cons p ps ih =>
      obtain ⟨hp, hrest⟩ := List.forall_mem_cons.mp hps
      cases hp with
      | failed =>
          have hlater := ih hrest (s := .failed) (Or.inr rfl)
          exact .cons_cons hs (.cons_cons (Or.inl rfl) hlater)
      | running =>
          have hlater := ih hrest (s := .running) (Or.inr rfl)
          exact .cons_cons hs (.cons_cons (Or.inl rfl) hlater)
      | stopped =>
          have hlater := ih hrest (s := .stopped) (Or.inr rfl)
          exact .cons_cons hs (.cons_cons (Or.inl rfl) (.cons_cons (Or.inl rfl)
            (.cons_cons (Or.inl rfl) hlater)))

/-- A second passage is against the diagram, since the diagram has no way back to the start. -/
theorem isChain_leadsTo_iff {ps : List (List LifespanState)} (hps : ∀ p ∈ ps, Passage p) :
    (LifespanState.created :: ps.flatten).IsChain (fun s t => s.leadsTo t) ↔ ps.length ≤ 1 := by
  rcases ps with _ | ⟨p, _ | ⟨q, ps⟩⟩
  · simp
  · have hp : Passage p := hps p (List.mem_singleton_self p)
    cases hp <;> simp [LifespanState.leadsTo]
  · have hp : Passage p := hps p (by simp)
    have hq : Passage q := hps q (by simp)
    refine iff_of_false ?_ (by simp)
    cases hp <;> cases hq <;> simp [LifespanState.leadsTo]

end Lifespan

namespace Round

/-- How far lifespans follow the diagram of their states.

Let the lifecycle be served any number of times, by any routers, with any handlers, messages and
channels. The history of a lifespan is the first state and then one passage for each handshake
that was opened on it. Every change in it is one of the diagram or a restart, and a lifespan fails
only while it is starting. There is no restart, so that all changes are of the diagram, exactly if
at most one handshake was opened. -/
theorem follows_diagram (rounds : List Round) (cell : Handle) :
    (∃ ps : List (List LifespanState), (∀ p ∈ ps, Lifespan.Passage p) ∧
      ps.length = rounds.countP (·.opens cell) ∧
      (runAll rounds (.new [] none)).history cell = .created :: ps.flatten) ∧
    ((runAll rounds (.new [] none)).history cell).IsChain
      (fun s t => s.leadsTo t ∨ s.restarts t) ∧
    (∀ before s after, (runAll rounds (.new [] none)).history cell =
      before ++ s :: .failed :: after → s = .starting) ∧
    (((runAll rounds (.new [] none)).history cell).IsChain (fun s t => s.leadsTo t) ↔
      rounds.countP (·.opens cell) ≤ 1) := by
  obtain ⟨ps, hps, hlength, hhistory⟩ := history_runAll rounds (.new [] none) cell
  have hfirst : (runAll rounds (.new [] none)).history cell = .created :: ps.flatten := hhistory
  have hchain := Lifespan.isChain_passages hps (s := .created) (Or.inl rfl)
  rw [hfirst, ← hlength]
  refine ⟨⟨ps, hps, rfl, rfl⟩, hchain, ?_, Lifespan.isChain_leadsTo_iff hps⟩
  intro before s after heq
  rw [heq] at hchain
  have hlast := (List.isChain_cons_cons.mp (List.isChain_append.mp hchain).2.1).1
  cases s <;> simp [LifespanState.leadsTo, LifespanState.restarts] at hlast ⊢

end Round

namespace Site

def bare : Router := .ofNodes ⟨[11]⟩ []

/-- The application is started and stopped, and then started again. -/
def startedTwice : List Round :=
  [⟨bare, Echo.bindings, .lifecycle, rfl, [.lifecycleStart, .lifecycleStop], none⟩,
    ⟨bare, Echo.bindings, .lifecycle, rfl, [.lifecycleStart], none⟩]

/-- A lifespan that has stopped can be started again, against the diagram. -/
theorem stopped_not_absorbing :
    (Round.runAll startedTwice (.new [] none)).history bare.lifespan.cell =
      [.created, .starting, .running, .stopping, .stopped, .starting, .running] ∧
    ¬ ((Round.runAll startedTwice (.new [] none)).history bare.lifespan.cell).IsChain
      (fun s t => s.leadsTo t) := by
  have hhistory : (Round.runAll startedTwice (.new [] none)).history bare.lifespan.cell =
      [.created, .starting, .running, .stopping, .stopped, .starting, .running] := by
    decide +kernel
  rw [hhistory]
  exact ⟨rfl, by decide⟩

end Site

end Waymark
