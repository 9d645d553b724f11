import Waymark.Echo
import Waymark.Proofs.Lifespan.Course
import Waymark.Proofs.Tree.Registered

/-!
# Serving the lifecycle

Of all the lifespans in a tree a dispatch of the lifecycle runs exactly one, the
router's keeper: the first that is among its own nodes, or else the one that
every router has. Routes, mounts and host gates do not match the lifecycle, and
the fallback is not for it (`Node.verdict_of_lifecycle`,
`Hands.kind_ne`), so no endpoint is called and nothing below the outermost nodes
has a say.

The keeper then goes through one handshake. `Router.serves_lifecycle` says what
the dispatch does and what comes of it, for all messages, handlers and channels.
-/

namespace Waymark

/-! ## The keeper -/

def Node.lifespan? : Node → Option Lifespan
  | .lifespan l => some l
  | _ => none

def Router.keeper (r : Router) : Lifespan := (r.nodes.findSome? Node.lifespan?).getD r.lifespan

theorem Node.lifespan?_eq_some_iff {n : Node} {l : Lifespan} :
    n.lifespan? = some l ↔ n = .lifespan l := by
  cases n <;> simp [lifespan?]

theorem Node.verdict_of_lifecycle {s : Scope} (hkind : s.kind = .lifecycle) (n : Node) :
    (n.verdict s).level = if n.lifespan?.isSome then .full else .none := by
  cases n with
  | route q =>
      have hserves : q.serves .lifecycle = false := by
        unfold Route.serves
        cases q.protocol <;> rfl
      simp [verdict, Route.verdict, hkind, hserves, Verdict.level, lifespan?]
  | mount m => simp [verdict, Mount.verdict, hkind, ScopeKind.isRouted, Verdict.level, lifespan?]
  | host g => simp [verdict, HostGate.verdict, hkind, ScopeKind.isRouted, Verdict.level, lifespan?]
  | lifespan l => simp [verdict, Lifespan.verdict, hkind, Verdict.level, lifespan?]

namespace Router

variable {r : Router} {s : Scope}

theorem Hands.kind_ne {trail : List (Node × Scope)} {e : Endpoint} {s' : Scope}
    (h : r.Hands s trail e s') : s.kind ≠ .lifecycle := by
  intro hkind
  rcases h.inv with ⟨n, hpicks, hcallee, _, _⟩ | ⟨_, _, hother, _, _, _⟩
  · have hmatched := hpicks.matched.2
    rw [Verdict.matched, n.verdict_of_lifecycle hkind] at hmatched
    cases n with
    | lifespan l => cases hcallee
    | route q => cases hmatched
    | mount m => cases hmatched
    | host g => cases hmatched
  · exact hother hkind

theorem Calls.kind_ne {trail : List (Node × Scope)} {e : Endpoint} {s' : Scope}
    (h : r.Calls s trail e s') : s.kind ≠ .lifecycle := by
  cases h with
  | here hhands => exact hhands.kind_ne
  | onward hhands _ _ => exact hhands.kind_ne

theorem ends_keeper (hkind : s.kind = .lifecycle) : r.Ends s (.served r.keeper) := by
  cases hfound : r.nodes.findSome? Node.lifespan? with
  | some l =>
      obtain ⟨before, n, after, hnodes, hn, hbefore⟩ := List.findSome?_eq_some_iff.mp hfound
      obtain rfl := Node.lifespan?_eq_some_iff.mp hn
      have hkeeper : r.keeper = l := by rw [keeper, hfound, Option.getD_some]
      rw [hkeeper]
      refine .lifespan (picks_iff.mpr (Or.inl ⟨before, after, hnodes, ?_, ?_⟩))
      · rw [Node.verdict_of_lifecycle hkind]
        rfl
      · intro k hk
        rw [Node.verdict_of_lifecycle hkind, hbefore k hk]
        decide
  | none =>
      have hkeeper : r.keeper = r.lifespan := by rw [keeper, hfound, Option.getD_none]
      rw [hkeeper]
      refine .served ?_ ?_ hkind
      · intro k hk
        rw [Node.verdict_of_lifecycle hkind, List.findSome?_eq_none_iff.mp hfound k hk]
        rfl
      · intro hredirect
        have hrequest := (redirects_iff.mp hredirect).1
        rw [hkind] at hrequest
        cases hrequest

/-- The dispatch takes the course of the keeper's handshake. -/
theorem does_dispatch (hkind : s.kind = .lifecycle) {b : Bindings} {x : Exchange}
    {d : Lifespan.Deeds} {v : Except DispatchError Unit}
    (h : r.keeper.Course b.hook x.room x.inbound d v) :
    Lifespan.Does b.hook r.keeper (r.dispatch b s) d v x := by
  obtain ⟨events, hevents⟩ := (r.ends_keeper hkind).dispatch_eq
  rw [hevents]
  exact Lifespan.Course.serves (x := { x with events := x.events ++ events }) h

/-- The lifecycle is served by the router's keeper, which goes through one handshake.

No endpoint is called on the way. The run takes one of the courses of the keeper: its result is the
one of that course, and but for the log the exchange is as the keeper's deeds leave it. So the
keeper is in the last state that it entered, if it entered any, and no other lifespan has changed
its state. Handlers that the course does not call make no difference. -/
theorem serves_lifecycle (r : Router) (s : Scope) (hkind : s.kind = .lifecycle) :
    (∃ events, ∀ b, r.dispatch b s = (do Action.logAll events; r.keeper.serve b.hook)) ∧
    (∀ trail e t, ¬ r.Calls s trail e t) ∧
    ∀ (b : Bindings) (x : Exchange), ∃ d v, r.keeper.Course b.hook x.room x.inbound d v ∧
      (r.dispatch b s x).1 = v ∧
      (r.dispatch b s x).2.quiet = d.after b.hook r.keeper x ∧
      (r.dispatch b s x).2.stateOf r.keeper.cell =
        d.entered.getLast?.getD (x.stateOf r.keeper.cell) ∧
      (∀ cell, cell ≠ r.keeper.cell → (r.dispatch b s x).2.stateOf cell = x.stateOf cell) ∧
      ∀ b' : Bindings, (∀ c ∈ d.calls, b'.hook c.1 c.2 = b.hook c.1 c.2) →
        (r.dispatch b' s x).1 = v ∧
        (r.dispatch b' s x).2.quiet = (r.dispatch b s x).2.quiet := by
  refine ⟨(r.ends_keeper hkind).dispatch_eq, fun trail e t h => h.kind_ne hkind, ?_⟩
  intro b x
  obtain ⟨d, v, hcourse⟩ := r.keeper.exists_course b.hook x.room x.inbound
  obtain ⟨hresult, hquiet⟩ := does_dispatch hkind hcourse
  refine ⟨d, v, hcourse, hresult, hquiet, Lifespan.Deeds.stateOf_eq hquiet,
    fun _ => Lifespan.Deeds.stateOf_eq_of_ne hquiet, ?_⟩
  intro b' hagree
  obtain ⟨hresult', hquiet'⟩ := does_dispatch hkind (hcourse.congr hagree)
  rw [hquiet, hquiet', Lifespan.Deeds.after_congr hagree]
  exact ⟨hresult', rfl⟩

end Router

namespace Site

def tending : Lifespan := ⟨[⟨[6]⟩], [⟨[7]⟩, ⟨[8]⟩], ⟨[9]⟩⟩

def tended : Router := .ofNodes ⟨[10]⟩ [.mount users, .lifespan tending]

/-- All handlers leave a line in the journal, but for the first one of the stop, which fails. -/
def tendedBindings : Bindings :=
  { Echo.bindings with
    hook := fun h _ => if h = ⟨[7]⟩ then .error ⟨["stuck"]⟩ else .ok ["done"] }

/-- The handler behind the failing one runs, and the stop is reported before the failure. -/
theorem serves_lifecycle_site : ∃ y : Exchange,
    tended.dispatch tendedBindings .lifecycle (.new [.lifecycleStart, .lifecycleStop] none) =
      (.error (.shutdownFailed ["stuck"]), y) ∧
    y.sent = [.lifecycleStartComplete, .lifecycleStopComplete] ∧
    y.journal = ["done", "done"] ∧ y.stateOf tending.cell = .stopped := by
  obtain ⟨_, _, hserves⟩ := Router.serves_lifecycle tended .lifecycle rfl
  obtain ⟨d, v, hcourse, hresult, hquiet, hstate, _⟩ :=
    hserves tendedBindings (.new [.lifecycleStart, .lifecycleStop] none)
  have hkeeper : tended.keeper = tending := rfl
  rw [hkeeper] at hcourse hquiet hstate
  generalize tended.dispatch tendedBindings .lifecycle
    (.new [.lifecycleStart, .lifecycleStop] none) = p at hresult hquiet hstate
  obtain ⟨u, y⟩ := p
  cases hcourse with
  | unopened hm => exact absurd rfl hm
  | unheard _ hroom => cases hroom
  | interrupted _ _ hm => exact absurd rfl hm
  | @failed before after h failure ms hstartup hbefore hfails =>
      have hmem : h ∈ tending.startup := by simp [hstartup]
      obtain rfl := List.mem_singleton.mp hmem
      cases hfails
  | stopped =>
      obtain rfl : u = .error (.shutdownFailed ["stuck"]) := hresult
      exact ⟨y, rfl, congrArg Exchange.sent hquiet, congrArg Exchange.journal hquiet, hstate⟩

end Site

end Waymark
