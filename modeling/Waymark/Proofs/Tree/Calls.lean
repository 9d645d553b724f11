import Waymark.Tree.Dispatch

/-!
# The calls that dispatching makes

Dispatching ends in one of few ways: a node that matches hands the scope that
it derives to an endpoint, the fallback gets the scope as it is, or nobody
gets it. Where the endpoint is a router again, dispatching starts over. The
relation `Router.Calls` follows this without running anything: it lists every
endpoint that is called, with the scope it gets and the *trail*, the nodes that
matched on the way, each with the scope that it judged.

The relation and the program say the same. A call in the relation is made by
the program, and nothing else is done before or after it but logging
(`Calls.dispatch_eq`). And a program that dispatches can tell two bindings
apart only by a call in the relation (`dispatch_congr`), so there are no other
calls.
-/

namespace Waymark

namespace Action

theorem logAll_logAll (events more : List Log.Event) (k : Action ε α) :
    (do logAll events; logAll more; k) = (do logAll (events ++ more); k) := by
  funext x
  change k { x with events := x.events ++ events ++ more } =
    k { x with events := x.events ++ (events ++ more) }
  rw [List.append_assoc]

end Action

/-! ## Choosing -/

namespace Dispatch

theorem firstOf_eq_some {level : Match} {vs : List Verdict} {c : Choice}
    (h : firstOf level vs = some c) : vs[c.index]? = some c.verdict ∧ c.verdict.level = level := by
  obtain ⟨⟨v, i⟩, hfind, rfl⟩ := Option.map_eq_some_iff.mp h
  have hlevel := List.find?_some hfind
  exact ⟨List.mem_zipIdx_iff_getElem?.mp (List.mem_of_find?_eq_some hfind), eq_of_beq hlevel⟩

theorem choose?_eq_some {vs : List Verdict} {c : Choice} (h : choose? vs = some c) :
    vs[c.index]? = some c.verdict ∧ c.verdict.matched = true := by
  rw [choose?] at h
  cases hfull : firstOf .full vs with
  | some d =>
      rw [hfull] at h
      cases h
      obtain ⟨hget, hlevel⟩ := firstOf_eq_some hfull
      exact ⟨hget, by rw [Verdict.matched, hlevel]; rfl⟩
  | none =>
      rw [hfull] at h
      obtain ⟨hget, hlevel⟩ := firstOf_eq_some h
      exact ⟨hget, by rw [Verdict.matched, hlevel]; rfl⟩

end Dispatch

theorem Router.chosen {nodes : List Node} {s : Scope} {c : Dispatch.Choice}
    (h : Dispatch.choose? (nodes.map (·.verdict s)) = some c) :
    ∃ n, nodes[c.index]? = some n ∧ c.verdict = n.verdict s ∧ (n.verdict s).matched = true := by
  obtain ⟨hget, hmatched⟩ := Dispatch.choose?_eq_some h
  rw [List.getElem?_map] at hget
  obtain ⟨n, hn, hv⟩ := Option.map_eq_some_iff.mp hget
  exact ⟨n, hn, hv.symm, hv ▸ hmatched⟩

/-! ## What a router does with a scope -/

/-- The endpoint that a node hands a scope to; a route that refuses the method hands it to none,
and a lifespan serves it alone. -/
def Node.callee? : Node → Scope → Option Endpoint
  | .route r, s => if r.refusesMethod s then none else some r.endpoint
  | .mount m, _ => some m.target
  | .host h, _ => some h.target
  | .lifespan _, _ => none

namespace Router

/-- The scope as the nodes of a router see it: reverse lookup starts from the outermost router
that it came through. -/
def mark (r : Router) (s : Scope) : Scope := { s with router := s.router <|> some r }

/-- A request is redirected if a node matches it with the slash at its end toggled. -/
def Redirects (r : Router) (s : Scope) : Prop :=
  ∃ c, Dispatch.candidate? r.redirectSlashes s = some c ∧ ∃ n ∈ r.nodes, (n.verdict c).matched

/-- The router hands a scope to an endpoint, by the node in the trail or as a fallback. -/
inductive Hands (r : Router) (s : Scope) : List (Node × Scope) → Endpoint → Scope → Prop
  | node {c : Dispatch.Choice} {n : Node} {e : Endpoint}
      (hchoice : Dispatch.choose? (r.nodes.map (·.verdict (r.mark s))) = some c)
      (hnode : r.nodes[c.index]? = some n)
      (hcallee : n.callee? ((r.mark s).derive (n.verdict (r.mark s)).child) = some e) :
      Hands r s [(n, r.mark s)] e ((r.mark s).derive (n.verdict (r.mark s)).child)
  | fallback {e : Endpoint}
      (hchoice : Dispatch.choose? (r.nodes.map (·.verdict (r.mark s))) = none)
      (hredirect : ¬ r.Redirects (r.mark s)) (hkind : s.kind ≠ .lifecycle)
      (hfallback : r.fallback = some e) :
      Hands r s [] e (r.mark s)

/-- Dispatching a scope on a router calls an endpoint with a scope, by the nodes of the trail. -/
inductive Calls : Router → Scope → List (Node × Scope) → Endpoint → Scope → Prop
  | here {r : Router} {s : Scope} {trail : List (Node × Scope)} {e : Endpoint} {s' : Scope}
      (hhands : r.Hands s trail e s') : Calls r s trail e s'
  | onward {r : Router} {s : Scope} {trail : List (Node × Scope)} {e : Endpoint} {s' : Scope}
      {inner : Router} {later : List (Node × Scope)} {e' : Endpoint} {s'' : Scope}
      (hhands : r.Hands s trail e s') (htarget : e.target = .router inner)
      (hcalls : Calls inner s' later e' s'') : Calls r s (trail ++ later) e' s''

end Router

/-! ## The program makes the calls of the relation -/

theorem Node.handleAt_eq (b : Bindings) {nodes : List Node} {i : Nat} {n : Node}
    (h : nodes[i]? = some n) (s : Scope) : Node.handleAt b nodes i s = n.handle b s := by
  induction nodes generalizing i with
  | nil => cases h
  | cons m ns ih =>
      cases i with
      | zero =>
          cases h
          rw [Node.handleAt]
      | succ i =>
          rw [Node.handleAt]
          exact ih h

theorem Node.handle_of_callee {n : Node} {s : Scope} {e : Endpoint} (h : n.callee? s = some e)
    (b : Bindings) : n.handle b s = e.call b s := by
  cases n with
  | route r =>
      obtain ⟨template, endpoint, name, methods, protocol, listed⟩ := r
      simp only [Node.callee?] at h
      rw [Node.handle, Route.handle]
      split at h
      case isTrue => cases h
      rename_i hno
      cases h
      rw [if_neg hno]
  | mount m =>
      obtain ⟨path, template, target, name⟩ := m
      cases h
      rw [Node.handle, Mount.handle]
  | host g =>
      obtain ⟨template, target, name⟩ := g
      cases h
      rw [Node.handle, HostGate.handle]
  | lifespan l => cases h

theorem Node.handle_of_no_callee {n : Node} {s : Scope} (h : n.callee? s = none)
    {b b' : Bindings} (hhook : b.hook = b'.hook) : n.handle b s = n.handle b' s := by
  cases n with
  | route r =>
      obtain ⟨template, endpoint, name, methods, protocol, listed⟩ := r
      simp only [Node.callee?] at h
      rw [Node.handle, Node.handle, Route.handle, Route.handle]
      split at h
      case isFalse => cases h
      rename_i hrefuses
      rw [if_pos hrefuses, if_pos hrefuses]
  | mount m => cases h
  | host g => cases h
  | lifespan l => rw [Node.handle, Node.handle, hhook]

namespace Router

/-- What is done with a scope that no node matches. -/
def unserved (b : Bindings) (r : Router) (s : Scope) : Action DispatchError Unit := do
  let candidate := Dispatch.candidate? r.redirectSlashes s
  let others := match candidate with
    | some c => r.nodes.map (·.verdict c)
    | none => []
  Action.logAll (Dispatch.warnings (·.matched) others)
  match candidate, others.any (·.matched) with
  | some c, true =>
    Action.log Dispatch.redirecting
    (Response.redirect c.url).send
  | _, _ =>
    if s.kind = .lifecycle then r.lifespan.serve b.hook
    else
      Action.log Dispatch.unmatched
      match r.fallback with
      | some e => e.call b s
      | none => s.refuse

theorem dispatch_eq (b : Bindings) (r : Router) (s : Scope) :
    r.dispatch b s = (do
      Action.log Dispatch.attempt
      Action.logAll (Dispatch.warnings (·.level == .full) (r.nodes.map (·.verdict (r.mark s))))
      match Dispatch.choose? (r.nodes.map (·.verdict (r.mark s))) with
      | some c =>
        Action.log (if c.verdict.level = .full then Dispatch.matched else Dispatch.fallBack)
        Node.handleAt b r.nodes c.index ((r.mark s).derive c.verdict.child)
      | none => r.unserved b (r.mark s)) := by
  rw [Router.dispatch.eq_def]
  cases r
  rfl

theorem unserved_of_redirects {r : Router} {s : Scope} (h : r.Redirects s) (b b' : Bindings) :
    r.unserved b s = r.unserved b' s := by
  obtain ⟨c, hc, n, hn, hmatched⟩ := h
  have hany : (r.nodes.map (·.verdict c)).any (·.matched) = true := by
    rw [List.any_map, List.any_eq_true]
    exact ⟨n, hn, hmatched⟩
  simp only [unserved, hc, hany]

/-- What is logged while the nodes judge the path with the slash at its end toggled. -/
def retried (r : Router) (s : Scope) : List Log.Event :=
  match Dispatch.candidate? r.redirectSlashes s with
  | some c => Dispatch.warnings (·.matched) (r.nodes.map (·.verdict c))
  | none => []

theorem unserved_eq {r : Router} {s : Scope} (h : ¬ r.Redirects s) (b : Bindings) :
    r.unserved b s = (do
      Action.logAll (r.retried s)
      if s.kind = .lifecycle then r.lifespan.serve b.hook
      else
        Action.log Dispatch.unmatched
        match r.fallback with
        | some e => e.call b s
        | none => s.refuse) := by
  cases hc : Dispatch.candidate? r.redirectSlashes s with
  | none =>
      simp only [unserved, retried, hc]
      rfl
  | some c =>
      have hany : (r.nodes.map (·.verdict c)).any (·.matched) = false := by
        rw [List.any_map, List.any_eq_false]
        intro n hn hmatched
        exact h ⟨c, hc, n, hn, hmatched⟩
      simp only [unserved, retried, hc, hany]

/-- What a router hands to an endpoint, it hands it as the last thing it does. -/
theorem Hands.dispatch_eq {r : Router} {s : Scope} {trail : List (Node × Scope)} {e : Endpoint}
    {s' : Scope} (h : r.Hands s trail e s') :
    ∃ events, ∀ b, r.dispatch b s = (do Action.logAll events; e.call b s') := by
  cases h with
  | @node c n _ hchoice hnode hcallee =>
      obtain ⟨m, hm, hverdict, _⟩ := chosen hchoice
      obtain rfl : n = m := Option.some.inj (hnode.symm.trans hm)
      refine ⟨[Dispatch.attempt] ++
        Dispatch.warnings (·.level == .full) (r.nodes.map (·.verdict (r.mark s))) ++
        [if c.verdict.level = .full then Dispatch.matched else Dispatch.fallBack], fun b => ?_⟩
      rw [Router.dispatch_eq, hchoice, ← Action.logAll_logAll, ← Action.logAll_logAll]
      simp only [Node.handleAt_eq b hnode, hverdict, Node.handle_of_callee hcallee, Action.log]
  | fallback hchoice hredirect hkind hfallback =>
      refine ⟨[Dispatch.attempt] ++
        Dispatch.warnings (·.level == .full) (r.nodes.map (·.verdict (r.mark s))) ++
        r.retried (r.mark s) ++ [Dispatch.unmatched], fun b => ?_⟩
      have hkind' : ¬ (r.mark s).kind = .lifecycle := hkind
      rw [Router.dispatch_eq, hchoice, ← Action.logAll_logAll, ← Action.logAll_logAll,
        ← Action.logAll_logAll]
      simp only [unserved_eq hredirect, if_neg hkind', hfallback, Action.log]

end Router

theorem Endpoint.call_router {e : Endpoint} {inner : Router} (h : e.target = .router inner)
    (b : Bindings) (s : Scope) :
    e.call b s = (do Action.log Dispatch.started; inner.dispatch b s) := by
  obtain ⟨name, handle, target⟩ := e
  cases h
  rw [Endpoint.call, Target.run]

namespace Router

/-- What the dispatch of the next router comes to, the dispatch comes to. -/
theorem Hands.dispatch_onward {r : Router} {s : Scope} {trail : List (Node × Scope)}
    {e : Endpoint} {s' : Scope} {inner : Router} (h : r.Hands s trail e s')
    (htarget : e.target = .router inner) {last : Bindings → Action DispatchError Unit}
    (hinner : ∃ events, ∀ b, inner.dispatch b s' = (do Action.logAll events; last b)) :
    ∃ events, ∀ b, r.dispatch b s = (do Action.logAll events; last b) := by
  obtain ⟨events, hevents⟩ := h.dispatch_eq
  obtain ⟨later, hlater⟩ := hinner
  refine ⟨events ++ [Dispatch.started] ++ later, fun b => ?_⟩
  rw [hevents, Endpoint.call_router htarget, hlater, Action.log, ← Action.logAll_logAll,
    ← Action.logAll_logAll]

/-- A call in the relation is made: nothing but logging comes before it, and nothing after. -/
theorem Calls.dispatch_eq {r : Router} {s : Scope} {trail : List (Node × Scope)} {e : Endpoint}
    {s' : Scope} (h : r.Calls s trail e s') :
    ∃ events, ∀ b, r.dispatch b s = (do Action.logAll events; e.call b s') := by
  induction h with
  | here hhands => exact hhands.dispatch_eq
  | onward hhands htarget _ ih => exact hhands.dispatch_onward htarget ih

end Router

/-! ## There are no other calls -/

/-- Two bindings do the same when the endpoint is called with the scope. -/
def Bindings.AgreeAt (b b' : Bindings) (e : Endpoint) (s : Scope) : Prop :=
  match e.target with
  | .handler => b.handler e.handle ⟨s⟩ = b'.handler e.handle ⟨s⟩
  | .blocking => b.blocking e.handle ⟨s⟩ = b'.blocking e.handle ⟨s⟩
  | .session => b.session e.handle ⟨s⟩ = b'.session e.handle ⟨s⟩
  | .app => b.app e.handle s = b'.app e.handle s
  | .router _ => True

theorem Endpoint.call_congr {b b' : Bindings} (hpool : b.poolOpen = b'.poolOpen) {e : Endpoint}
    {s : Scope} (hagree : b.AgreeAt b' e s)
    (hinner : ∀ inner, e.target = .router inner → inner.dispatch b s = inner.dispatch b' s) :
    e.call b s = e.call b' s := by
  obtain ⟨name, handle, target⟩ := e
  cases target with
  | router inner =>
      rw [Endpoint.call_router rfl, Endpoint.call_router rfl, hinner inner rfl]
  | handler =>
      have heq : b.handler handle ⟨s⟩ = b'.handler handle ⟨s⟩ := hagree
      rw [Endpoint.call, Endpoint.call, Target.run, Target.run, heq]
  | blocking =>
      have heq : b.blocking handle ⟨s⟩ = b'.blocking handle ⟨s⟩ := hagree
      rw [Endpoint.call, Endpoint.call, Target.run, Target.run, heq, hpool]
  | session =>
      have heq : b.session handle ⟨s⟩ = b'.session handle ⟨s⟩ := hagree
      rw [Endpoint.call, Endpoint.call, Target.run, Target.run, heq]
  | app =>
      have heq : b.app handle s = b'.app handle s := hagree
      rw [Endpoint.call, Endpoint.call, Target.run, Target.run, heq]

theorem Node.sizeOf_callee {n : Node} {s : Scope} {e : Endpoint} (h : n.callee? s = some e) :
    sizeOf e < sizeOf n := by
  cases n with
  | route r =>
      obtain ⟨template, endpoint, name, methods, protocol, listed⟩ := r
      simp only [Node.callee?] at h
      split at h
      case isTrue => cases h
      cases h
      simp
      omega
  | mount m =>
      obtain ⟨path, template, target, name⟩ := m
      cases h
      simp
      omega
  | host g =>
      obtain ⟨template, target, name⟩ := g
      cases h
      simp
      omega
  | lifespan l => cases h

namespace Router

/-- A router that is called is a part of the one that calls it. -/
theorem Hands.sizeOf_lt {r : Router} {s : Scope} {trail : List (Node × Scope)} {e : Endpoint}
    {s' : Scope} (h : r.Hands s trail e s') {inner : Router} (htarget : e.target = .router inner) :
    sizeOf inner < sizeOf r := by
  have hinner : sizeOf inner < sizeOf e := by
    obtain ⟨name, handle, target⟩ := e
    cases htarget
    simp
    omega
  obtain ⟨nodes, redirects, fallback, lifespan⟩ := r
  cases h with
  | @node c n _ hchoice hnode hcallee =>
      have hn := List.sizeOf_lt_of_mem (List.mem_of_getElem? hnode)
      have he := Node.sizeOf_callee hcallee
      simp only [Router.mk.sizeOf_spec]
      dsimp only at hn
      omega
  | fallback _ _ _ hfallback =>
      dsimp only at hfallback
      subst hfallback
      simp
      omega

/-- Bindings that agree on the calls of the relation are not told apart by dispatching: every
endpoint that is called, and the scope it is called with, is in the relation. -/
theorem dispatch_congr {b b' : Bindings} (hhook : b.hook = b'.hook)
    (hpool : b.poolOpen = b'.poolOpen) (r : Router) (s : Scope)
    (hagree : ∀ trail e s', r.Calls s trail e s' → b.AgreeAt b' e s') :
    r.dispatch b s = r.dispatch b' s := by
  have hcall {trail e s'} (hhands : r.Hands s trail e s') : e.call b s' = e.call b' s' := by
    refine Endpoint.call_congr hpool (hagree _ _ _ (.here hhands)) fun inner htarget => ?_
    have := hhands.sizeOf_lt htarget
    exact dispatch_congr hhook hpool inner s' fun _ _ _ hinner =>
      hagree _ _ _ (.onward hhands htarget hinner)
  rw [Router.dispatch_eq, Router.dispatch_eq]
  cases hchoice : Dispatch.choose? (r.nodes.map (·.verdict (r.mark s))) with
  | some c =>
      obtain ⟨n, hnode, hverdict, _⟩ := chosen hchoice
      simp only [Node.handleAt_eq _ hnode, hverdict]
      cases hcallee : n.callee? ((r.mark s).derive (n.verdict (r.mark s)).child) with
      | some e =>
          rw [Node.handle_of_callee hcallee, Node.handle_of_callee hcallee,
            hcall (.node hchoice hnode hcallee)]
      | none => rw [Node.handle_of_no_callee hcallee hhook]
  | none =>
      by_cases hredirect : r.Redirects (r.mark s)
      · simp only [unserved_of_redirects hredirect b b']
      · simp only [unserved_eq hredirect, hhook]
        by_cases hkind : s.kind = .lifecycle
        · have hkind' : (r.mark s).kind = .lifecycle := hkind
          simp only [if_pos hkind']
        · have hkind' : ¬ (r.mark s).kind = .lifecycle := hkind
          simp only [if_neg hkind']
          cases hfallback : r.fallback with
          | none => rfl
          | some e => simp only [hcall (.fallback hchoice hredirect hkind hfallback)]
  termination_by sizeOf r

end Router

end Waymark
