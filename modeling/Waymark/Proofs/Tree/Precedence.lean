import Waymark.Echo
import Waymark.Proofs.Exchange
import Waymark.Proofs.Tree.Endings
import Waymark.Proofs.Tree.Registered

/-!
# Precedence among nodes

Which node serves a scope is decided by the levels of the verdicts and the order
of the nodes alone, so a node that has no say can be put in anywhere. The choice
is a search over the nodes (`Router.pick?`), and the search passes over a node
that matches nothing and does not come to one behind a full match
(`Router.pick?_insert`).

Two things do change with such a node, and neither is part of an answer. There
may be other warnings in the log, and the router that is noted in the scope for
reverse lookup is another one. So the runs are compared up to the log
(`Action.Agrees`), for bindings that do not look at the router that is noted
(`Bindings.Impartial`). That dispatching does not look at it either is
`Router.dispatch_agrees`, by induction on the way to the end of the dispatch.
-/

namespace Waymark

/-! ## Scopes up to the router that is noted -/

/-- The scope with another router noted for reverse lookup. -/
def Scope.linked (s : Scope) (router : Option Router) : Scope := { s with router := router }

theorem Node.verdict_linked (n : Node) (s : Scope) (router : Option Router) :
    n.verdict (s.linked router) = n.verdict s :=
  n.verdict_noting s router s.bound

theorem Node.callee?_linked (n : Node) (s : Scope) (router : Option Router) :
    n.callee? (s.linked router) = n.callee? s :=
  n.callee?_noting s router s.bound

/-- The bindings of endpoints look neither at the router that is noted in a scope nor at the
log. -/
structure Bindings.Impartial (b : Bindings) : Prop where
  handler : ∀ h s router, b.handler h ⟨s.linked router⟩ = b.handler h ⟨s⟩
  blocking : ∀ h s router, b.blocking h ⟨s.linked router⟩ = b.blocking h ⟨s⟩
  session : ∀ h s router, (b.session h ⟨s.linked router⟩).Agrees (b.session h ⟨s⟩)
  app : ∀ h s router, (b.app h (s.linked router)).Agrees (b.app h s)

namespace Echo

open Waymark.Action

theorem agrees_frames (fuel : Nat) : Agrees (frames fuel) (frames fuel) := by
  induction fuel with
  | zero => exact agrees_pure ()
  | succ fuel ih =>
      refine (agrees_await _ _).bind ?_
      intro frame
      cases frame with
      | none => exact agrees_pure ()
      | some text => exact (agrees_send _).bind fun _ => ih

/-- The echoes are impartial: they answer with parts of the scope that stay. -/
theorem impartial : bindings.Impartial where
  handler _ _ _ := rfl
  blocking _ _ _ := rfl
  session _ s router := by
    have haccept : Agrees Session.accept Session.accept :=
      (agrees_await _ _).bind fun _ => agrees_send _
    refine (haccept.bind fun _ => ?_).mapError Failure.ofChannel
    refine agrees_get ?_
    intro x x' hx
    obtain ⟨hinbound, _⟩ := Exchange.quiet_eq_iff.mp hx
    rw [hinbound]
    exact agrees_frames _
  app _ _ _ := agrees_pure ()

end Echo

/-! ## Dispatching does not look at it -/

theorem Response.agrees_send (r : Response) : Action.Agrees r.send r.send :=
  (Action.agrees_sendAll _).mapError _

theorem Scope.agrees_refuse (s : Scope) : Action.Agrees s.refuse s.refuse := by
  unfold Scope.refuse
  split
  · exact (Action.agrees_send _).mapError _
  · split
    · exact Action.agrees_throw _
    · exact Response.agrees_send _

theorem Route.agrees_refuse (q : Route) (s : Scope) : Action.Agrees (q.refuse s) (q.refuse s) := by
  refine (Action.agrees_log _).bind fun _ => ?_
  cases s.bound with
  | true => exact Action.agrees_throw (DispatchError.methodNotAllowed (s.method.getD "") s.path)
  | false => cases q.methods <;> exact Response.agrees_send _

variable {b : Bindings} {r : Router} {s : Scope}

theorem Endpoint.call_agrees (hb : b.Impartial) {e : Endpoint} {router : Option Router}
    (hinner : ∀ inner, e.target = .router inner →
      (inner.dispatch b (s.linked router)).Agrees (inner.dispatch b s)) :
    (e.call b (s.linked router)).Agrees (e.call b s) := by
  obtain ⟨name, handle, target⟩ := e
  unfold Endpoint.call
  refine (Action.agrees_log _).bind fun _ => ?_
  cases target with
  | handler =>
      unfold Target.run
      rw [hb.handler]
      cases b.handler handle ⟨s⟩ with
      | ok response => exact (Response.agrees_send _).bind fun _ => Action.agrees_log _
      | error failure => exact (Action.agrees_throw _).bind fun _ => Action.agrees_log _
  | blocking =>
      unfold Target.run
      rw [hb.blocking]
      rcases WorkerPool.report b.poolOpen name (b.blocking handle ⟨s⟩) with e | (failure | response)
      · exact (Action.agrees_throw _).bind fun _ => Action.agrees_log _
      · exact (Action.agrees_throw _).bind fun _ => Action.agrees_log _
      · exact (Response.agrees_send _).bind fun _ => Action.agrees_log _
  | session =>
      unfold Target.run
      exact ((hb.session handle s router).mapError _).bind fun _ => Action.agrees_log _
  | app =>
      unfold Target.run
      exact hb.app handle s router
  | router inner =>
      unfold Target.run
      exact hinner inner rfl

namespace Router

theorem picks_linked_iff {n : Node} {router : Option Router} :
    r.Picks (s.linked router) n ↔ r.Picks s n :=
  picks_noting_iff

theorem idle_linked_iff {router : Option Router} : r.Idle (s.linked router) ↔ r.Idle s :=
  idle_noting_iff

theorem redirects_linked_iff {router : Option Router} :
    r.Redirects (r.mark (s.linked router)) ↔ r.Redirects (r.mark s) :=
  redirects_noting_iff

theorem Hands.agrees (hb : b.Impartial) {trail : List (Node × Scope)} {e : Endpoint} {s' : Scope}
    (h : r.Hands s trail e s') (hinner : ∀ inner, e.target = .router inner → ∀ router,
      (inner.dispatch b (s'.linked router)).Agrees (inner.dispatch b s'))
    (router : Option Router) : (r.dispatch b (s.linked router)).Agrees (r.dispatch b s) := by
  have hlinked : ∃ trail', r.Hands (s.linked router) trail' e (s'.linked (router <|> some r)) := by
    rcases h.inv with
      ⟨n, hpicks, hcallee, rfl, rfl⟩ | ⟨hidle, hredirect, hkind, hfallback, rfl, rfl⟩
    · have hcallee' := (n.callee?_linked _ (router <|> some r)).trans hcallee
      have hpicks' : r.Picks (s.linked router) n := picks_linked_iff.mpr hpicks
      have hhands := Hands.of_picks hpicks' (e := e)
      rw [Node.verdict_linked] at hhands
      exact ⟨_, hhands hcallee'⟩
    · have hidle' : r.Idle (s.linked router) := idle_linked_iff.mpr hidle
      exact ⟨[], .fallback (choose?_eq_none_iff.mpr hidle') (mt redirects_linked_iff.mp hredirect)
        hkind hfallback⟩
  obtain ⟨trail', h'⟩ := hlinked
  obtain ⟨events, hevents⟩ := h.dispatch_eq
  obtain ⟨events', hevents'⟩ := h'.dispatch_eq
  rw [hevents, hevents']
  exact (Endpoint.call_agrees hb fun inner ht => hinner inner ht _).logged events' events

theorem Ends.agrees_of_run {r' : Router} {s' : Scope} {x x' : Ending} (h : r.Ends s x)
    (h' : r'.Ends s' x') (hrun : (x'.run b).Agrees (x.run b)) :
    (r'.dispatch b s').Agrees (r.dispatch b s) := by
  obtain ⟨events, hevents⟩ := h.dispatch_eq
  obtain ⟨events', hevents'⟩ := h'.dispatch_eq
  rw [hevents, hevents']
  exact hrun.logged events' events

theorem Ends.agrees (hb : b.Impartial) {x : Ending} (h : r.Ends s x) (router : Option Router) :
    (r.dispatch b (s.linked router)).Agrees (r.dispatch b s) := by
  induction h generalizing router with
  | onward hhands htarget _ ih =>
      refine hhands.agrees hb ?_ router
      intro inner htarget'
      cases htarget.symm.trans htarget'
      exact ih
  | called hhands hleaf =>
      refine hhands.agrees hb ?_ router
      intro inner htarget
      exact absurd htarget (hleaf inner)
  | @refused r s q hpicks hrefuses =>
      have hpicks' : r.Picks (s.linked router) (.route q) := picks_linked_iff.mpr hpicks
      refine agrees_of_run (.refused hpicks hrefuses) (.refused hpicks' hrefuses) ?_
      exact q.agrees_refuse _
  | @lifespan r s l hpicks =>
      have hpicks' : r.Picks (s.linked router) (.lifespan l) := picks_linked_iff.mpr hpicks
      exact agrees_of_run (.lifespan hpicks) (.lifespan hpicks') (l.agrees_serve b.hook)
  | @redirected r s hidle hredirect =>
      have hidle' : r.Idle (s.linked router) := idle_linked_iff.mpr hidle
      have hredirect' : r.Redirects (r.mark (s.linked router)) :=
        redirects_linked_iff.mpr hredirect
      refine agrees_of_run (.redirected hidle hredirect) (.redirected hidle' hredirect') ?_
      exact Response.agrees_send _
  | @served r s hidle hredirect hkind =>
      have hidle' : r.Idle (s.linked router) := idle_linked_iff.mpr hidle
      have hredirect' : ¬ r.Redirects (r.mark (s.linked router)) :=
        mt redirects_linked_iff.mp hredirect
      refine agrees_of_run (.served hidle hredirect hkind) (.served hidle' hredirect' hkind) ?_
      exact r.lifespan.agrees_serve b.hook
  | @unknown r s hidle hredirect hkind hfallback =>
      have hidle' : r.Idle (s.linked router) := idle_linked_iff.mpr hidle
      have hredirect' : ¬ r.Redirects (r.mark (s.linked router)) :=
        mt redirects_linked_iff.mp hredirect
      refine agrees_of_run (.unknown hidle hredirect hkind hfallback)
        (.unknown hidle' hredirect' hkind hfallback) ?_
      exact Scope.agrees_refuse _

/-- Which router is noted makes no difference to a dispatch. -/
theorem dispatch_agrees (hb : b.Impartial) (r : Router) (s : Scope) (router : Option Router) :
    (r.dispatch b (s.linked router)).Agrees (r.dispatch b s) := by
  obtain ⟨x, hends⟩ := r.exists_ends s
  exact hends.agrees hb router

end Router

theorem Node.handle_agrees (hb : b.Impartial) (n : Node) (s : Scope) (router : Option Router) :
    (n.handle b (s.linked router)).Agrees (n.handle b s) := by
  cases hcallee : n.callee? s with
  | some e =>
      have hcallee' := (n.callee?_linked s router).trans hcallee
      rw [Node.handle_of_callee hcallee, Node.handle_of_callee hcallee']
      exact Endpoint.call_agrees hb fun inner _ => inner.dispatch_agrees hb s router
  | none =>
      cases n with
      | route q =>
          simp only [Node.callee?] at hcallee
          split at hcallee
          · rename_i hrefuses
            have hrefuses' : q.refusesMethod (s.linked router) = true := hrefuses
            rw [Node.handle, Node.handle, Route.handle_of_refuses hrefuses,
              Route.handle_of_refuses hrefuses']
            exact q.agrees_refuse s
          · cases hcallee
      | mount m => cases hcallee
      | host g => cases hcallee
      | lifespan l =>
          rw [Node.handle, Node.handle]
          exact l.agrees_serve b.hook

/-! ## The choice as a search over the nodes -/

namespace Router

theorem first_iff_find? {level : Match} {n : Node} : r.First s level n ↔
    r.nodes.find? (fun k => (k.verdict s).level == level) = some n := by
  rw [List.find?_eq_some_iff_append, First]
  constructor
  · rintro ⟨before, after, hnodes, hlevel, hbefore⟩
    refine ⟨beq_iff_eq.mpr hlevel, before, after, hnodes, ?_⟩
    intro k hk
    simpa using hbefore k hk
  · rintro ⟨hlevel, before, after, hnodes, hbefore⟩
    refine ⟨before, after, hnodes, beq_iff_eq.mp hlevel, ?_⟩
    intro k hk
    simpa using hbefore k hk

def pick? (r : Router) (s : Scope) : Option Node :=
  (r.nodes.find? fun k => (k.verdict s).level == .full).or
    (r.nodes.find? fun k => (k.verdict s).level == .partly)

theorem picks_iff_pick? {n : Node} : r.Picks s n ↔ r.pick? s = some n := by
  rw [picks_iff, first_iff_find?, first_iff_find?, pick?, Option.or_eq_some_iff,
    List.find?_eq_none]
  simp only [beq_iff_eq]

theorem idle_iff_pick? : r.Idle s ↔ r.pick? s = none := by
  constructor
  · intro hidle
    cases hpick : r.pick? s with
    | none => rfl
    | some n => exact absurd hidle (picks_iff_pick?.mpr hpick).not_idle
  · intro hpick
    rcases r.exists_picks_or_idle s with ⟨n, hpicks⟩ | hidle
    · rw [picks_iff_pick?, hpick] at hpicks
      cases hpicks
    · exact hidle

/-- A node that is put in behind these nodes has no say about the scope: it matches neither the
path nor the path with the slash at its end toggled, or a node in front of it matches in full. -/
def Moot (front : List Node) (n : Node) (s : Scope) : Prop :=
  ((n.verdict s).level = .none ∧
    (n.verdict (s.withPath (Dispatch.toggled s.path))).level = .none) ∨
  ∃ k ∈ front, (k.verdict s).level = .full

def inserted (r : Router) (front : List Node) (n : Node) (back : List Node) : Router :=
  { r with nodes := front ++ n :: back }

theorem pick?_insert {front back : List Node} {n : Node} (hnodes : r.nodes = front ++ back)
    (hmoot : Moot front n s) : (r.inserted front n back).pick? s = r.pick? s := by
  unfold pick? inserted
  rw [hnodes]
  rcases hmoot with ⟨hnone, _⟩ | ⟨k, hk, hfull⟩
  · have hskip (level : Match) (hlevel : level ≠ .none) :
        (front ++ n :: back).find? (fun k => (k.verdict s).level == level) =
          (front ++ back).find? (fun k => (k.verdict s).level == level) := by
      rw [List.find?_append, List.find?_append, List.find?_cons_of_neg]
      rw [hnone, beq_iff_eq]
      exact Ne.symm hlevel
    dsimp only
    rw [hskip .full (by decide), hskip .partly (by decide)]
  · have hfound : (front.find? fun k => (k.verdict s).level == .full).isSome = true := by
      rw [List.find?_isSome]
      exact ⟨k, hk, beq_iff_eq.mpr hfull⟩
    obtain ⟨m, hm⟩ := Option.isSome_iff_exists.mp hfound
    have hfirst (behind : List Node) :
        (front ++ behind).find? (fun k => (k.verdict s).level == .full) = some m := by
      rw [List.find?_append, hm]
      rfl
    dsimp only
    rw [hfirst, hfirst]
    rfl

theorem redirects_insert {front back : List Node} {n : Node} (hnodes : r.nodes = front ++ back)
    (hidle : r.Idle s) (hmoot : Moot front n s) :
    (r.inserted front n back).Redirects ((r.inserted front n back).mark s) ↔
      r.Redirects (r.mark s) := by
  have htoggled : (n.verdict (s.withPath (Dispatch.toggled s.path))).matched = false := by
    rcases hmoot with ⟨_, hnone⟩ | ⟨k, hk, hfull⟩
    · rw [Verdict.matched, hnone]
      rfl
    · have hmem : k ∈ r.nodes := hnodes ▸ List.mem_append_left back hk
      rw [hidle k hmem] at hfull
      cases hfull
  rw [redirects_iff, redirects_iff, hnodes]
  simp only [inserted, List.mem_append, List.mem_cons]
  constructor
  · rintro ⟨hkind, hredirect, hpath, k, hk, hmatched⟩
    refine ⟨hkind, hredirect, hpath, k, ?_, hmatched⟩
    rcases hk with hk | rfl | hk
    · exact Or.inl hk
    · rw [htoggled] at hmatched
      cases hmatched
    · exact Or.inr hk
  · rintro ⟨hkind, hredirect, hpath, k, hk, hmatched⟩
    exact ⟨hkind, hredirect, hpath, k, hk.imp_right Or.inr, hmatched⟩

/-- A node without a say makes no difference to the dispatch. -/
theorem insert_agrees (hb : b.Impartial) {front back : List Node} {n : Node}
    (hnodes : r.nodes = front ++ back) (hmoot : Moot front n s) :
    ((r.inserted front n back).dispatch b s).Agrees (r.dispatch b s) := by
  have hpick := pick?_insert hnodes hmoot
  have hmark : (r.inserted front n back).mark s =
      (r.mark s).linked (s.router <|> some (r.inserted front n back)) := rfl
  rcases r.exists_picks_or_idle s with ⟨m, hpicks⟩ | hidle
  · have hpicks' : (r.inserted front n back).Picks s m := by
      rw [picks_iff_pick?, hpick, ← picks_iff_pick?]
      exact hpicks
    obtain ⟨events, hevents⟩ := dispatch_of_picks hpicks
    obtain ⟨events', hevents'⟩ := dispatch_of_picks hpicks'
    rw [hevents, hevents', hmark]
    exact (m.handle_agrees hb ((r.mark s).derive (m.verdict s).child) _).logged events' events
  · have hidle' : (r.inserted front n back).Idle s := by
      rw [idle_iff_pick?, hpick, ← idle_iff_pick?]
      exact hidle
    have hredirects := redirects_insert hnodes hidle hmoot
    by_cases hredirect : r.Redirects (r.mark s)
    · obtain ⟨events, hevents⟩ := dispatch_of_redirects hidle hredirect
      obtain ⟨events', hevents'⟩ := dispatch_of_redirects hidle' (hredirects.mpr hredirect)
      rw [hevents, hevents']
      exact (Response.agrees_send _).logged events' events
    · obtain ⟨events, hevents⟩ := dispatch_of_unserved hidle hredirect
      obtain ⟨events', hevents'⟩ :=
        dispatch_of_unserved hidle' fun h => hredirect (hredirects.mp h)
      rw [hevents, hevents', hmark]
      refine Action.Agrees.logged ?_ events' events
      split
      · exact r.lifespan.agrees_serve b.hook
      · refine (Action.agrees_log _).bind fun _ => ?_
        unfold inserted
        cases r.fallback with
        | none => exact Scope.agrees_refuse _
        | some e =>
            exact Endpoint.call_agrees hb fun inner _ => inner.dispatch_agrees hb (r.mark s) _

/-! ## The order of precedence -/

/-- A request for another path than the root is one to redirect if the router does so and a node
matches the path with the slash at its end toggled. -/
def Toggles (r : Router) (s : Scope) : Prop :=
  s.kind = .request ∧ r.redirectSlashes = true ∧ s.path ≠ "/" ∧
    ∃ n ∈ r.nodes, (n.verdict (s.withPath (Dispatch.toggled s.path))).level ≠ .none

theorem redirects_iff_toggles : r.Redirects (r.mark s) ↔ r.Toggles s := by
  rw [redirects_iff, Toggles]
  simp only [Verdict.matched, bne_iff_ne]

/-- What is done with a scope that no node matches and that is not redirected. -/
theorem dispatch_of_idle_of_not_toggles (hidle : r.Idle s) (h : ¬ r.Toggles s) :
    ∃ events, ∀ b, r.dispatch b s = (do
      Action.logAll events
      if s.kind = .lifecycle then r.lifespan.serve b.hook
      else match r.fallback with
        | some e => e.call b (r.mark s)
        | none => (r.mark s).refuse) := by
  obtain ⟨events, hevents⟩ := dispatch_of_unserved hidle (mt redirects_iff_toggles.mp h)
  by_cases hkind : s.kind = .lifecycle
  · refine ⟨events, ?_⟩
    intro b
    rw [hevents, if_pos hkind, if_pos hkind]
  · refine ⟨events ++ [Dispatch.unmatched], ?_⟩
    intro b
    rw [hevents, if_neg hkind, if_neg hkind, ← Action.logAll_logAll]
    rfl

/-- The order in which a router looks for what serves a scope: the first node that matches in
full; then the first that matches in part; then a redirect; and then the lifespan, the fallback or
the refusal. One of these four it is, and before it there is nothing but logging. A node that gets
a scope at whatever depth has matched it, and a node without a say may stand anywhere: the result
and all that is done but the log are those of the router without it. -/
theorem precedence (r : Router) (s : Scope) :
    ((∃ n, r.First s .full n ∧ ∃ events, ∀ b, r.dispatch b s =
        (do Action.logAll events; n.handle b ((r.mark s).derive (n.verdict s).child))) ∨
      ((∀ k ∈ r.nodes, (k.verdict s).level ≠ .full) ∧
        ∃ n, r.First s .partly n ∧ ∃ events, ∀ b, r.dispatch b s =
          (do Action.logAll events; n.handle b ((r.mark s).derive (n.verdict s).child))) ∨
      (r.Idle s ∧ r.Toggles s ∧ ∃ events, ∀ b, r.dispatch b s = (do
        Action.logAll events
        (Response.redirect (s.withPath (Dispatch.toggled s.path)).url).send)) ∨
      (r.Idle s ∧ ¬ r.Toggles s ∧ ∃ events, ∀ b, r.dispatch b s = (do
        Action.logAll events
        if s.kind = .lifecycle then r.lifespan.serve b.hook
        else match r.fallback with
          | some e => e.call b (r.mark s)
          | none => (r.mark s).refuse))) ∧
    (∀ n t, r.Asks s n t → (n.verdict t).level ≠ .none ∧ ∃ events, ∀ b, r.dispatch b s =
      (do Action.logAll events; n.handle b (t.derive (n.verdict t).child))) ∧
    ∀ front n back, r.nodes = front ++ back → Moot front n s → ∀ b : Bindings, b.Impartial →
      ∀ x : Exchange,
      ((r.inserted front n back).dispatch b s x).1 = (r.dispatch b s x).1 ∧
      ((r.inserted front n back).dispatch b s x).2.sent = (r.dispatch b s x).2.sent ∧
      ((r.inserted front n back).dispatch b s x).2.quiet = (r.dispatch b s x).2.quiet := by
  refine ⟨?_, ?_, ?_⟩
  · rcases r.exists_picks_or_idle s with ⟨n, hpicks⟩ | hidle
    · rcases picks_iff.mp hpicks with hfull | ⟨hnone, hpartly⟩
      · exact Or.inl ⟨n, hfull, dispatch_of_picks hpicks⟩
      · exact Or.inr (Or.inl ⟨hnone, n, hpartly, dispatch_of_picks hpicks⟩)
    · by_cases htoggles : r.Toggles s
      · have hdispatch := dispatch_of_redirects hidle (redirects_iff_toggles.mpr htoggles)
        exact Or.inr (Or.inr (Or.inl ⟨hidle, htoggles, hdispatch⟩))
      · have hdispatch := dispatch_of_idle_of_not_toggles hidle htoggles
        exact Or.inr (Or.inr (Or.inr ⟨hidle, htoggles, hdispatch⟩))
  · intro n t hasks
    have hmatched := hasks.matched
    rw [Verdict.matched, bne_iff_ne] at hmatched
    exact ⟨hmatched, hasks.dispatch_eq⟩
  · intro front n back hnodes hmoot b hb x
    obtain ⟨hresult, hquiet⟩ := insert_agrees hb hnodes hmoot x x rfl
    exact ⟨hresult, (Exchange.quiet_eq_iff.mp hquiet).2.1, hquiet⟩

end Router

namespace Site

/-- A lifespan in front of the post has no say about a request for it. -/
theorem precedence_site :
    ((posts.inserted [] (.lifespan (.empty ⟨[6]⟩)) [.route post]).dispatch Echo.bindings
      (.request "GET" "/posts/a") (.new [] none)).2.sent =
    (posts.dispatch Echo.bindings (.request "GET" "/posts/a") (.new [] none)).2.sent := by
  have hmoot : Router.Moot [] (.lifespan (.empty ⟨[6]⟩)) (.request "GET" "/posts/a") :=
    Or.inl ⟨by decide, by decide⟩
  exact ((Router.precedence posts (.request "GET" "/posts/a")).2.2 [] _ [.route post] rfl hmoot
    Echo.bindings Echo.impartial (.new [] none)).2.1

end Site

end Waymark
