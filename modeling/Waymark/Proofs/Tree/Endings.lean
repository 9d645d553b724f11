import Mathlib.Data.Option.Basic
import Waymark.Proofs.Tree.Calls

/-!
# How a dispatch ends

`Calls` follows a scope to the endpoints that are called. A dispatch may also
end without one: a route refuses the method, a router redirects, a lifespan
runs, or nothing serves the scope. `Router.Ends` follows a scope to whichever
of these it is. Every dispatch ends in one of them (`exists_ends`), and does
nothing else but logging on the way there (`Ends.dispatch_eq`).

The step is one router. `Picks` names the node that gets the scope, and
`picks_iff` says which one that is without the search: the first full match,
and the first partial one where no node matches in full. What the router does
then, `dispatch_of_picks`, `dispatch_of_redirects` and `dispatch_of_unserved`
say for the three cases. What is known at an end, that the endpoint is one of
the tree's and that a route refuses, goes back along the way to it
(`Ends.keeps`, `Ends.calls`, `Ends.refuses`).
-/

namespace Waymark

/-! ## The first node of a level -/

namespace Dispatch

theorem firstOf_cons (level : Match) (v : Verdict) (vs : List Verdict) :
    firstOf level (v :: vs) = if v.level = level then some ⟨0, v⟩
      else (firstOf level vs).map fun c => ⟨c.index + 1, c.verdict⟩ := by
  rw [firstOf, List.zipIdx_cons, List.find?_cons]
  by_cases h : v.level = level
  · simp [h]
  · have hne : (v.level == level) = false := by simpa using h
    simp only [hne, if_neg h, List.zipIdx_succ, List.find?_map, Option.map_map, firstOf]
    rfl

theorem firstOf_eq_some_iff {level : Match} {vs : List Verdict} {c : Choice} :
    firstOf level vs = some c ↔ ∃ before after, vs = before ++ c.verdict :: after ∧
      c.index = before.length ∧ c.verdict.level = level ∧ ∀ v ∈ before, v.level ≠ level := by
  induction vs generalizing c with
  | nil => simp [firstOf]
  | cons v vs ih =>
      rw [firstOf_cons]
      split
      · rename_i hv
        constructor
        · intro h
          cases h
          exact ⟨[], vs, rfl, rfl, hv, by simp⟩
        · rintro ⟨before, after, heq, hindex, hlevel, hbefore⟩
          cases before with
          | nil =>
              obtain ⟨rfl, rfl⟩ := List.cons.inj heq
              obtain ⟨i, w⟩ := c
              cases hindex
              rfl
          | cons b before =>
              obtain ⟨rfl, _⟩ := List.cons.inj heq
              exact absurd hv (hbefore v (List.mem_cons_self ..))
      · rename_i hv
        rw [Option.map_eq_some_iff]
        constructor
        · rintro ⟨d, hd, rfl⟩
          obtain ⟨before, after, rfl, hindex, hlevel, hbefore⟩ := ih.mp hd
          exact ⟨v :: before, after, rfl, by simp [hindex], hlevel,
            List.forall_mem_cons.mpr ⟨hv, hbefore⟩⟩
        · rintro ⟨before, after, heq, hindex, hlevel, hbefore⟩
          cases before with
          | nil =>
              obtain ⟨rfl, _⟩ := List.cons.inj heq
              exact absurd hlevel hv
          | cons b before =>
              obtain ⟨rfl, rfl⟩ := List.cons.inj heq
              have hd : firstOf level (before ++ c.verdict :: after) =
                  some ⟨before.length, c.verdict⟩ :=
                ih.mpr ⟨before, after, rfl, rfl, hlevel, (List.forall_mem_cons.mp hbefore).2⟩
              refine ⟨_, hd, ?_⟩
              obtain ⟨i, w⟩ := c
              rw [Choice.mk.injEq]
              exact ⟨hindex.symm, rfl⟩

theorem firstOf_eq_none_iff {level : Match} {vs : List Verdict} :
    firstOf level vs = none ↔ ∀ v ∈ vs, v.level ≠ level := by
  induction vs with
  | nil => simp [firstOf]
  | cons v vs ih =>
      rw [firstOf_cons, List.forall_mem_cons]
      split
      · rename_i hv
        exact iff_of_false nofun fun h => h.1 hv
      · rename_i hv
        rw [Option.map_eq_none_iff, ih]
        exact (and_iff_right hv).symm

end Dispatch

namespace Router

def First (r : Router) (s : Scope) (level : Match) (n : Node) : Prop :=
  ∃ before after, r.nodes = before ++ n :: after ∧ (n.verdict s).level = level ∧
    ∀ k ∈ before, (k.verdict s).level ≠ level

/-- The router hands the scope to the node. -/
def Picks (r : Router) (s : Scope) (n : Node) : Prop :=
  ∃ c, Dispatch.choose? (r.nodes.map (·.verdict (r.mark s))) = some c ∧
    r.nodes[c.index]? = some n

end Router

/-- The scope with other notes: the router for reverse lookup, and whether an application around
the router turns its refusals into answers. -/
def Scope.noting (s : Scope) (router : Option Router) (bound : Bool) : Scope :=
  { s with router := router, bound := bound }

/-- What a node makes of a scope does not hang on the notes. -/
theorem Node.verdict_noting (n : Node) (s : Scope) (router : Option Router) (bound : Bool) :
    n.verdict (s.noting router bound) = n.verdict s := by
  cases n <;> rfl

theorem Node.callee?_noting (n : Node) (s : Scope) (router : Option Router) (bound : Bool) :
    n.callee? (s.noting router bound) = n.callee? s := by
  cases n <;> rfl

@[simp] theorem Node.verdict_mark (n : Node) (r : Router) (s : Scope) :
    n.verdict (r.mark s) = n.verdict s :=
  n.verdict_noting s (s.router <|> some r) s.bound

namespace Router

variable {r : Router} {s : Scope} {n : Node}

/-- The first node of a level is where the search for that level ends. -/
theorem first_iff {level : Match} : r.First s level n ↔
    ∃ c, Dispatch.firstOf level (r.nodes.map (·.verdict s)) = some c ∧
      r.nodes[c.index]? = some n := by
  constructor
  · rintro ⟨before, after, heq, hlevel, hbefore⟩
    refine ⟨⟨before.length, n.verdict s⟩, Dispatch.firstOf_eq_some_iff.mpr ?_, by simp [heq]⟩
    refine ⟨before.map (·.verdict s), after.map (·.verdict s), by simp [heq], by simp, hlevel, ?_⟩
    exact List.forall_mem_map.mpr hbefore
  · rintro ⟨c, hc, hn⟩
    obtain ⟨before, after, heq, hindex, hlevel, hbefore⟩ := Dispatch.firstOf_eq_some_iff.mp hc
    obtain ⟨front, rest, hnodes, rfl, hrest⟩ := List.map_eq_append_iff.mp heq
    obtain ⟨m, back, rfl, hm, rfl⟩ := List.map_eq_cons_iff.mp hrest
    have hmn : m = n := by simpa [hnodes, hindex] using hn
    subst hmn
    refine ⟨front, back, hnodes, hm ▸ hlevel, fun k hk => ?_⟩
    exact hbefore _ (List.mem_map_of_mem hk)

/-- A node gets the scope if it is the first full match, or the first partial match where no
node matches in full. -/
theorem picks_iff : r.Picks s n ↔ r.First s .full n ∨
    (∀ k ∈ r.nodes, (k.verdict s).level ≠ .full) ∧ r.First s .partly n := by
  simp only [Picks, Node.verdict_mark, Dispatch.choose?, first_iff]
  cases hfull : Dispatch.firstOf .full (r.nodes.map (·.verdict s)) with
  | some d =>
      have hsome : ¬ ∀ k ∈ r.nodes, (k.verdict s).level ≠ .full := by
        rw [← List.forall_mem_map (P := (Verdict.level · ≠ .full)),
          ← Dispatch.firstOf_eq_none_iff, hfull]
        exact Option.some_ne_none d
      exact ⟨Or.inl, fun h => h.elim id fun hpartly => absurd hpartly.1 hsome⟩
  | none =>
      have hnone : ∀ k ∈ r.nodes, (k.verdict s).level ≠ .full := by
        rw [← List.forall_mem_map (P := (Verdict.level · ≠ .full)),
          ← Dispatch.firstOf_eq_none_iff]
        exact hfull
      constructor
      · intro h
        exact Or.inr ⟨hnone, h⟩
      · rintro (⟨c, hc, _⟩ | ⟨_, h⟩)
        · cases hc
        · exact h

def Idle (r : Router) (s : Scope) : Prop := ∀ k ∈ r.nodes, (k.verdict s).level = .none

theorem choose?_eq_none_iff :
    Dispatch.choose? (r.nodes.map (·.verdict (r.mark s))) = none ↔ r.Idle s := by
  simp only [Node.verdict_mark, Dispatch.choose?, Option.orElse_eq_none]
  rw [Dispatch.firstOf_eq_none_iff, Dispatch.firstOf_eq_none_iff, List.forall_mem_map,
    List.forall_mem_map]
  constructor
  · rintro ⟨hfull, hpartly⟩ k hk
    cases hlevel : (k.verdict s).level with
    | none => rfl
    | partly => exact absurd hlevel (hpartly k hk)
    | full => exact absurd hlevel (hfull k hk)
  · intro h
    constructor <;> intro k hk <;> rw [h k hk] <;> decide

theorem exists_picks_or_idle (r : Router) (s : Scope) : (∃ n, r.Picks s n) ∨ r.Idle s := by
  rw [← choose?_eq_none_iff]
  cases hchoice : Dispatch.choose? (r.nodes.map (·.verdict (r.mark s))) with
  | none => exact Or.inr rfl
  | some c =>
      obtain ⟨n, hn, _⟩ := chosen hchoice
      exact Or.inl ⟨n, c, hchoice, hn⟩

theorem Picks.matched (h : r.Picks s n) : n ∈ r.nodes ∧ (n.verdict s).matched = true := by
  obtain ⟨c, hchoice, hn⟩ := h
  obtain ⟨k, hk, _, hmatched⟩ := chosen hchoice
  obtain rfl := Option.some.inj (hn.symm.trans hk)
  exact ⟨List.mem_of_getElem? hn, Node.verdict_mark n r s ▸ hmatched⟩

theorem Picks.not_idle (h : r.Picks s n) : ¬ r.Idle s := by
  intro hidle
  obtain ⟨hmem, hmatched⟩ := h.matched
  rw [Verdict.matched, hidle n hmem] at hmatched
  cases hmatched

/-! ## What one router does -/

/-- A scope is redirected if it is a request for a path other than the root, the router
redirects, and one of its nodes matches the path with the slash at its end toggled. -/
theorem redirects_iff : r.Redirects (r.mark s) ↔ s.kind = .request ∧ r.redirectSlashes = true ∧
    s.path ≠ "/" ∧ ∃ n ∈ r.nodes,
      (n.verdict (s.withPath (Dispatch.toggled s.path))).matched = true := by
  have hmark : (r.mark s).withPath (Dispatch.toggled s.path) =
      r.mark (s.withPath (Dispatch.toggled s.path)) := rfl
  constructor
  · rintro ⟨c, hc, n, hn, hmatched⟩
    rw [Dispatch.candidate?] at hc
    split at hc
    case isFalse => cases hc
    rename_i hconditions
    obtain ⟨hkind, hredirect, hpath⟩ := hconditions
    obtain rfl := Option.some.inj hc
    refine ⟨hkind, hredirect, hpath, n, hn, ?_⟩
    rw [← Node.verdict_mark n r, ← hmark]
    exact hmatched
  · rintro ⟨hkind, hredirect, hpath, n, hn, hmatched⟩
    refine ⟨(r.mark s).withPath (Dispatch.toggled s.path), ?_, n, hn, ?_⟩
    · exact if_pos ⟨hkind, hredirect, hpath⟩
    · rw [hmark, Node.verdict_mark]
      exact hmatched

section Notes

variable {router : Option Router} {bound : Bool}

theorem picks_noting_iff : r.Picks (s.noting router bound) n ↔ r.Picks s n := by
  simp only [picks_iff, First, Node.verdict_noting]

theorem idle_noting_iff : r.Idle (s.noting router bound) ↔ r.Idle s := by
  simp only [Idle, Node.verdict_noting]

theorem redirects_noting_iff :
    r.Redirects (r.mark (s.noting router bound)) ↔ r.Redirects (r.mark s) := by
  have hverdict (n : Node) (path : String) :
      n.verdict ((s.noting router bound).withPath path) = n.verdict (s.withPath path) :=
    n.verdict_noting (s.withPath path) router bound
  simp only [redirects_iff, hverdict]
  rfl

end Notes

/-- What is logged while the nodes judge a scope. -/
def asked (r : Router) (s : Scope) : List Log.Event :=
  [Dispatch.attempt] ++
    Dispatch.warnings (·.level == .full) (r.nodes.map (·.verdict (r.mark s)))

theorem dispatch_eq_of_picks (h : r.Picks s n) (b : Bindings) : r.dispatch b s = (do
    Action.logAll (r.asked s ++
      [if (n.verdict s).level = .full then Dispatch.matched else Dispatch.fallBack])
    n.handle b ((r.mark s).derive (n.verdict s).child)) := by
  obtain ⟨c, hchoice, hn⟩ := h
  obtain ⟨k, hk, hverdict, _⟩ := chosen hchoice
  obtain rfl := Option.some.inj (hn.symm.trans hk)
  rw [Router.dispatch_eq, hchoice, asked, ← Action.logAll_logAll, ← Action.logAll_logAll]
  simp only [Node.handleAt_eq b hn, hverdict, Node.verdict_mark, Action.log]

theorem dispatch_of_picks (h : r.Picks s n) : ∃ events, ∀ b, r.dispatch b s =
    (do Action.logAll events; n.handle b ((r.mark s).derive (n.verdict s).child)) :=
  ⟨_, dispatch_eq_of_picks h⟩

theorem dispatch_eq_of_idle (h : r.Idle s) (b : Bindings) : r.dispatch b s =
    (do Action.logAll (r.asked s); r.unserved b (r.mark s)) := by
  rw [Router.dispatch_eq, choose?_eq_none_iff.mpr h, asked, ← Action.logAll_logAll]
  rfl

theorem dispatch_eq_of_redirects (h : r.Idle s) (hredirect : r.Redirects (r.mark s))
    (b : Bindings) : r.dispatch b s = (do
      Action.logAll (r.asked s ++ r.retried (r.mark s) ++ [Dispatch.redirecting])
      (Response.redirect (s.withPath (Dispatch.toggled s.path)).url).send) := by
  obtain ⟨c, hc, n, hn, hmatched⟩ := hredirect
  have hany : (r.nodes.map (·.verdict c)).any (·.matched) = true := by
    rw [List.any_map, List.any_eq_true]
    exact ⟨n, hn, hmatched⟩
  have hurl : c.url = (s.withPath (Dispatch.toggled s.path)).url := by
    rw [Dispatch.candidate?] at hc
    split at hc
    · cases hc
      rfl
    · cases hc
  rw [dispatch_eq_of_idle h, ← Action.logAll_logAll, ← Action.logAll_logAll]
  simp only [unserved, retried, hc, hany, hurl, Action.log]

theorem dispatch_of_redirects (h : r.Idle s) (hredirect : r.Redirects (r.mark s)) :
    ∃ events, ∀ b, r.dispatch b s = (do
      Action.logAll events
      (Response.redirect (s.withPath (Dispatch.toggled s.path)).url).send) :=
  ⟨_, dispatch_eq_of_redirects h hredirect⟩

theorem dispatch_eq_of_unserved (h : r.Idle s) (hredirect : ¬ r.Redirects (r.mark s))
    (b : Bindings) : r.dispatch b s = (do
      Action.logAll (r.asked s ++ r.retried (r.mark s))
      if s.kind = .lifecycle then r.lifespan.serve b.hook
      else
        Action.log Dispatch.unmatched
        match r.fallback with
        | some e => e.call b (r.mark s)
        | none => (r.mark s).refuse) := by
  rw [dispatch_eq_of_idle h, unserved_eq hredirect, Action.logAll_logAll]
  rfl

theorem dispatch_of_unserved (h : r.Idle s) (hredirect : ¬ r.Redirects (r.mark s)) :
    ∃ events, ∀ b, r.dispatch b s = (do
      Action.logAll events
      if s.kind = .lifecycle then r.lifespan.serve b.hook
      else
        Action.log Dispatch.unmatched
        match r.fallback with
        | some e => e.call b (r.mark s)
        | none => (r.mark s).refuse) :=
  ⟨_, dispatch_eq_of_unserved h hredirect⟩

theorem Hands.of_picks {e : Endpoint} (h : r.Picks s n)
    (hcallee : n.callee? ((r.mark s).derive (n.verdict s).child) = some e) :
    r.Hands s [(n, r.mark s)] e ((r.mark s).derive (n.verdict s).child) := by
  obtain ⟨c, hchoice, hn⟩ := h
  have hnode := Hands.node hchoice hn (e := e)
  rw [Node.verdict_mark] at hnode
  exact hnode hcallee

/-- A router hands a scope on by the node that it picks, or as it is to the fallback. -/
theorem Hands.inv {trail : List (Node × Scope)} {e : Endpoint} {s' : Scope}
    (h : r.Hands s trail e s') :
    (∃ n, r.Picks s n ∧ n.callee? s' = some e ∧ trail = [(n, r.mark s)] ∧
      s' = (r.mark s).derive (n.verdict s).child) ∨
    (r.Idle s ∧ ¬ r.Redirects (r.mark s) ∧ s.kind ≠ .lifecycle ∧ r.fallback = some e ∧
      trail = [] ∧ s' = r.mark s) := by
  cases h with
  | @node c n _ hchoice hnode hcallee =>
      refine Or.inl ⟨n, ⟨c, hchoice, hnode⟩, hcallee, rfl, ?_⟩
      rw [Node.verdict_mark]
  | fallback hchoice hredirect hkind hfallback =>
      exact Or.inr ⟨choose?_eq_none_iff.mp hchoice, hredirect, hkind, hfallback, rfl, rfl⟩

end Router

/-! ## The nodes that are asked -/

namespace Router

/-- A node gets a scope that it judged as `t`, from this router or from one behind it. -/
inductive Asks : Router → Scope → Node → Scope → Prop
  | here {r : Router} {s : Scope} {n : Node} (hpicks : r.Picks s n) : Asks r s n (r.mark s)
  | onward {r : Router} {s : Scope} {trail : List (Node × Scope)} {e : Endpoint} {s' : Scope}
      {inner : Router} {n : Node} {t : Scope} (hhands : r.Hands s trail e s')
      (htarget : e.target = .router inner) (hasks : Asks inner s' n t) : Asks r s n t

variable {r : Router} {s t : Scope} {n : Node}

theorem Asks.matched (h : r.Asks s n t) : (n.verdict t).matched = true := by
  induction h with
  | @here r s n hpicks => rw [Node.verdict_mark, hpicks.matched.2]
  | onward _ _ _ ih => exact ih

theorem Asks.dispatch_eq (h : r.Asks s n t) : ∃ events, ∀ b, r.dispatch b s =
    (do Action.logAll events; n.handle b (t.derive (n.verdict t).child)) := by
  induction h with
  | here hpicks =>
      simp only [Node.verdict_mark]
      exact dispatch_of_picks hpicks
  | onward hhands htarget _ ih => exact hhands.dispatch_onward htarget ih

theorem Calls.asks {trail : List (Node × Scope)} {e : Endpoint} {s' : Scope}
    (h : r.Calls s trail e s') : ∀ p ∈ trail, r.Asks s p.1 p.2 := by
  have hstep {r s trail e s'} (hhands : Router.Hands r s trail e s') :
      ∀ p ∈ trail, r.Asks s p.1 p.2 := by
    intro p hp
    rcases hhands.inv with ⟨n, hpicks, _, rfl, _⟩ | ⟨_, _, _, _, rfl, _⟩
    · obtain rfl := List.mem_singleton.mp hp
      exact .here hpicks
    · cases hp
  induction h with
  | here hhands => exact hstep hhands
  | onward hhands htarget _ ih =>
      intro p hp
      rcases List.mem_append.mp hp with hp | hp
      · exact hstep hhands p hp
      · exact .onward hhands htarget (ih p hp)

end Router

/-! ## The end of a dispatch -/

/-- What is done at the end of a dispatch. -/
inductive Ending where
  /-- An endpoint that is no router is called. -/
  | called (endpoint : Endpoint) (scope : Scope)
  /-- A route does not serve the method. -/
  | refused (route : Route) (scope : Scope)
  /-- The request is sent to the path of the scope. -/
  | redirected (scope : Scope)
  | served (lifespan : Lifespan)
  /-- Nothing serves the scope. -/
  | unknown (scope : Scope)

def Ending.run (b : Bindings) : Ending → Action DispatchError Unit
  | .called e s => e.call b s
  | .refused q s => q.refuse s
  | .redirected s => (Response.redirect s.url).send
  | .served l => l.serve b.hook
  | .unknown s => s.refuse

theorem Route.handle_of_refuses {q : Route} {s : Scope} (h : q.refusesMethod s = true)
    (b : Bindings) : q.handle b s = q.refuse s := by
  obtain ⟨template, endpoint, name, methods, protocol, listed⟩ := q
  rw [Route.handle, if_pos h]

namespace Router

/-- A dispatch ends in a certain way: at this router, or at one that it hands the scope on to. -/
inductive Ends : Router → Scope → Ending → Prop
  | onward {r : Router} {s : Scope} {trail : List (Node × Scope)} {e : Endpoint} {s' : Scope}
      {inner : Router} {x : Ending} (hhands : r.Hands s trail e s')
      (htarget : e.target = .router inner) (hends : Ends inner s' x) : Ends r s x
  | called {r : Router} {s : Scope} {trail : List (Node × Scope)} {e : Endpoint} {s' : Scope}
      (hhands : r.Hands s trail e s') (hleaf : ∀ inner, e.target ≠ .router inner) :
      Ends r s (.called e s')
  | refused {r : Router} {s : Scope} {q : Route} (hpicks : r.Picks s (.route q))
      (hrefuses : q.refusesMethod s = true) :
      Ends r s (.refused q ((r.mark s).derive (q.verdict s).child))
  | lifespan {r : Router} {s : Scope} {l : Lifespan} (hpicks : r.Picks s (.lifespan l)) :
      Ends r s (.served l)
  | redirected {r : Router} {s : Scope} (hidle : r.Idle s)
      (hredirect : r.Redirects (r.mark s)) :
      Ends r s (.redirected ((r.mark s).withPath (Dispatch.toggled s.path)))
  | served {r : Router} {s : Scope} (hidle : r.Idle s)
      (hredirect : ¬ r.Redirects (r.mark s)) (hkind : s.kind = .lifecycle) :
      Ends r s (.served r.lifespan)
  | unknown {r : Router} {s : Scope} (hidle : r.Idle s)
      (hredirect : ¬ r.Redirects (r.mark s)) (hkind : s.kind ≠ .lifecycle)
      (hfallback : r.fallback = none) : Ends r s (.unknown (r.mark s))

/-- Every dispatch comes to an end: the routers on the way stand one inside the other. -/
theorem exists_ends (r : Router) (s : Scope) : ∃ x, r.Ends s x := by
  have hhands {trail e s'} (h : r.Hands s trail e s') : ∃ x, r.Ends s x := by
    by_cases hrouter : ∃ inner, e.target = .router inner
    · obtain ⟨inner, htarget⟩ := hrouter
      have := h.sizeOf_lt htarget
      obtain ⟨x, hx⟩ := exists_ends inner s'
      exact ⟨x, .onward h htarget hx⟩
    · exact ⟨_, .called h fun inner htarget => hrouter ⟨inner, htarget⟩⟩
  rcases r.exists_picks_or_idle s with ⟨n, hpicks⟩ | hidle
  · cases hcallee : n.callee? ((r.mark s).derive (n.verdict s).child) with
    | some e => exact hhands (.of_picks hpicks hcallee)
    | none =>
        cases n with
        | route q =>
            simp only [Node.callee?] at hcallee
            split at hcallee
            · rename_i hrefuses
              exact ⟨_, .refused hpicks hrefuses⟩
            · cases hcallee
        | mount m => cases hcallee
        | host g => cases hcallee
        | lifespan l => exact ⟨_, .lifespan hpicks⟩
  · by_cases hredirect : r.Redirects (r.mark s)
    · exact ⟨_, .redirected hidle hredirect⟩
    · by_cases hkind : s.kind = .lifecycle
      · exact ⟨_, .served hidle hredirect hkind⟩
      · cases hfallback : r.fallback with
        | none => exact ⟨_, .unknown hidle hredirect hkind hfallback⟩
        | some e =>
            exact hhands (.fallback (choose?_eq_none_iff.mpr hidle) hredirect hkind hfallback)
  termination_by sizeOf r

/-- A dispatch does what its end says; before that it only logs. -/
theorem Ends.dispatch_eq {r : Router} {s : Scope} {x : Ending} (h : r.Ends s x) :
    ∃ events, ∀ b, r.dispatch b s = (do Action.logAll events; x.run b) := by
  induction h with
  | onward hhands htarget _ ih => exact hhands.dispatch_onward htarget ih
  | called hhands _ => exact hhands.dispatch_eq
  | @refused r s q hpicks hrefuses =>
      obtain ⟨events, hevents⟩ := dispatch_of_picks hpicks
      refine ⟨events, fun b => ?_⟩
      have hrefuses' : q.refusesMethod ((r.mark s).derive (q.verdict s).child) = true := hrefuses
      rw [hevents, Node.handle, Node.verdict, Route.handle_of_refuses hrefuses', Ending.run]
  | lifespan hpicks =>
      obtain ⟨events, hevents⟩ := dispatch_of_picks hpicks
      refine ⟨events, fun b => ?_⟩
      rw [hevents, Node.handle, Ending.run]
  | redirected hidle hredirect => exact dispatch_of_redirects hidle hredirect
  | served hidle hredirect hkind =>
      obtain ⟨events, hevents⟩ := dispatch_of_unserved hidle hredirect
      refine ⟨events, fun b => ?_⟩
      rw [hevents, if_pos hkind, Ending.run]
  | unknown hidle hredirect hkind hfallback =>
      obtain ⟨events, hevents⟩ := dispatch_of_unserved hidle hredirect
      refine ⟨events ++ [Dispatch.unmatched], fun b => ?_⟩
      rw [hevents, if_neg hkind, hfallback, ← Action.logAll_logAll, Ending.run, Action.log]

end Router

/-! ## What an end is about -/

def Ending.scope? : Ending → Option Scope
  | .called _ s => some s
  | .refused _ s => some s
  | .redirected s => some s
  | .served _ => none
  | .unknown s => some s

namespace Router

/-- What a scope is handed on with is the same request, but for the path. -/
theorem Hands.keeps_request {r : Router} {s : Scope} {trail : List (Node × Scope)} {e : Endpoint}
    {s' : Scope} (h : r.Hands s trail e s') :
    s'.kind = s.kind ∧ s'.method = s.method ∧ s'.bound = s.bound := by
  rcases h.inv with ⟨_, _, _, _, rfl⟩ | ⟨_, _, _, _, _, rfl⟩ <;> exact ⟨rfl, rfl, rfl⟩

variable {r : Router} {s : Scope} {x : Ending}

theorem Ends.keeps (h : r.Ends s x) : ∀ t, x.scope? = some t →
    t.kind = s.kind ∧ t.method = s.method ∧ t.bound = s.bound := by
  induction h with
  | onward hhands _ _ ih =>
      intro t ht
      obtain ⟨hkind, hmethod, hbound⟩ := hhands.keeps_request
      obtain ⟨hkind', hmethod', hbound'⟩ := ih t ht
      exact ⟨hkind'.trans hkind, hmethod'.trans hmethod, hbound'.trans hbound⟩
  | called hhands _ =>
      intro t ht
      cases ht
      exact hhands.keeps_request
  | lifespan _ | served _ _ _ =>
      intro t ht
      cases ht
  | refused _ _ | redirected _ _ | unknown _ _ _ _ =>
      intro t ht
      cases ht
      exact ⟨rfl, rfl, rfl⟩

/-- No request ends at a lifespan. -/
theorem Ends.not_served (h : r.Ends s x) (hkind : s.kind = .request) : ∀ l, x ≠ .served l := by
  induction h with
  | onward hhands _ _ ih => exact ih (hhands.keeps_request.1.trans hkind)
  | @lifespan r s l hpicks =>
      have hmatched := hpicks.matched.2
      have hlifecycle : s.kind ≠ .lifecycle := by
        rw [hkind]
        decide
      rw [Node.verdict, Lifespan.verdict, if_neg hlifecycle] at hmatched
      cases hmatched
  | served _ _ hlifecycle =>
      rw [hkind] at hlifecycle
      cases hlifecycle
  | called _ _ | refused _ _ | redirected _ _ | unknown _ _ _ _ =>
      intro l hl
      cases hl

/-- The endpoint at the end of a dispatch is called, and it is no router. -/
theorem Ends.calls {e : Endpoint} {t : Scope} (h : r.Ends s x) (hx : x = .called e t) :
    (∃ trail, r.Calls s trail e t) ∧ ∀ inner, e.target ≠ .router inner := by
  induction h with
  | onward hhands htarget _ ih =>
      obtain ⟨⟨trail, hcalls⟩, hleaf⟩ := ih hx
      exact ⟨⟨_, .onward hhands htarget hcalls⟩, hleaf⟩
  | called hhands hleaf =>
      cases hx
      exact ⟨⟨_, .here hhands⟩, hleaf⟩
  | refused _ _ | lifespan _ | redirected _ _ | served _ _ _ | unknown _ _ _ _ => cases hx

theorem Ends.refuses {q : Route} {t : Scope} (h : r.Ends s x) (hx : x = .refused q t) :
    q.refusesMethod t = true := by
  induction h with
  | onward _ _ _ ih => exact ih hx
  | refused _ hrefuses =>
      cases hx
      exact hrefuses
  | called _ _ | lifespan _ | redirected _ _ | served _ _ _ | unknown _ _ _ _ => cases hx

end Router

end Waymark
