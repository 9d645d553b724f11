import Waymark.Echo
import Waymark.Proofs.Exchange
import Waymark.Proofs.Tree.Gating

/-!
# Bound and unbound scopes

An application that has its own answers for what is not found binds the scope:
then the router tells it by an error what it would have answered itself. The
flag is looked at in two places only, where a route refuses a method and where
nothing serves a scope (`Ending.run`), and every scope that is derived on the
way there has the flag of the first one.

So the runs of a scope with the flag and without it are followed together.
They end in the same place, with the same log on the way
(`Ends.dispatch_flagged`), and differ only if this place is one of the two
(`Router.bound_only_refuses`). An application that fails with such an error
itself is not a router: its error comes with the flag and without it.
-/

namespace Waymark

/-! ## Scopes up to the flag -/

def Scope.flagged (s : Scope) (bound : Bool) : Scope := { s with bound := bound }

theorem Node.verdict_flagged (n : Node) (s : Scope) (bound : Bool) :
    n.verdict (s.flagged bound) = n.verdict s :=
  n.verdict_noting s s.router bound

theorem Node.callee?_flagged (n : Node) (s : Scope) (bound : Bool) :
    n.callee? (s.flagged bound) = n.callee? s :=
  n.callee?_noting s s.router bound

/-- The endpoint does not look at the flag. -/
def Bindings.Blind (b : Bindings) (e : Endpoint) : Prop :=
  match e.target with
  | .handler => ∀ s bound, b.handler e.handle ⟨s.flagged bound⟩ = b.handler e.handle ⟨s⟩
  | .blocking => ∀ s bound, b.blocking e.handle ⟨s.flagged bound⟩ = b.blocking e.handle ⟨s⟩
  | .session => ∀ s bound, b.session e.handle ⟨s.flagged bound⟩ = b.session e.handle ⟨s⟩
  | .app => ∀ s bound, b.app e.handle (s.flagged bound) = b.app e.handle s
  | .router _ => True

theorem Endpoint.call_flagged {b : Bindings} {e : Endpoint} (hblind : b.Blind e)
    (hleaf : ∀ inner, e.target ≠ .router inner) (s : Scope) (bound : Bool) :
    e.call b (s.flagged bound) = e.call b s := by
  obtain ⟨name, handle, target⟩ := e
  cases target with
  | router inner => exact absurd rfl (hleaf inner)
  | handler =>
      have hsame : b.handler handle ⟨s.flagged bound⟩ = b.handler handle ⟨s⟩ := hblind s bound
      rw [Endpoint.call, Endpoint.call, Target.run, Target.run, hsame]
  | blocking =>
      have hsame : b.blocking handle ⟨s.flagged bound⟩ = b.blocking handle ⟨s⟩ := hblind s bound
      rw [Endpoint.call, Endpoint.call, Target.run, Target.run, hsame]
  | session =>
      have hsame : b.session handle ⟨s.flagged bound⟩ = b.session handle ⟨s⟩ := hblind s bound
      rw [Endpoint.call, Endpoint.call, Target.run, Target.run, hsame]
  | app =>
      have hsame : b.app handle (s.flagged bound) = b.app handle s := hblind s bound
      rw [Endpoint.call, Endpoint.call, Target.run, Target.run, hsame]

/-! ## Both runs of one router -/

namespace Router

variable {r : Router} {s s' : Scope} {n : Node} {e : Endpoint}

theorem picks_flagged_iff {bound : Bool} : r.Picks (s.flagged bound) n ↔ r.Picks s n :=
  picks_noting_iff

theorem idle_flagged_iff {bound : Bool} : r.Idle (s.flagged bound) ↔ r.Idle s := idle_noting_iff

theorem redirects_flagged_iff {bound : Bool} :
    r.Redirects (r.mark (s.flagged bound)) ↔ r.Redirects (r.mark s) :=
  redirects_noting_iff

theorem verdicts_flagged (nodes : List Node) (s : Scope) (bound : Bool) :
    nodes.map (·.verdict (s.flagged bound)) = nodes.map (·.verdict s) :=
  List.map_congr_left fun n _ => n.verdict_flagged s bound

theorem asked_flagged (r : Router) (s : Scope) (bound : Bool) :
    r.asked (s.flagged bound) = r.asked s := by
  have hmark : r.mark (s.flagged bound) = (r.mark s).flagged bound := rfl
  rw [asked, asked, hmark, verdicts_flagged]

theorem retried_flagged (r : Router) (s : Scope) (bound : Bool) :
    r.retried (s.flagged bound) = r.retried s := by
  have hcandidate : Dispatch.candidate? r.redirectSlashes (s.flagged bound) =
      (Dispatch.candidate? r.redirectSlashes s).map (·.flagged bound) := by
    unfold Dispatch.candidate?
    rw [apply_ite (Option.map _)]
    rfl
  unfold retried
  rw [hcandidate]
  cases Dispatch.candidate? r.redirectSlashes s with
  | none => rfl
  | some c =>
      dsimp only [Option.map_some]
      rw [verdicts_flagged]

theorem dispatch_flagged_of_picks (h : r.Picks s n) :
    ∃ events, ∀ b bound, r.dispatch b (s.flagged bound) = (do
      Action.logAll events
      n.handle b (((r.mark s).derive (n.verdict s).child).flagged bound)) := by
  refine ⟨r.asked s ++
    [if (n.verdict s).level = .full then Dispatch.matched else Dispatch.fallBack], ?_⟩
  intro b bound
  rw [dispatch_eq_of_picks (picks_flagged_iff.mpr h), asked_flagged, Node.verdict_flagged]
  rfl

theorem dispatch_flagged_of_unserved (h : r.Idle s) (hredirect : ¬ r.Redirects (r.mark s)) :
    ∃ events, ∀ b bound, r.dispatch b (s.flagged bound) = (do
      Action.logAll events
      if s.kind = .lifecycle then r.lifespan.serve b.hook
      else
        Action.log Dispatch.unmatched
        match r.fallback with
        | some e => e.call b ((r.mark s).flagged bound)
        | none => ((r.mark s).flagged bound).refuse) := by
  refine ⟨r.asked s ++ r.retried (r.mark s), ?_⟩
  intro b bound
  have hmark : r.mark (s.flagged bound) = (r.mark s).flagged bound := rfl
  rw [dispatch_eq_of_unserved (idle_flagged_iff.mpr h) (mt redirects_flagged_iff.mp hredirect),
    asked_flagged, hmark, retried_flagged]
  rfl

theorem Hands.dispatch_flagged {trail : List (Node × Scope)} (h : r.Hands s trail e s') :
    ∃ events, ∀ b bound, r.dispatch b (s.flagged bound) = (do
      Action.logAll events
      e.call b (s'.flagged bound)) := by
  rcases h.inv with ⟨n, hpicks, hcallee, _, rfl⟩ | ⟨hidle, hredirect, hkind, hfallback, _, rfl⟩
  · obtain ⟨events, hevents⟩ := dispatch_flagged_of_picks hpicks
    refine ⟨events, ?_⟩
    intro b bound
    rw [hevents, Node.handle_of_callee ((Node.callee?_flagged n _ bound).trans hcallee)]
  · obtain ⟨events, hevents⟩ := dispatch_flagged_of_unserved hidle hredirect
    refine ⟨events ++ [Dispatch.unmatched], ?_⟩
    intro b bound
    rw [hevents, if_neg hkind, hfallback, ← Action.logAll_logAll]
    rfl

end Router

/-! ## Both runs to their end -/

def Ending.flagged (bound : Bool) : Ending → Ending
  | .called e s => .called e (s.flagged bound)
  | .refused q s => .refused q (s.flagged bound)
  | .redirected s => .redirected (s.flagged bound)
  | .served l => .served l
  | .unknown s => .unknown (s.flagged bound)

namespace Router

variable {r : Router} {s : Scope} {x : Ending}

/-- With the flag and without it a dispatch logs the same and comes to the same end. -/
theorem Ends.dispatch_flagged (h : r.Ends s x) : ∃ events, ∀ b bound,
    r.dispatch b (s.flagged bound) = (do Action.logAll events; (x.flagged bound).run b) := by
  induction h with
  | @onward r s trail e s' inner x hhands htarget _ ih =>
      obtain ⟨events, hevents⟩ := hhands.dispatch_flagged
      obtain ⟨later, hlater⟩ := ih
      refine ⟨events ++ [Dispatch.started] ++ later, ?_⟩
      intro b bound
      rw [hevents, Endpoint.call_router htarget, hlater, Action.log, ← Action.logAll_logAll,
        ← Action.logAll_logAll]
  | called hhands _ => exact hhands.dispatch_flagged
  | @refused r s q hpicks hrefuses =>
      obtain ⟨events, hevents⟩ := dispatch_flagged_of_picks hpicks
      refine ⟨events, ?_⟩
      intro b bound
      have hrefuses' : q.refusesMethod
          (((r.mark s).derive (q.verdict s).child).flagged bound) = true := hrefuses
      rw [hevents, Node.handle, Node.verdict, Route.handle_of_refuses hrefuses']
      rfl
  | @lifespan r s l hpicks =>
      obtain ⟨events, hevents⟩ := dispatch_flagged_of_picks hpicks
      refine ⟨events, ?_⟩
      intro b bound
      rw [hevents, Node.handle]
      rfl
  | @redirected r s hidle hredirect =>
      refine ⟨r.asked s ++ r.retried (r.mark s) ++ [Dispatch.redirecting], ?_⟩
      intro b bound
      have hmark : r.mark (s.flagged bound) = (r.mark s).flagged bound := rfl
      rw [dispatch_eq_of_redirects (idle_flagged_iff.mpr hidle)
        (redirects_flagged_iff.mpr hredirect), asked_flagged, hmark, retried_flagged]
      rfl
  | @served r s hidle hredirect hkind =>
      obtain ⟨events, hevents⟩ := dispatch_flagged_of_unserved hidle hredirect
      refine ⟨events, ?_⟩
      intro b bound
      rw [hevents, if_pos hkind]
      rfl
  | @unknown r s hidle hredirect hkind hfallback =>
      obtain ⟨events, hevents⟩ := dispatch_flagged_of_unserved hidle hredirect
      refine ⟨events ++ [Dispatch.unmatched], ?_⟩
      intro b bound
      rw [hevents, if_neg hkind, hfallback, ← Action.logAll_logAll]
      rfl

end Router

/-! ## What the two refusals say -/

/-- The errors by which a router tells what it would have answered. -/
def DispatchError.isRefusal : DispatchError → Bool
  | .notFound _ => true
  | .methodNotAllowed .. => true
  | _ => false

namespace Scope

variable {s : Scope}

theorem refuse_of_flag (hkind : s.kind = .request) :
    (s.flagged true).refuse = throw (.notFound s.path) := by
  have hsocket : (s.flagged true).kind ≠ .socket := by
    rw [flagged, hkind]
    decide
  unfold refuse
  rw [if_neg hsocket]
  rfl

theorem refuse_of_no_flag (hkind : s.kind = .request) :
    (s.flagged false).refuse = (Response.text 404 "Not Found").send := by
  have hsocket : (s.flagged false).kind ≠ .socket := by
    rw [flagged, hkind]
    decide
  unfold refuse
  rw [if_neg hsocket]
  rfl

end Scope

namespace Action

variable {ε α β : Type}

def Unrefusing (a : Action DispatchError α) : Prop :=
  ∀ x error, (a x).1 = .error error → error.isRefusal = false

theorem Unrefusing.bind {a : Action DispatchError α} {k : α → Action DispatchError β}
    (ha : a.Unrefusing) (hk : ∀ v, (k v).Unrefusing) : Unrefusing (a >>= k) := by
  intro x error herror
  cases hfirst : (a x).1 with
  | ok v =>
      rw [bind_of_ok hfirst] at herror
      exact hk v _ error herror
  | error e =>
      rw [bind_of_error hfirst] at herror
      cases herror
      exact ha x error hfirst

theorem unrefusing_throw {error : DispatchError} (h : error.isRefusal = false) :
    Unrefusing (throw error : Action DispatchError α) := by
  intro x error' herror
  cases herror
  exact h

theorem unrefusing_log (event : Log.Event) : Unrefusing (log event) := by
  intro x error herror
  cases herror

theorem unrefusing_mapError {f : ε → DispatchError} (h : ∀ e, (f e).isRefusal = false)
    (a : Action ε α) : Unrefusing (a.mapError f) := by
  intro x error herror
  rw [mapError_eq] at herror
  cases hresult : (a x).1 with
  | ok v =>
      rw [hresult] at herror
      cases herror
  | error e =>
      rw [hresult] at herror
      cases herror
      exact h e

end Action

theorem WorkerPool.not_isRefusal_of_report {isOpen : Bool} {name : String} {α : Type}
    {job : Outcome α} {e : DispatchError} (h : report isOpen name job = .error e) :
    e.isRefusal = false := by
  cases job <;> cases isOpen <;> cases h <;> rfl

theorem Response.send_unrefusing (r : Response) : r.send.Unrefusing :=
  Action.unrefusing_mapError (fun _ => rfl) _

/-- Among the endpoints that are no routers only an application can end in a refusal. -/
theorem Endpoint.call_unrefusing {e : Endpoint} (hleaf : ∀ inner, e.target ≠ .router inner)
    (happ : e.target ≠ .app) (b : Bindings) (s : Scope) : (e.call b s).Unrefusing := by
  obtain ⟨name, handle, target⟩ := e
  rw [Endpoint.call]
  refine (Action.unrefusing_log _).bind fun _ => ?_
  cases target with
  | router inner => exact absurd rfl (hleaf inner)
  | app => exact absurd rfl happ
  | session =>
      rw [Target.run]
      exact (Action.unrefusing_mapError (fun _ => rfl) _).bind fun _ => Action.unrefusing_log _
  | handler =>
      rw [Target.run]
      cases b.handler handle ⟨s⟩ with
      | ok response => exact response.send_unrefusing.bind fun _ => Action.unrefusing_log _
      | error failure => exact (Action.unrefusing_throw rfl).bind fun _ => Action.unrefusing_log _
  | blocking =>
      rw [Target.run]
      cases hreport : WorkerPool.report b.poolOpen name (b.blocking handle ⟨s⟩) with
      | error e =>
          have he := WorkerPool.not_isRefusal_of_report hreport
          exact (Action.unrefusing_throw he).bind fun _ => Action.unrefusing_log _
      | ok result =>
          cases result with
          | ok response => exact response.send_unrefusing.bind fun _ => Action.unrefusing_log _
          | error failure =>
              exact (Action.unrefusing_throw rfl).bind fun _ => Action.unrefusing_log _

theorem Endpoint.call_app {e : Endpoint} (happ : e.target = .app) (b : Bindings) (s : Scope) :
    e.call b s = (do Action.logAll [Dispatch.started]; b.app e.handle s) := by
  obtain ⟨name, handle, target⟩ := e
  cases happ
  rw [Endpoint.call, Target.run, Action.log]

namespace Router

variable {b : Bindings} {r : Router} {s : Scope}

/-- Unbound, the dispatch answers with the response. Bound, it fails with the error instead and
sends nothing. -/
def Reports (b : Bindings) (r : Router) (s : Scope) (response : Response)
    (error : DispatchError) : Prop :=
  ∀ x : Exchange,
    (x.Roomy → ∃ y, r.dispatch b (s.flagged false) x = (.ok (), y) ∧
      y.sent = x.sent ++ response.messages) ∧
    ∃ y, r.dispatch b (s.flagged true) x = (.error error, y) ∧ y.sent = x.sent

theorem Reports.of_dispatch {response : Response} {error : DispatchError}
    (h : ∃ events, r.dispatch b (s.flagged false) = (do Action.logAll events; response.send) ∧
      r.dispatch b (s.flagged true) = (do Action.logAll events; throw error)) :
    r.Reports b s response error := by
  obtain ⟨events, hunbound, hbound⟩ := h
  intro x
  constructor
  · intro hroomy
    have hroomy' : ({ x with events := x.events ++ events } : Exchange).Roomy := hroomy
    obtain ⟨y, hy, hsent⟩ := Response.send_eq hroomy' response
    refine ⟨y, ?_, hsent⟩
    rw [hunbound]
    exact hy
  · refine ⟨{ x with events := x.events ++ events }, ?_, rfl⟩
    rw [hbound]
    rfl

/-- Where nothing serves a request, the two runs part. -/
theorem Ends.reports_unknown {t : Scope} (h : r.Ends (s.flagged false) (.unknown t))
    (hkind : s.kind = .request) (b : Bindings) :
    r.Reports b s (Response.text 404 "Not Found") (.notFound t.path) := by
  obtain ⟨events, hevents⟩ := h.dispatch_flagged
  have hkind' : t.kind = .request := (h.keeps t rfl).1.trans hkind
  refine .of_dispatch ⟨events, ?_, ?_⟩
  · have hrun := hevents b false
    rw [Ending.flagged, Ending.run, Scope.refuse_of_no_flag hkind'] at hrun
    exact hrun
  · have hrun := hevents b true
    rw [Ending.flagged, Ending.run, Scope.refuse_of_flag hkind'] at hrun
    exact hrun

/-- Where a route refuses the method, the two runs part. -/
theorem Ends.reports_refused {q : Route} {t : Scope} (h : r.Ends (s.flagged false) (.refused q t))
    (b : Bindings) : ∃ set, q.methods = some set ∧
      r.Reports b s (Route.refusal set) (.methodNotAllowed (s.method.getD "") t.path) := by
  obtain ⟨events, hevents⟩ := h.dispatch_flagged
  obtain ⟨_, set, hset, _⟩ := Route.refusesMethod_iff.mp (h.refuses rfl)
  have hmethod : t.method = s.method := (h.keeps t rfl).2.1
  refine ⟨set, hset, .of_dispatch ⟨events ++ [Dispatch.refused], ?_, ?_⟩⟩
  · have hrun := hevents b false
    rw [Ending.flagged, Ending.run, Route.refuse_of_methods rfl hset, Action.logAll_logAll] at hrun
    exact hrun
  · have hrun := hevents b true
    rw [Ending.flagged, Ending.run, Route.refuse_of_bound rfl, Action.logAll_logAll] at hrun
    rw [← hmethod]
    exact hrun

/-- Everywhere else the runs are one. -/
theorem Ends.same_dispatch {x : Ending} (h : r.Ends (s.flagged false) x)
    (hblind : ∀ e, r.Leads e → b.Blind e) (hknown : ∀ t, x ≠ .unknown t)
    (hserved : ∀ q t, x ≠ .refused q t) :
    r.dispatch b (s.flagged true) = r.dispatch b (s.flagged false) := by
  obtain ⟨events, hevents⟩ := h.dispatch_flagged
  have hunbound := hevents b false
  have hbound := hevents b true
  have hrun : (x.flagged true).run b = (x.flagged false).run b := by
    cases x with
    | called e t =>
        obtain ⟨⟨_, hcalls⟩, hleaf⟩ := h.calls rfl
        have hcall := Endpoint.call_flagged (hblind e hcalls.leads) hleaf t
        exact (hcall true).trans (hcall false).symm
    | redirected t => rfl
    | served l => rfl
    | refused q t => exact absurd rfl (hserved q t)
    | unknown t => exact absurd rfl (hknown t)
  rw [hrun] at hbound
  exact hbound.trans hunbound.symm

/-- Without the flag a refusal as an error comes from an application that was called. -/
theorem Ends.app_of_refusal {x : Ending} (h : r.Ends (s.flagged false) x)
    (hkind : s.kind = .request) {y : Exchange} {error : DispatchError}
    (herror : (r.dispatch b (s.flagged false) y).1 = .error error)
    (hrefusal : error.isRefusal = true) :
    ∃ e t, x = .called e t ∧ e.target = .app ∧ ∃ z, (b.app e.handle t z).1 = .error error := by
  obtain ⟨events, hevents⟩ := h.dispatch_eq
  rw [hevents] at herror
  have hrefuses : ¬ (x.run b).Unrefusing := by
    intro hunrefusing
    have hnone := hunrefusing _ error herror
    rw [hrefusal] at hnone
    cases hnone
  cases x with
  | called e t =>
      refine ⟨e, t, rfl, ?_⟩
      by_cases happ : e.target = .app
      · rw [Ending.run, Endpoint.call_app happ] at herror
        exact ⟨happ, _, herror⟩
      · exact absurd (Endpoint.call_unrefusing (h.calls rfl).2 happ b t) hrefuses
  | refused q t =>
      obtain ⟨_, set, hset, _⟩ := Route.refusesMethod_iff.mp (h.refuses rfl)
      have hbound : t.bound = false := (h.keeps t rfl).2.2
      rw [Ending.run, Route.refuse_of_methods hbound hset] at hrefuses
      exact absurd ((Action.unrefusing_log _).bind fun _ => Response.send_unrefusing _) hrefuses
  | redirected t => exact absurd (Response.send_unrefusing _) hrefuses
  | served l => exact absurd rfl (h.not_served hkind l)
  | unknown t =>
      obtain ⟨hkind', _, hbound⟩ := h.keeps t rfl
      have hflagged : t = t.flagged false := by
        cases t
        cases hbound
        rfl
      rw [Ending.run, hflagged, Scope.refuse_of_no_flag (hkind'.trans hkind)] at hrefuses
      exact absurd (Response.send_unrefusing _) hrefuses

/-- The flag of a scope is about the router's own refusals and about nothing else.

The endpoints do not look at the flag. If nothing serves the request, an unbound scope is answered
with 404, and a bound one fails with the path that the last router got; if a route refuses the
method, an unbound scope is answered with 405, and a bound one fails with the method and that
path. However else a dispatch ends, it is the same with the flag and without it. Without the flag
no router fails with a refusal: where a dispatch does, an application it called did. -/
theorem bound_only_refuses (b : Bindings) (r : Router) (s : Scope) (hkind : s.kind = .request)
    (hblind : ∀ e, r.Leads e → b.Blind e) :
    (∀ t, r.Ends (s.flagged false) (.unknown t) →
      r.Reports b s (Response.text 404 "Not Found") (.notFound t.path)) ∧
    (∀ q t, r.Ends (s.flagged false) (.refused q t) → ∃ set, q.methods = some set ∧
      r.Reports b s (Route.refusal set) (.methodNotAllowed (s.method.getD "") t.path)) ∧
    (((∀ t, ¬ r.Ends (s.flagged false) (.unknown t)) ∧
        ∀ q t, ¬ r.Ends (s.flagged false) (.refused q t)) →
      r.dispatch b (s.flagged true) = r.dispatch b (s.flagged false)) ∧
    ∀ x error, (r.dispatch b (s.flagged false) x).1 = .error error → error.isRefusal = true →
      ∃ trail app t, r.Calls (s.flagged false) trail app t ∧ app.target = .app ∧
        ∃ y, (b.app app.handle t y).1 = .error error := by
  obtain ⟨x, hends⟩ := r.exists_ends (s.flagged false)
  refine ⟨?_, ?_, ?_, ?_⟩
  · intro t h
    exact h.reports_unknown hkind b
  · intro q t h
    exact h.reports_refused b
  · rintro ⟨hknown, hserved⟩
    refine hends.same_dispatch hblind ?_ ?_
    · rintro t rfl
      exact hknown t hends
    · rintro q t rfl
      exact hserved q t hends
  · intro y error herror hrefusal
    obtain ⟨e, t, rfl, happ, hfails⟩ := hends.app_of_refusal hkind herror hrefusal
    obtain ⟨⟨trail, hcalls⟩, _⟩ := hends.calls rfl
    exact ⟨trail, e, t, hcalls, happ, hfails⟩

end Router

namespace Site

/-- The echoes do not show the flag, whatever applications they stand with that do not look at
it either. -/
theorem blind_echo_with (app : Handle → Scope → Action DispatchError Unit)
    (happ : ∀ handle s bound, app handle (s.flagged bound) = app handle s) (e : Endpoint) :
    Bindings.Blind { Echo.bindings with app := app } e := by
  obtain ⟨name, handle, target⟩ := e
  cases target with
  | app => exact happ handle
  | handler => exact fun _ _ => rfl
  | blocking => exact fun _ _ => rfl
  | session => exact fun _ _ => rfl
  | router inner => trivial

theorem blind_echo (e : Endpoint) : Echo.bindings.Blind e :=
  blind_echo_with Echo.bindings.app (fun _ _ _ => rfl) e

/-- A method that is not for readers is refused on the readers' page. -/
theorem ends_reading {s : Scope} (hkind : s.kind = .request) (hpath : s.path = "/posts/a")
    (hlevel : (reading.verdictOn s [("slug", .str "a")]).level = .partly) :
    ∃ t, readings.Ends s (.refused reading t) ∧ t.path = "/posts/a" := by
  have hpartly : (reading.verdict s).level = .partly := by
    rw [verdict_reading s hkind hpath]
    exact hlevel
  have hpicks := picks_reading (by rw [hpartly]; decide)
  exact ⟨_, .refused hpicks (Route.level_eq_partly hpartly),
    (reading.derive_eq (readings.mark s)).2.1.trans hpath⟩

/-- Whoever posts to the readers' page is told to read: by a response, or by an error if the scope
is bound. -/
theorem bound_only_refuses_site : ∃ y z,
    readings.dispatch Echo.bindings ((Scope.request "POST" "/posts/a").flagged false)
      (.new [] none) = (.ok (), y) ∧ y.sent = (Route.refusal ["GET", "HEAD"]).messages ∧
    readings.dispatch Echo.bindings ((Scope.request "POST" "/posts/a").flagged true)
      (.new [] none) = (.error (.methodNotAllowed "POST" "/posts/a"), z) ∧ z.sent = [] := by
  obtain ⟨t, hends, hpath⟩ := ends_reading (s := (Scope.request "POST" "/posts/a").flagged false)
    rfl rfl (by decide +kernel)
  obtain ⟨set, hset, hreports⟩ := (Router.bound_only_refuses Echo.bindings readings
    (.request "POST" "/posts/a") rfl fun e _ => blind_echo e).2.1 _ _ hends
  cases hset
  obtain ⟨hanswers, z, hz, hnone⟩ := hreports (.new [] none)
  obtain ⟨y, hy, hsent⟩ := hanswers (by nofun)
  rw [hpath] at hz
  exact ⟨y, z, hy, hsent, hz, hnone⟩

/-- The application has nothing under any path, and says so by the error of a router. -/
def vacancies : Bindings := { Echo.bindings with app := fun _ s => throw (.notFound s.path) }

/-- All that is asked goes to the application. -/
def vacant : Router := { Router.ofNodes ⟨[6]⟩ [] with fallback := some ⟨"App", ⟨[7]⟩, .app⟩ }

/-- A refusal may come unbound all the same, from an application and not from a router; and the
error for a request without a method has an empty one. -/
theorem refusals_beyond_routing :
    (∀ e, vacant.Leads e → vacancies.Blind e) ∧
    (∃ y, vacant.dispatch vacancies ((Scope.request "GET" "/posts/a").flagged false)
      (.new [] none) = (.error (.notFound "/posts/a"), y)) ∧
    (∀ e, readings.Leads e → Echo.bindings.Blind e) ∧
    ∃ z, readings.dispatch Echo.bindings ((Scope.new .request none "/posts/a").flagged true)
      (.new [] none) = (.error (.methodNotAllowed "" "/posts/a"), z) ∧ z.sent = [] := by
  refine ⟨fun e _ => blind_echo_with _ (fun _ _ _ => rfl) e, ⟨_, rfl⟩,
    fun e _ => blind_echo e, ?_⟩
  obtain ⟨t, hends, hpath⟩ := ends_reading
    (s := (Scope.new .request none "/posts/a").flagged false) rfl rfl (by decide +kernel)
  obtain ⟨_, _, hreports⟩ := hends.reports_refused Echo.bindings
  obtain ⟨z, hz, hnone⟩ := (hreports (.new [] none)).2
  rw [hpath] at hz
  exact ⟨z, hz, hnone⟩

end Site

end Waymark
