import Waymark.Echo
import Waymark.Proofs.Exchange
import Waymark.Proofs.Tree.Gating

/-!
# One response or one error

In a tree of functions and routers a request has two possible ends. Either one
response is sent, and whatever the channel takes of it is a beginning of its two
messages; or nothing is sent at all and an error tells why. Which of the two it
is, and what the response says, is settled before anything is sent, so it does
not hang on the channel (`Router.answers_once`).

`Action.Answers` and `Action.Fails` say this of an action on every channel. Each
end of a dispatch is one or the other: `Endpoint.call_settles` for functions,
`Route.refuse_settles` and `Scope.refuse_settles` for the refusals; a redirect is
a response. `Action.sendAll_eq` is the law of the channel that all of them rest
on.
-/

namespace Waymark

/-! ## Sending on a channel that may not take everything -/

namespace Action

theorem sendAll_eq (ms : List Message) (x : Exchange) : sendAll ms x =
    (if ms.length ≤ x.room.getD ms.length then .ok () else .error .closed,
      { x with
        sent := x.sent ++ ms.take (x.room.getD ms.length)
        room := x.room.map (· - ms.length) }) := by
  induction ms generalizing x with
  | nil =>
      obtain ⟨inbound, sent, room, states, journal, events⟩ := x
      cases room <;> simp [sendAll] <;> rfl
  | cons m ms ih =>
      rw [sendAll, bind_eq, send_eq]
      rcases hroom : x.room with _ | _ | k <;> simp [ih]

/-- On every channel the action sends the response as far as the channel takes it, and does
nothing else that the transport can see. -/
def Answers (a : Action DispatchError Unit) (r : Response) : Prop :=
  ∀ x : Exchange, (a x).2.inbound = x.inbound ∧
    (a x).2.sent = x.sent ++ r.messages.take (x.room.getD 2) ∧
    (a x).1 = if 2 ≤ x.room.getD 2 then .ok () else .error (.channel .closed)

/-- On every channel the action fails with the error, and does nothing that the transport can
see. -/
def Fails (a : Action DispatchError Unit) (e : DispatchError) : Prop :=
  ∀ x : Exchange, (a x).2.inbound = x.inbound ∧ (a x).2.sent = x.sent ∧ (a x).1 = .error e

end Action

inductive DispatchError.Unanswered : DispatchError → Prop
  | handler (name : String) (failure : Failure) : Unanswered (.handler name failure)
  | handlerPanicked (name message : String) : Unanswered (.handlerPanicked name message)
  | poolUnavailable : Unanswered .poolUnavailable
  | notFound (path : String) : Unanswered (.notFound path)
  | methodNotAllowed (method path : String) : Unanswered (.methodNotAllowed method path)

namespace Action

variable {a : Action DispatchError Unit} {r : Response} {e : DispatchError}

/-- The action comes to one response, or to one error of an unanswered request. -/
def Settles (a : Action DispatchError Unit) : Prop :=
  (∃ r, a.Answers r) ∨ ∃ e, e.Unanswered ∧ a.Fails e

theorem Answers.logged (h : a.Answers r) (events : List Log.Event) :
    Answers (do logAll events; a) r :=
  fun x => h { x with events := x.events ++ events }

theorem Fails.logged (h : a.Fails e) (events : List Log.Event) :
    Fails (do logAll events; a) e :=
  fun x => h { x with events := x.events ++ events }

theorem Settles.logged (h : a.Settles) (events : List Log.Event) :
    Settles (do logAll events; a) := by
  rcases h with ⟨r, hr⟩ | ⟨e, he, hfails⟩
  · exact Or.inl ⟨r, hr.logged events⟩
  · exact Or.inr ⟨e, he, hfails.logged events⟩

theorem Answers.completed (h : a.Answers r) (event : Log.Event) :
    Answers (do a; log event) r := by
  intro x
  obtain ⟨hinbound, hsent, hresult⟩ := h x
  cases hfirst : (a x).1 with
  | ok u =>
      rw [bind_of_ok hfirst]
      exact ⟨hinbound, hsent, hfirst.symm.trans hresult⟩
  | error e =>
      rw [bind_of_error hfirst]
      exact ⟨hinbound, hsent, hfirst.symm.trans hresult⟩

theorem fails_throw (e : DispatchError) : Fails (throw e) e := fun _ => ⟨rfl, rfl, rfl⟩

theorem Fails.bind {k : Unit → Action DispatchError Unit} (h : a.Fails e) :
    Fails (a >>= k) e := by
  intro x
  obtain ⟨hinbound, hsent, hresult⟩ := h x
  rw [bind_of_error hresult]
  exact ⟨hinbound, hsent, rfl⟩

end Action

theorem Response.send_answers (r : Response) : r.send.Answers r := by
  intro x
  rw [Response.send, Action.mapError_eq, Action.sendAll_eq]
  refine ⟨rfl, rfl, ?_⟩
  have hlength : r.messages.length = 2 := rfl
  rw [hlength]
  by_cases hroom : 2 ≤ x.room.getD 2
  · rw [if_pos hroom, if_pos hroom]
    rfl
  · rw [if_neg hroom, if_neg hroom]
    rfl

/-! ## The ends of a request -/

theorem Route.refuse_settles (q : Route) (s : Scope) : (q.refuse s).Settles := by
  unfold Route.refuse
  cases s.bound with
  | true => exact Or.inr ⟨_, .methodNotAllowed _ _, (Action.fails_throw _).logged _⟩
  | false => exact Or.inl ⟨_, (Response.send_answers _).logged _⟩

theorem Scope.refuse_settles {s : Scope} (hkind : s.kind = .request) : s.refuse.Settles := by
  have hsocket : s.kind ≠ .socket := by
    rw [hkind]
    decide
  unfold Scope.refuse
  rw [if_neg hsocket]
  cases s.bound with
  | true => exact Or.inr ⟨_, .notFound _, Action.fails_throw _⟩
  | false => exact Or.inl ⟨_, Response.send_answers _⟩

/-- A job that is not carried out, or that panics, is an error of the request. -/
theorem WorkerPool.unanswered_of_report {isOpen : Bool} {name : String} {α : Type}
    {job : Outcome α} {e : DispatchError} (h : report isOpen name job = .error e) :
    e.Unanswered := by
  cases job with
  | finished value =>
      simp only [report] at h
      split at h
      · cases h
      · cases h
        exact .poolUnavailable
  | panicked text =>
      simp only [report] at h
      split at h
      · cases h
        exact .handlerPanicked _ _
      · cases h
        exact .poolUnavailable

theorem Endpoint.call_settles {e : Endpoint} (h : e.isFunction = true) (b : Bindings) (s : Scope) :
    (e.call b s).Settles := by
  obtain ⟨name, handle, target⟩ := e
  rw [Endpoint.call]
  refine Action.Settles.logged ?_ _
  cases target with
  | handler =>
      rw [Target.run]
      cases b.handler handle ⟨s⟩ with
      | ok response => exact Or.inl ⟨response, (Response.send_answers response).completed _⟩
      | error failure =>
          exact Or.inr ⟨_, .handler _ _, (Action.fails_throw (.handler name failure)).bind⟩
  | blocking =>
      rw [Target.run]
      cases hreport : WorkerPool.report b.poolOpen name (b.blocking handle ⟨s⟩) with
      | error e =>
          have he := WorkerPool.unanswered_of_report hreport
          exact Or.inr ⟨e, he, (Action.fails_throw e).bind⟩
      | ok result =>
          cases result with
          | ok response => exact Or.inl ⟨response, (Response.send_answers response).completed _⟩
          | error failure =>
              exact Or.inr ⟨_, .handler _ _, (Action.fails_throw (.handler name failure)).bind⟩
  | session => cases h
  | app => cases h
  | router inner => cases h

namespace Router

variable {r : Router} {s : Scope} {x : Ending}

/-- In a tree of functions and routers every end of a request is a response or an error. -/
theorem Ends.settles (h : r.Ends s x) (hkind : s.kind = .request)
    (hends : ∀ e, r.Leads e → e.isFunction = true ∨ ∃ inner, e.target = .router inner)
    (b : Bindings) : (x.run b).Settles := by
  cases x with
  | called e t =>
      obtain ⟨⟨trail, hcalls⟩, hleaf⟩ := h.calls rfl
      rcases hends e hcalls.leads with hfunction | ⟨inner, htarget⟩
      · exact Endpoint.call_settles hfunction b t
      · exact absurd htarget (hleaf inner)
  | refused q t => exact q.refuse_settles t
  | redirected t => exact Or.inl ⟨_, Response.send_answers _⟩
  | served l => exact absurd rfl (h.not_served hkind l)
  | unknown t => exact Scope.refuse_settles ((h.keeps t rfl).1.trans hkind)

/-- One response or one error, never both and never two.

A request in a tree of functions and routers either sends a response, and then the channel gets
the two messages of this response as far as it takes them and the result says whether it took
both; or it fails with an error and sends nothing. On no channel is anything received. The
response and the error are the same for all channels. -/
theorem answers_once (b : Bindings) (r : Router) (s : Scope) (hkind : s.kind = .request)
    (hends : ∀ e, r.Leads e → e.isFunction = true ∨ ∃ inner, e.target = .router inner) :
    (∃ status headers body, ∀ x : Exchange,
      (r.dispatch b s x).2.inbound = x.inbound ∧
      (r.dispatch b s x).2.sent = x.sent ++
        [.responseStart status headers, .responseBody body].take (x.room.getD 2) ∧
      (r.dispatch b s x).1 =
        if 2 ≤ x.room.getD 2 then .ok () else .error (.channel .closed)) ∨
    ∃ e : DispatchError, e.Unanswered ∧ ∀ x : Exchange,
      (r.dispatch b s x).2.inbound = x.inbound ∧ (r.dispatch b s x).2.sent = x.sent ∧
      (r.dispatch b s x).1 = .error e := by
  obtain ⟨x, hx⟩ := r.exists_ends s
  obtain ⟨events, hevents⟩ := hx.dispatch_eq
  rw [hevents]
  rcases (hx.settles hkind hends b).logged events with ⟨response, hanswers⟩ | ⟨e, he, hfails⟩
  · exact Or.inl ⟨response.status, response.headers, response.body, hanswers⟩
  · exact Or.inr ⟨e, he, hfails⟩

end Router

namespace Site

theorem leads_posts {e : Endpoint} (h : posts.Leads e) : e = page := by
  have hholds {e : Endpoint} (he : posts.Holds e) : e = page := by
    rcases he with ⟨n, hn, he⟩ | he
    · obtain rfl := List.mem_singleton.mp hn
      exact (Option.some.inj he).symm
    · cases he
  cases h with
  | here he => exact hholds he
  | onward he ht _ =>
      obtain rfl := hholds he
      cases ht

theorem leads_root {e : Endpoint} (h : root.Leads e) : e = users.target ∨ e = page := by
  have hholds {e : Endpoint} (he : root.Holds e) : e = users.target := by
    rcases he with ⟨n, hn, he⟩ | he
    · obtain rfl := List.mem_singleton.mp hn
      exact (Option.some.inj he).symm
    · cases he
  cases h with
  | here he => exact Or.inl (hholds he)
  | onward he ht h =>
      obtain rfl := hholds he
      cases ht
      exact Or.inr (leads_posts h)

/-- A channel that takes one message gets the beginning of the page. -/
theorem answers_once_site : ∃ status headers,
    (root.dispatch Echo.bindings visit (.new [.lifecycleStop] (some 1))).2.sent =
      [.responseStart status headers] ∧
    (root.dispatch Echo.bindings visit (.new [.lifecycleStop] (some 1))).2.inbound =
      [.lifecycleStop] ∧
    (root.dispatch Echo.bindings visit (.new [.lifecycleStop] (some 1))).1 =
      .error (.channel .closed) := by
  have hends (e : Endpoint) (h : root.Leads e) :
      e.isFunction = true ∨ ∃ inner, e.target = .router inner := by
    rcases leads_root h with rfl | rfl
    · exact Or.inr ⟨posts, rfl⟩
    · exact Or.inl rfl
  rcases Router.answers_once Echo.bindings root visit rfl hends with
    ⟨status, headers, body, hanswers⟩ | ⟨e, _, hfails⟩
  · obtain ⟨hinbound, hsent, hresult⟩ := hanswers (.new [.lifecycleStop] (some 1))
    exact ⟨status, headers, hsent, hinbound, hresult⟩
  · -- the page is called, and its handler has a response
    obtain ⟨trail, s', hcalls, _, _⟩ := calls_page
    obtain ⟨events, hevents⟩ := hcalls.dispatch_eq
    have hresult := (hfails (.new [] none)).2.2
    rw [hevents] at hresult
    cases hresult

end Site

end Waymark
