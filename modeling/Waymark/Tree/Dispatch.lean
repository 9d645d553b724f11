import Waymark.Lifespan.Handshake
import Waymark.Request
import Waymark.Session
import Waymark.Tree.Matching
import Waymark.WorkerPool

/-!
# Dispatching

A router hands a scope to the first node that matches in full; if there is
none, to the first that matches in part. If no node matches at all, a request
may be redirected to the path with the slash at its end added or removed, the
router's lifespan serves the lifecycle, and everything else goes to the
fallback endpoint or is answered as not found.

The scope that a node gets has the node's contribution laid over it. A nested
router starts over with that scope.
-/

namespace Waymark

/-- What the handles of a tree stand for.

A job for the pool may panic, and the pool reports it. Handlers run in place and nothing catches
a panic of theirs, nor of the hooks of a lifespan: both are taken to return. -/
structure Bindings where
  handler : Handle → Request → Except Failure Response
  blocking : Handle → Request → Outcome (Except Failure Response)
  session : Handle → Session → Action Failure Unit
  app : Handle → Scope → Action DispatchError Unit
  hook : Handle → Lifespan.Hook
  /-- Whether the pool for blocking handlers has workers. -/
  poolOpen : Bool

namespace Dispatch

/-! ## Log events -/

def routerSource : String := "tramline::router::core"

def nodeSource : String := "tramline::router::node"

def callSource : String := "tramline::dispatcher::core"

def attempt : Log.Event :=
  ⟨.debug, routerSource, "Route match attempt",
    ["message", "request_id", "kind", "method", "path", "root_path", "nodes"]⟩

def matched : Log.Event :=
  ⟨.debug, routerSource, "Route matched",
    ["message", "request_id", "path", "route_name", "duration_us"]⟩

def fallBack : Log.Event :=
  ⟨.info, routerSource, "Dispatching partial match",
    ["message", "request_id", "method", "path", "route_name"]⟩

def redirecting : Log.Event :=
  ⟨.info, routerSource, "Redirecting to toggled trailing slash",
    ["message", "request_id", "path", "location"]⟩

def unmatched : Log.Event :=
  ⟨.warn, routerSource, "No route matched",
    ["message", "request_id", "method", "path", "duration_us"]⟩

def undecodable : Log.Event :=
  ⟨.warn, nodeSource, "Capture matched pattern but failed to decode",
    ["message", "template", "subject", "error"]⟩

def refused : Log.Event :=
  ⟨.debug, nodeSource, "Method not allowed",
    ["message", "request_id", "route_name", "method", "path"]⟩

def started : Log.Event :=
  ⟨.debug, callSource, "Handler execution start",
    ["message", "request_id", "handler_name", "path_params"]⟩

def completed : Log.Event :=
  ⟨.info, callSource, "Handler execution complete",
    ["message", "request_id", "handler_name", "execution_time_ms"]⟩

/-- The warnings of verdicts up to the first that ends the search. -/
def warnings (ends : Verdict → Bool) (vs : List Verdict) : List Log.Event :=
  (vs.takeWhile (!ends ·)).filterMap fun
    | .undecodable _ => some undecodable
    | _ => none

/-! ## Choosing a node -/

/-- The place of the node that serves a scope, and what it adds. -/
structure Choice where
  index : Nat
  verdict : Verdict

def firstOf (level : Match) (vs : List Verdict) : Option Choice :=
  (vs.zipIdx.find? fun (v, _) => v.level == level).map fun (v, i) => ⟨i, v⟩

/-- The first full verdict, or else the first partial one. -/
def choose? (vs : List Verdict) : Option Choice := firstOf .full vs <|> firstOf .partly vs

/-- The path with a slash added at its end, or with all slashes there removed. -/
def toggled (path : String) : String :=
  if path.toList.getLast? = some '/' then Text.dropTrailing '/' path else path ++ "/"

/-- The scope to which a request that no node matches may be redirected. -/
def candidate? (redirectSlashes : Bool) (s : Scope) : Option Scope :=
  if s.kind = .request ∧ redirectSlashes ∧ s.path ≠ "/" then some (s.withPath (toggled s.path))
  else none

end Dispatch

/-- Sends a response. -/
def Response.send (r : Response) : Action DispatchError Unit :=
  (Action.sendAll r.messages).mapError .channel

/-- The answer to a scope that nothing serves. -/
def Scope.refuse (s : Scope) : Action DispatchError Unit :=
  if s.kind = .socket then (Session.close 1000).mapError .channel
  else if s.bound then throw (.notFound s.path)
  else (Response.text 404 "Not Found").send

/-- The answer to a method that the route does not serve. -/
def Route.refuse (r : Route) (s : Scope) : Action DispatchError Unit := do
  Action.log Dispatch.refused
  if s.bound then throw (.methodNotAllowed (s.method.getD "") s.path)
  let response := Response.text 405 "Method Not Allowed"
  (match r.methods with
    | some methods => response.setHeader "allow" (Text.joined ", " methods)
    | none => response).send

open Dispatch in
mutual

/-- Serves a scope. -/
def Router.dispatch (b : Bindings) : Router → Scope → Action DispatchError Unit
  | ⟨nodes, redirectSlashes, fallback, lifespan⟩, scope => do
    let scope := { scope with
      router := scope.router <|> some ⟨nodes, redirectSlashes, fallback, lifespan⟩ }
    Action.log attempt
    let verdicts := nodes.map (·.verdict scope)
    Action.logAll (warnings (·.level == .full) verdicts)
    match choose? verdicts with
    | some choice =>
      Action.log (if choice.verdict.level = .full then matched else fallBack)
      Node.handleAt b nodes choice.index (scope.derive choice.verdict.child)
    | none =>
      let candidate := candidate? redirectSlashes scope
      let others := match candidate with
        | some s => nodes.map (·.verdict s)
        | none => []
      Action.logAll (warnings (·.matched) others)
      match candidate, others.any (·.matched) with
      | some s, true =>
        Action.log redirecting
        (Response.redirect s.url).send
      | _, _ =>
        if scope.kind = .lifecycle then lifespan.serve b.hook
        else
          Action.log unmatched
          match fallback with
          | some e => e.call b scope
          | none => scope.refuse
  termination_by structural r => r

/-- Hands a scope to an endpoint. -/
def Endpoint.call (b : Bindings) : Endpoint → Scope → Action DispatchError Unit
  | ⟨name, handle, target⟩, scope => do
    Action.log started
    target.run b name handle scope

def Target.run (b : Bindings) : Target → (name : String) → Handle → Scope →
    Action DispatchError Unit
  | .handler, name, handle, scope => do
    match b.handler handle ⟨scope⟩ with
    | .ok response => response.send
    | .error failure => throw (.handler name failure)
    Action.log completed
  | .blocking, name, handle, scope => do
    match WorkerPool.report b.poolOpen name (b.blocking handle ⟨scope⟩) with
    | .ok (.ok response) => response.send
    | .ok (.error failure) => throw (.handler name failure)
    | .error e => throw e
    Action.log completed
  | .session, name, handle, scope => do
    (b.session handle ⟨scope⟩).mapError (.handler name)
    Action.log completed
  | .app, _, handle, scope => b.app handle scope
  | .router r, _, _, scope => r.dispatch b scope

/-- Serves a scope by a node that matched it. -/
def Node.handle (b : Bindings) : Node → Scope → Action DispatchError Unit
  | .route r, scope => r.handle b scope
  | .mount m, scope => m.handle b scope
  | .host h, scope => h.handle b scope
  | .lifespan l, _ => l.serve b.hook

def Route.handle (b : Bindings) : Route → Scope → Action DispatchError Unit
  | ⟨template, endpoint, name, methods, protocol, includeInSchema⟩, scope =>
    let r : Route := ⟨template, endpoint, name, methods, protocol, includeInSchema⟩
    if r.refusesMethod scope then r.refuse scope else endpoint.call b scope

def Mount.handle (b : Bindings) : Mount → Scope → Action DispatchError Unit
  | ⟨_, _, target, _⟩, scope => target.call b scope

def HostGate.handle (b : Bindings) : HostGate → Scope → Action DispatchError Unit
  | ⟨_, target, _⟩, scope => target.call b scope

/-- Serves a scope by the node at a place of a list. -/
def Node.handleAt (b : Bindings) : List Node → Nat → Scope → Action DispatchError Unit
  | [], _, _ => pure ()
  | n :: _, 0, scope => n.handle b scope
  | _ :: ns, i + 1, scope => Node.handleAt b ns i scope

end

end Waymark
