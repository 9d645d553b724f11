import Waymark.Template.Basic

/-!
# Routing trees

A router is an ordered list of nodes. A route leads to an endpoint; a mount
and a host gate lead to an endpoint below a path or behind a host name, which
is usually a router again; a lifespan serves the lifecycle. A tree is plain
data: functions and applications are known by their handles, and what they do
is given to the functions that run a tree.
-/

namespace Waymark

/-- The identity of a function, an application or a lifespan's state. -/
structure Handle where
  address : List Nat
  deriving DecidableEq

/-- The protocol that a route serves. -/
inductive Protocol where
  | http
  | socket
  deriving DecidableEq

namespace Protocol

def name : Protocol → String
  | .http => "http"
  | .socket => "socket"

def outline : Protocol → String
  | .http => "Http"
  | .socket => "Socket"

/-- The scheme of URLs for the protocol. -/
def scheme : Protocol → (secure : Bool) → String
  | .http, false => "http"
  | .http, true => "https"
  | .socket, false => "ws"
  | .socket, true => "wss"

end Protocol

/-- Handlers of the lifecycle in the order in which they run. Copies of a lifespan share their
state, which is known by the handle `cell`. -/
structure Lifespan where
  startup : List Handle
  shutdown : List Handle
  cell : Handle
  deriving DecidableEq

mutual

/-- Nodes in the order in which they are tried, and what is done when none of them matches. -/
structure Router where
  nodes : List Node
  /-- Whether a path that only lacks or has a slash too many is redirected. -/
  redirectSlashes : Bool
  fallback : Option Endpoint
  lifespan : Lifespan

/-- What a scope can be handed to, with the name it is known by. -/
structure Endpoint where
  name : String
  handle : Handle
  target : Target

inductive Target where
  /-- Answers a request in place. -/
  | handler
  /-- Answers a request on the worker pool. -/
  | blocking
  /-- Converses on a socket. -/
  | session
  /-- Owns the whole exchange. An application that shows nodes to route over is not one of
  these but a `router`. -/
  | app
  | router (nested : Router)

/-- A leaf: a template for the whole path. -/
structure Route where
  template : Template
  endpoint : Endpoint
  name : String
  /-- The accepted methods in order; `none` accepts every method. -/
  methods : Option (List String)
  protocol : Protocol
  includeInSchema : Bool

/-- A subtree below a path prefix. The template is the prefix and a last hole for the rest. -/
structure Mount where
  /-- The prefix, without slashes at its end. -/
  path : String
  template : Template
  target : Endpoint
  name : Option String

/-- A subtree behind a host name. -/
structure HostGate where
  template : Template
  target : Endpoint
  name : Option String

inductive Node where
  | route (route : Route)
  | mount (mount : Mount)
  | host (host : HostGate)
  | lifespan (lifespan : Lifespan)

end

/-! ## Endpoints -/

namespace Endpoint

/-- Whether the endpoint is a function from requests to responses. -/
def isFunction (e : Endpoint) : Bool :=
  match e.target with
  | .handler => true
  | .blocking => true
  | _ => false

/-- The nodes that the endpoint routes over. Routers are the only applications that show any. -/
def nodes? (e : Endpoint) : Option (List Node) :=
  match e.target with
  | .router r => some r.nodes
  | _ => none

/-- Endpoints are the same if they have one name and one identity. -/
def same (e f : Endpoint) : Bool := e.name == f.name && e.handle == f.handle

/-- An endpoint that is a router. -/
def ofRouter (handle : Handle) (r : Router) : Endpoint := ⟨"Router", handle, .router r⟩

end Endpoint

/-! ## Nodes -/

namespace Route

def path (r : Route) : String := r.template.source

/-- Routes are the same if they lead from the same path by the same methods to the same
endpoint; whether they are in the schema makes no difference. -/
def same (r s : Route) : Bool :=
  r.path == s.path && r.name == s.name && r.endpoint.same s.endpoint &&
    r.methods == s.methods && r.protocol == s.protocol

end Route

namespace Mount

/-- The name of the hole for the rest of the path. -/
def rest : String := "path"

/-- The prefix with the kinds of its holes erased. -/
def prefixFormat (m : Mount) : String :=
  let format := m.template.format.toList
  let tail := "/\x7bpath\x7d".toList
  if tail.isSuffixOf format then String.ofList (format.take (format.length - tail.length))
  else String.ofList format

def same (m n : Mount) : Bool :=
  m.path == n.path && m.name == n.name && m.target.same n.target

end Mount

namespace HostGate

def host (h : HostGate) : String := h.template.source

def same (h g : HostGate) : Bool :=
  h.host == g.host && h.name == g.name && h.target.same g.target

end HostGate

namespace Lifespan

/-- Lifespans are the same if they have the same handlers. -/
def same (l m : Lifespan) : Bool := l.startup == m.startup && l.shutdown == m.shutdown

/-- A lifespan without handlers. -/
def empty (cell : Handle) : Lifespan := ⟨[], [], cell⟩

end Lifespan

namespace Node

def name? : Node → Option String
  | .route r => some r.name
  | .mount m => m.name
  | .host h => h.name
  | .lifespan _ => none

/-- The nodes below a node, if it leads to a router. -/
def children? : Node → Option (List Node)
  | .mount m => m.target.nodes?
  | .host h => h.target.nodes?
  | .route _ => none
  | .lifespan _ => none

def same : Node → Node → Bool
  | .route r, .route s => r.same s
  | .mount m, .mount n => m.same n
  | .host h, .host g => h.same g
  | .lifespan l, .lifespan m => l.same m
  | _, _ => false

end Node

/-- Routers are the same if they have the same nodes and treat slashes alike. -/
def Router.same (r s : Router) : Bool :=
  r.nodes.length == s.nodes.length && (r.nodes.zip s.nodes).all (fun (a, b) => a.same b) &&
    r.redirectSlashes == s.redirectSlashes

end Waymark
