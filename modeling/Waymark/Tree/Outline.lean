import Waymark.Lifespan.State
import Waymark.Scope

/-!
# Outlines of trees and scopes

The one-line texts of nodes, routers and scopes in diagnostics. An endpoint is
shown by its name and kind, so an outline does not go into nested routers. The
states of lifespans are not part of a tree and have to be given.
-/

namespace Waymark

open Text (quoted)
open Text.Outline

def boolText (b : Bool) : String := if b then "true" else "false"

namespace Endpoint

def kindName (e : Endpoint) : String :=
  match e.target with
  | .handler => "handler"
  | .blocking => "blocking"
  | .session => "session"
  | .app => "app"
  | .router _ => "app"

def outline (e : Endpoint) : String :=
  record "Endpoint" [("name", quoted e.name), ("kind", quoted e.kindName)]

end Endpoint

namespace Route

def outline (r : Route) : String :=
  record "Route"
    [("path", quoted r.path), ("compiled", r.template.outline), ("endpoint", r.endpoint.outline),
      ("name", quoted r.name),
      ("methods", option (r.methods.map fun ms => set (ms.map quoted))),
      ("protocol", r.protocol.outline), ("include_in_schema", boolText r.includeInSchema)]

end Route

namespace Mount

def outline (m : Mount) : String :=
  record "Mount"
    [("path", quoted m.path), ("compiled", m.template.outline), ("target", m.target.outline),
      ("name", option (m.name.map quoted))]

end Mount

namespace HostGate

def outline (h : HostGate) : String :=
  record "Host"
    [("host", quoted h.host), ("compiled", h.template.outline), ("target", h.target.outline),
      ("name", option (h.name.map quoted))]

end HostGate

namespace Lifespan

def outline (l : Lifespan) (state : LifespanState) : String :=
  record "Lifespan"
    [("startup", toString l.startup.length), ("shutdown", toString l.shutdown.length),
      ("state", state.outline)]

end Lifespan

namespace Node

def outline (stateOf : Handle → LifespanState) : Node → String
  | .route r => "Route(" ++ r.outline ++ ")"
  | .mount m => "Mount(" ++ m.outline ++ ")"
  | .host h => "Host(" ++ h.outline ++ ")"
  | .lifespan l => "Lifespan(" ++ l.outline (stateOf l.cell) ++ ")"

end Node

namespace Router

def outline (stateOf : Handle → LifespanState) (r : Router) : String :=
  record "Router"
    [("nodes", list (r.nodes.map (·.outline stateOf))),
      ("redirect_slashes", boolText r.redirectSlashes),
      ("default", option (r.fallback.map Endpoint.outline)),
      ("lifespan", r.lifespan.outline (stateOf r.lifespan.cell))]

end Router

namespace Scope

def outline (s : Scope) : String :=
  openRecord "Scope"
    [("kind", s.kind.outline), ("method", option s.method), ("path", quoted s.path),
      ("root_path", quoted s.rootPath), ("path_params", s.params.outline),
      ("endpoint", option (s.endpoint.map Endpoint.outline)),
      ("request_id", "RequestId(Ulid(" ++ toString s.requestId.value.val ++ "))"),
      ("bound", boolText s.bound)]

end Scope

end Waymark
