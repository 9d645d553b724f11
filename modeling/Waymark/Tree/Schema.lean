import Waymark.Json.Printer
import Waymark.Tree.Basic

/-!
# The schema

The operations that a tree documents: one for each method of each request
route in the schema, under the path that leads to it. `HEAD` comes with `GET`
and is not listed.

Operations are made from the methods that a route declares. A route that takes
every method declares none, so it is missing here although it may be marked for
the schema.
-/

namespace Waymark

structure Operation where
  path : String
  method : String
  name : String
  deriving DecidableEq

namespace Operation

def toJson (o : Operation) : Json :=
  .obj [("path", .str o.path), ("method", .str o.method), ("name", .str o.name)]

end Operation

namespace Route

/-- The operations of a route below a prefix. -/
def operations (r : Route) (front : String) : List Operation :=
  if r.protocol = .http ∧ r.includeInSchema then
    ((r.methods.getD []).filter (· != "HEAD")).map fun m => ⟨front ++ r.template.format, m, r.name⟩
  else []

end Route

mutual

/-- The operations of the nodes below an endpoint. -/
def Endpoint.operations : Endpoint → String → List Operation
  | ⟨_, _, .router r⟩, front => r.operationsUnder front
  | ⟨_, _, _⟩, _ => []

def Router.operationsUnder : Router → String → List Operation
  | ⟨nodes, _, _, _⟩, front => Node.allOperations nodes front

def Mount.operations : Mount → String → List Operation
  | ⟨path, template, target, name⟩, front =>
    target.operations (front ++ Mount.prefixFormat ⟨path, template, target, name⟩)

def HostGate.operations : HostGate → String → List Operation
  | ⟨_, target, _⟩, front => target.operations front

def Node.operations : Node → String → List Operation
  | .route r, front => r.operations front
  | .mount m, front => m.operations front
  | .host h, front => h.operations front
  | .lifespan _, _ => []

def Node.allOperations : List Node → String → List Operation
  | [], _ => []
  | n :: ns, front => n.operations front ++ Node.allOperations ns front

end

/-- All operations of a tree. -/
def Router.operations (r : Router) : List Operation := r.operationsUnder ""

end Waymark
