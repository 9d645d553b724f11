import Waymark.Log.Event
import Waymark.Tree.Reverse

/-!
# Refused parameters

A reverse lookup asks nodes in order. A route that answers to the name but
whose converters do not take the parameters is noted in the log, and the
search goes on. This module gives the notes of a search.
-/

namespace Waymark

def refusedParameter : Log.Event :=
  ⟨.debug, "tramline::router::node", "Parameter rejected by converter",
    ["message", "route_name", "error"]⟩

def Route.refusals (r : Route) (name : String) (params : Params) : List Log.Event :=
  if r.answersTo name params && (r.urlPath? name params).isNone then [refusedParameter] else []

mutual

def Router.refusals : Router → String → Params → List Log.Event
  | ⟨nodes, _, _, _⟩, name, params => Node.allRefusals nodes name params

def Endpoint.refusals : Endpoint → String → Params → List Log.Event
  | ⟨_, _, .router r⟩, name, params => r.refusals name params
  | ⟨_, _, _⟩, _, _ => []

def Mount.refusals : Mount → String → Params → List Log.Event
  | ⟨path, template, target, own⟩, name, params =>
    let m : Mount := ⟨path, template, target, own⟩
    if m.isWhole name params then []
    else match m.delegate? name params with
      | none => []
      | some (_, residual, left) => target.refusals residual left

def HostGate.refusals : HostGate → String → Params → List Log.Event
  | ⟨template, target, own⟩, name, params =>
    let h : HostGate := ⟨template, target, own⟩
    if h.isWhole name params then []
    else match h.delegate? name params with
      | none => []
      | some (_, residual, left) => target.refusals residual left

def Node.refusals : Node → String → Params → List Log.Event
  | .route r, name, params => r.refusals name params
  | .mount m, name, params => m.refusals name params
  | .host h, name, params => h.refusals name params
  | .lifespan _, _, _ => []

/-- The notes of the nodes up to the first that resolves the name. -/
def Node.allRefusals : List Node → String → Params → List Log.Event
  | [], _, _ => []
  | n :: ns, name, params =>
    n.refusals name params ++
      if (n.urlPath? name params).isSome then [] else Node.allRefusals ns name params

end

end Waymark
