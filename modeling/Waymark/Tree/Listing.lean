import Waymark.Tree.Outline

/-!
# Listings of trees

A tree in lines, one for each node in depth-first order, indented by two blanks
for each router around it.
-/

namespace Waymark

/-- The methods of a route, or a star for any. -/
def Route.methodList (r : Route) : String :=
  match r.methods with
  | some methods => Text.joined "," methods
  | none => "*"

def Route.line (r : Route) : String :=
  r.protocol.outline ++ " " ++ r.methodList ++ " " ++ r.path ++ " -> " ++ r.name

/-- The name of a subtree in brackets, or a dash. -/
def bracketed (name : Option String) : String := "[" ++ name.getD "-" ++ "]"

def Mount.line (m : Mount) : String := "Mount " ++ m.path ++ "/ " ++ bracketed m.name

def HostGate.line (h : HostGate) : String := "Host " ++ h.host ++ " " ++ bracketed h.name

mutual

/-- The lines of the nodes below an endpoint. -/
def Endpoint.lines (stateOf : Handle → LifespanState) : Endpoint → (indent : String) → List String
  | ⟨_, _, .router r⟩, indent => r.lines stateOf indent
  | ⟨_, _, _⟩, _ => []

def Router.lines (stateOf : Handle → LifespanState) : Router → (indent : String) → List String
  | ⟨nodes, _, _, _⟩, indent => Node.allLines stateOf nodes indent

def Mount.lines (stateOf : Handle → LifespanState) : Mount → (indent : String) → List String
  | ⟨path, template, target, name⟩, indent =>
    (indent ++ Mount.line ⟨path, template, target, name⟩) :: target.lines stateOf (indent ++ "  ")

def HostGate.lines (stateOf : Handle → LifespanState) : HostGate → (indent : String) → List String
  | ⟨template, target, name⟩, indent =>
    (indent ++ HostGate.line ⟨template, target, name⟩) :: target.lines stateOf (indent ++ "  ")

def Node.lines (stateOf : Handle → LifespanState) : Node → (indent : String) → List String
  | .route r, indent => [indent ++ r.line]
  | .mount m, indent => m.lines stateOf indent
  | .host h, indent => h.lines stateOf indent
  | .lifespan l, indent => [indent ++ l.outline (stateOf l.cell)]

def Node.allLines (stateOf : Handle → LifespanState) : List Node → (indent : String) → List String
  | [], _ => []
  | n :: ns, indent => n.lines stateOf indent ++ Node.allLines stateOf ns indent

end

end Waymark
