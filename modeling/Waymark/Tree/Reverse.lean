import Waymark.Template.Filling
import Waymark.Text.Cut
import Waymark.UrlPath

/-!
# Reverse lookup

From a name and parameters back to a path. A route answers to its own name and
takes exactly the parameters of its holes. A subtree fills its own holes first
and asks its nodes, in order, with what is left; below a named subtree names
are written `own:name`. A named subtree also answers to its own name alone:
the parameter `path` is then the rest of the path, as it is.
-/

namespace Waymark

/-- No node resolves a name with the given parameters. -/
structure NoMatchFound where
  name : String
  deriving DecidableEq

def NoMatchFound.message (e : NoMatchFound) : String :=
  "no route matches name '" ++ e.name ++ "' with the given parameters"

/-- Whether every hole but `skip` has a value. -/
def Template.covered (t : Template) (params : Params) (skip : Option String) : Bool :=
  t.names.all fun n => some n == skip || params.contains n

/-- The name by which the nodes of a subtree are asked. -/
def residualName? (own : Option String) (name : String) : Option String :=
  match own with
  | none => some name
  | some own => (Text.after? (own.toList ++ [':']) name.toList).map String.ofList

namespace Route

/-- Whether the name is the route's and the parameters are those of its holes. -/
def answersTo (r : Route) (name : String) (params : Params) : Bool :=
  name == r.name && params.size == r.template.names.length && r.template.covered params none

def urlPath? (r : Route) (name : String) (params : Params) : Option UrlPath :=
  if r.answersTo name params then
    match r.template.fill params none with
    | .ok (path, _) => some ⟨path, some r.protocol, none⟩
    | .error _ => none
  else none

end Route

namespace Mount

/-- Whether the mount is asked for as a whole. -/
def isWhole (m : Mount) (name : String) (params : Params) : Bool :=
  m.name == some name && params.contains rest

/-- The path of the mount as a whole. -/
def wholePath? (m : Mount) (params : Params) : Option UrlPath :=
  let bare := Text.dropLeading '/' (((params.get? rest).map Value.text).getD "")
  let params := params.insert rest (.str bare)
  match m.template.fill params none with
  | .ok (path, left) =>
    if left.isEmpty && m.template.covered params (some rest) then some ⟨path, none, none⟩ else none
  | .error _ => none

/-- The path of the mount itself, and the name and the parameters for the nodes below it. -/
def delegate? (m : Mount) (name : String) (params : Params) :
    Option (String × String × Params) := do
  let residual ← residualName? m.name name
  if !m.template.covered params (some rest) then none
  match m.template.fill params (some rest) with
  | .error _ => none
  | .ok (text, left) =>
    let left := match params.get? rest with
      | some value => left.insert rest value
      | none => left
    return (Text.dropTrailing '/' text, residual, left)

end Mount

namespace HostGate

def isWhole (h : HostGate) (name : String) (params : Params) : Bool :=
  h.name == some name && params.contains Mount.rest

/-- The path of the gate as a whole, behind its host. -/
def wholePath? (h : HostGate) (params : Params) : Option UrlPath :=
  let path := ((params.get? Mount.rest).map Value.text).getD ""
  let params := params.erase Mount.rest
  match h.template.fill params none with
  | .ok (host, left) =>
    if left.isEmpty && h.template.covered params none then some ⟨path, none, some host⟩ else none
  | .error _ => none

/-- The host, and the name and the parameters for the nodes behind it. -/
def delegate? (h : HostGate) (name : String) (params : Params) :
    Option (String × String × Params) := do
  let residual ← residualName? h.name name
  if !h.template.covered params none then none
  match h.template.fill params none with
  | .error _ => none
  | .ok (host, left) => return (host, residual, left)

end HostGate

mutual

/-- The path of the first node that resolves the name. -/
def Router.urlPath? : Router → String → Params → Option UrlPath
  | ⟨nodes, _, _, _⟩, name, params => Node.firstUrlPath? nodes name params

/-- The path that the nodes below an endpoint resolve the name to. -/
def Endpoint.urlPath? : Endpoint → String → Params → Option UrlPath
  | ⟨_, _, .router r⟩, name, params => r.urlPath? name params
  | ⟨_, _, _⟩, _, _ => none

def Mount.urlPath? : Mount → String → Params → Option UrlPath
  | ⟨path, template, target, own⟩, name, params =>
    let m : Mount := ⟨path, template, target, own⟩
    if m.isWhole name params then m.wholePath? params
    else match m.delegate? name params with
      | none => none
      | some (stem, residual, left) =>
        (target.urlPath? residual left).map fun u => { u with path := stem ++ u.path }

def HostGate.urlPath? : HostGate → String → Params → Option UrlPath
  | ⟨template, target, own⟩, name, params =>
    let h : HostGate := ⟨template, target, own⟩
    if h.isWhole name params then h.wholePath? params
    else match h.delegate? name params with
      | none => none
      | some (host, residual, left) =>
        (target.urlPath? residual left).map fun u => { u with host := some host }

def Node.urlPath? : Node → String → Params → Option UrlPath
  | .route r, name, params => r.urlPath? name params
  | .mount m, name, params => m.urlPath? name params
  | .host h, name, params => h.urlPath? name params
  | .lifespan _, _, _ => none

def Node.firstUrlPath? : List Node → String → Params → Option UrlPath
  | [], _, _ => none
  | n :: ns, name, params => n.urlPath? name params <|> Node.firstUrlPath? ns name params

end

end Waymark
