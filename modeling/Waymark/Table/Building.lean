import Waymark.Table.Basic
import Waymark.Tree.Dispatch
import Waymark.Tree.Registration
import Waymark.Echo
import Waymark.Text.Quoted

/-!
# Building the tree of a table

An entry describes a node when it sets exactly one of path, socket, mount and
host, has entries below it only as a mount or a host gate, and methods only as
a path. The routes lead to echoes. The entries are taken in order and depth
first; the first that is ill-formed or is refused at registration ends the
building, and the nested routers built by then have been noted in the log.
-/

namespace Waymark

/-- What an entry describes. -/
inductive EntryKind where
  | path (path : String)
  | socket (path : String)
  | mount (path : String)
  | host (host : String)
  deriving DecidableEq

namespace EntryKind

/-- Whether entries may stand below one of that kind. -/
def isNesting : EntryKind → Bool
  | .mount _ => true
  | .host _ => true
  | _ => false

def isPath : EntryKind → Bool
  | .path _ => true
  | _ => false

end EntryKind

namespace RouteEntry

/-- What the entry describes, if it sets exactly one target. -/
def kind? (e : RouteEntry) : Option EntryKind :=
  match e.path, e.socket, e.mount, e.host with
  | some p, none, none, none => some (.path p)
  | none, some p, none, none => some (.socket p)
  | none, none, some p, none => some (.mount p)
  | none, none, none, some h => some (.host h)
  | _, _, _, _ => none

/-- What is wrong with the shape of an entry. -/
inductive ShapeError where
  | targets (name : Option String)
  | nested
  | methods
  deriving DecidableEq

def ShapeError.message : ShapeError → String
  | .targets name => "route entry " ++ Text.quoted (name.getD "<unnamed>") ++
      " must set exactly one of path, socket, mount or host"
  | .nested => "only mount and host entries may carry nested routes"
  | .methods => "methods apply to path entries only"

/-- What the entry describes, if its other fields go with it. -/
def shape (e : RouteEntry) : Except ShapeError EntryKind :=
  match e.kind? with
  | none => .error (.targets e.name)
  | some kind =>
    if !kind.isNesting && !e.routes.isEmpty then .error .nested
    else if e.methods.isSome && !kind.isPath then .error .methods
    else .ok kind

end RouteEntry

/-- A step of building a tree, which notes in the log what it has built. -/
abbrev Building := ExceptT Failure (StateM (List Log.Event))

namespace Building

/-- Registration within a reason that says what was registered. -/
def register (reason : String) (r : Except RouteError α) : Building α :=
  match r with
  | .ok a => pure a
  | .error e => throw (Failure.within ⟨[e.message]⟩ reason)

def built : Log.Event :=
  ⟨.info, Dispatch.routerSource, "Routing table built",
    ["message", "nodes", "redirect_slashes", "startup_handlers", "shutdown_handlers"]⟩

def note (e : Log.Event) : Building Unit := modify fun log => log ++ [e]

/-- The route of a path entry. -/
def pathRoute (handle : Handle) (e : RouteEntry) (path : String) : Building Route := do
  let endpoint : Endpoint := ⟨e.name.getD Echo.handlerName, handle, .handler⟩
  let r ← register ("Invalid route " ++ path) (Route.new .builtin path endpoint .http)
  let r := { r with includeInSchema := e.includeInSchema }
  match e.methods with
  | none => return r
  | some methods =>
    match r.withMethods methods with
    | .ok r => return r
    | .error error => throw ⟨[error.message]⟩

/-- The route of a socket entry, which is always in the schema. -/
def socketRoute (handle : Handle) (e : RouteEntry) (path : String) : Building Route :=
  let endpoint : Endpoint := ⟨e.name.getD Echo.sessionName, handle, .session⟩
  register ("Invalid socket route " ++ path) (Route.new .builtin path endpoint .socket)

/-- An endpoint that routes over the nodes. -/
def nested (handle : Handle) (nodes : List Node) : Building Endpoint := do
  note built
  return .ofRouter handle (.ofNodes handle nodes)

mutual

/-- The node of an entry. Its handles are made from its place in the table. -/
def node : (place : List Nat) → RouteEntry → Building Node
  | place, ⟨path, socket, mount, host, name, methods, schema, routes⟩ => do
    let e : RouteEntry := ⟨path, socket, mount, host, name, methods, schema, routes⟩
    match e.shape with
    | .error error => throw ⟨[error.message]⟩
    | .ok (.path path) => return .route (← pathRoute ⟨place⟩ e path)
    | .ok (.socket path) => return .route (← socketRoute ⟨place⟩ e path)
    | .ok (.mount path) =>
      let target ← nested ⟨place⟩ (← nodes place 0 routes)
      let m ← register ("Invalid mount " ++ path) (Mount.new .builtin path target)
      return .mount { m with name := name }
    | .ok (.host host) =>
      let target ← nested ⟨place⟩ (← nodes place 0 routes)
      let h ← register ("Invalid host " ++ host) (HostGate.new .builtin host target)
      return .host { h with name := name }
  termination_by structural _ e => e

/-- The nodes of the entries below a place, the first of which has the given index. -/
def nodes : (place : List Nat) → (index : Nat) → List RouteEntry → Building (List Node)
  | _, _, [] => return []
  | place, index, e :: es => do
    let n ← node (place ++ [index]) e
    return n :: (← nodes place (index + 1) es)
  termination_by structural _ _ es => es

end

end Building

namespace RouteTable

/-- The place of the tree itself. -/
def root : List Nat := [0]

def router (t : RouteTable) : Building Router := do
  let nodes ← Building.nodes root 0 t.routes
  Building.note Building.built
  return ⟨nodes, t.runtime.redirectSlashes, none, .empty ⟨root⟩⟩

/-- The tree that the table describes, or why there is none, and what was noted in the log. -/
def build (t : RouteTable) : Except Failure Router × List Log.Event := t.router.run.run []

end RouteTable

end Waymark
