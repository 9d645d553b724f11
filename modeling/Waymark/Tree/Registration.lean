import Waymark.Text.Ascii
import Waymark.Tree.Basic

/-!
# Building trees

Each node compiles its template when it is built, so a faulty one is refused at
registration. Routed paths start with a slash; the prefix of a mount may also be
empty and loses the slashes at its end.
-/

namespace Waymark

/-- Puts a text into an ordered list without duplicates. -/
def insertSorted (s : String) : List String → List String
  | [] => [s]
  | t :: ts => if s = t then t :: ts else if s < t then s :: t :: ts else t :: insertSorted s ts

def startsWithSlash (path : String) : Bool := path.toList.head? == some '/'

/-- A method or header name: at least one character, all of them token characters. -/
def isToken (s : String) : Bool := !s.isEmpty && s.toList.all Text.isTokenChar

namespace Route

/-- A route. A function serves `GET` and `HEAD` until methods are given; every other endpoint
of a request route serves all methods. -/
def new (registry : Registry) (path : String) (endpoint : Endpoint) (protocol : Protocol) :
    Except RouteError Route := do
  if !startsWithSlash path then throw (.relativePath path)
  let template ← Template.compile registry path
  let methods := if protocol = .http && endpoint.isFunction then some ["GET", "HEAD"] else none
  return ⟨template, endpoint, endpoint.name, methods, protocol, true⟩

/-- The methods in order, in capitals and without duplicates. -/
def methodSet : List String → Except RouteError (List String)
  | [] => .ok []
  | m :: ms => do
    if !isToken m then throw (.invalidMethod m)
    return insertSorted (Text.upper m) (← methodSet ms)

/-- Restricts the route to methods; who may `GET` may also ask for the `HEAD`. -/
def withMethods (r : Route) (methods : List String) : Except RouteError Route := do
  let set ← methodSet methods
  return { r with methods := some (if set.contains "GET" then insertSorted "HEAD" set else set) }

/-- Lets the route accept every method. -/
def anyMethod (r : Route) : Route := { r with methods := none }

def named (r : Route) (name : String) : Route := { r with name := name }

end Route

namespace Mount

def new (registry : Registry) (path : String) (target : Endpoint) : Except RouteError Mount := do
  if !(path.isEmpty || startsWithSlash path) then throw (.relativePath path)
  let stem := Text.dropTrailing '/' path
  let template ← Template.compile registry (stem ++ "/\x7bpath:path\x7d")
  return ⟨stem, template, target, none⟩

def named (m : Mount) (name : String) : Mount := { m with name := some name }

end Mount

namespace HostGate

def new (registry : Registry) (host : String) (target : Endpoint) : Except RouteError HostGate := do
  return ⟨← Template.compile registry host, target, none⟩

def named (h : HostGate) (name : String) : HostGate := { h with name := some name }

end HostGate

/-- A router over nodes with the usual settings. -/
def Router.ofNodes (cell : Handle) (nodes : List Node) : Router :=
  ⟨nodes, true, none, .empty cell⟩

end Waymark
