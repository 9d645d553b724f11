import Waymark.RuntimeConfig

/-!
# Route tables

A tree described by data: entries for routes, mounts and host gates, and the
settings of the process that serves it. An entry may be ill-formed; whether it
describes a node is decided when the tree is built.
-/

namespace Waymark

structure RouteEntry where
  path : Option String
  socket : Option String
  mount : Option String
  host : Option String
  name : Option String
  /-- The methods of a request route; without them it serves `GET`. -/
  methods : Option (List String)
  includeInSchema : Bool
  /-- The entries below a mount or a host gate. -/
  routes : List RouteEntry

structure RouteTable where
  runtime : RuntimeConfig
  routes : List RouteEntry

end Waymark
