/-!
# Commands

What the program can be asked for: the listing of a route table, the answer to
one request or socket session, and the path of a name.
-/

namespace Waymark

/-- A request or a session to be dispatched. -/
structure Inquiry where
  method : String
  path : String
  host : Option String
  query : String
  /-- Whether a socket session is opened instead of sending a request. -/
  socket : Bool
  /-- The frames to deliver over the session. -/
  frames : List String
  deriving DecidableEq

/-- A command on the route table in a file. -/
inductive Command where
  /-- Lists the tree, or the operations of the schema. -/
  | list (table : String) (schema : Bool)
  | dispatch (table : String) (inquiry : Inquiry)
  /-- Looks a name up, with the parameters as `KEY=VALUE`, against a base if there is one. -/
  | reverse (table : String) (name : String) (params : List String) (base : Option String)
  deriving DecidableEq

/-- The file that the command reads its table from. -/
def Command.table : Command → String
  | .list table _ => table
  | .dispatch table _ => table
  | .reverse table _ _ _ => table

end Waymark
