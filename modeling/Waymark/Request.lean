import Waymark.Failure
import Waymark.Scope
import Waymark.Text.Percent
import Waymark.Tree.Reverse

/-!
# Requests

A request as its handler sees it: the scope it was matched with, the pairs of
its query, and paths looked up in the router that the dispatch began with.
-/

namespace Waymark

structure Request where
  scope : Scope

namespace Request

/-- Puts a pair into a list ordered by name, in place of one of the same name. -/
def putPair (name value : String) : List (String × String) → List (String × String)
  | [] => [(name, value)]
  | p :: ps =>
    if p.1 = name then (name, value) :: ps
    else if name < p.1 then (name, value) :: p :: ps
    else p :: putPair name value ps

/-- The pairs of the query ordered by name; the last value of a name counts. -/
def queryParams (r : Request) : List (String × String) :=
  (Text.Form.pairs r.scope.query).foldl (fun ps p => putPair p.1 p.2 ps) []

def param? (r : Request) (name : String) : Option Value := r.scope.params.get? name

def urlPath (r : Request) (name : String) (params : Params) : Except NoMatchFound UrlPath :=
  match r.scope.router.bind fun router => router.urlPath? name params with
  | some u => .ok u
  | none => .error ⟨name⟩

/-- The absolute URL of a name, against the root of the application. -/
def url (r : Request) (name : String) (params : Params) : Except Failure Url :=
  match r.urlPath name params with
  | .error e => .error ⟨[e.message]⟩
  | .ok u =>
    match u.absolute r.scope.baseUrl with
    | .error e => .error ⟨[e.message]⟩
    | .ok url => .ok url

end Request

end Waymark
