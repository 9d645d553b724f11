import Waymark.Scope
import Waymark.Template.Matching
import Waymark.Text.Utf8

/-!
# Matching nodes

A node judges a scope by itself. It matches in full when it is ready to serve
the scope, and in part when it knows the path but not the method. A capture
that fits its pattern but cannot be decoded makes the node not match; the
verdict keeps the reason, which is worth a warning.
-/

namespace Waymark

/-- How well a node matches. -/
inductive Match where
  | none
  | partly
  | full
  deriving DecidableEq

def Match.outline : Match → String
  | .none => "None"
  | .partly => "Partial"
  | .full => "Full"

/-- A node's judgement of a scope, with what it adds to the scope if it matches. -/
inductive Verdict where
  | none
  | undecodable (error : ConversionError)
  | partly (child : Contribution)
  | full (child : Contribution)

namespace Verdict

def level : Verdict → Match
  | .none => .none
  | .undecodable _ => .none
  | .partly _ => .partly
  | .full _ => .full

def matched (v : Verdict) : Bool := v.level != .none

def child : Verdict → Contribution
  | .partly c => c
  | .full c => c
  | _ => {}

end Verdict

/-- Judges a subject by a template; `verdict` goes on with what was captured. -/
def Template.judge (t : Template) (subject : String) (verdict : Params → Verdict) : Verdict :=
  match t.match? subject with
  | none => .none
  | some (.error e) => .undecodable e
  | some (.ok captured) => verdict captured

namespace Route

/-- Whether the method is one of the route's. -/
def allows (r : Route) (method : Option String) : Bool :=
  match r.methods, method with
  | none, _ => true
  | some set, some m => set.any fun s => Text.sameLetters s m
  | some _, none => false

def serves (r : Route) (kind : ScopeKind) : Bool :=
  match r.protocol, kind with
  | .http, .request => true
  | .socket, .socket => true
  | _, _ => false

/-- Whether the route refuses the method of a request. -/
def refusesMethod (r : Route) (s : Scope) : Bool := r.protocol = .http && !r.allows s.method

def verdict (r : Route) (s : Scope) : Verdict :=
  if !r.serves s.kind then .none
  else r.template.judge s.path fun captured =>
    let child : Contribution :=
      { params := some (s.params.merge captured), endpoint := some r.endpoint }
    if r.refusesMethod s then .partly child else .full child

end Route

/-- Whether nodes that lead to subtrees look at scopes of a kind. -/
def ScopeKind.isRouted : ScopeKind → Bool
  | .request => true
  | .socket => true
  | .lifecycle => false

namespace Mount

/-- The text of the rest in what a mount captured. -/
def restOf (captured : Params) : String := ((captured.get? rest).map Value.text).getD ""

/-- The part of the path before what is left for the subtree, by the number of bytes; nothing
if that is no cut between characters. -/
def consumed (path remaining : String) : String :=
  let bytes := Text.utf8Length path.toList - Text.utf8Length remaining.toList
  String.ofList (((Text.cutBytes? bytes path.toList).map (·.1)).getD [])

def verdict (m : Mount) (s : Scope) : Verdict :=
  if !s.kind.isRouted then .none
  else m.template.judge s.path fun captured =>
    let remaining := "/" ++ restOf captured
    .full
      { params := some (s.params.merge (captured.erase rest))
        endpoint := some m.target
        path := some remaining
        rootPath := some (s.rootPath ++ consumed s.path remaining)
        appRootPath := some (s.appRootPath.getD s.rootPath) }

end Mount

namespace HostGate

def verdict (h : HostGate) (s : Scope) : Verdict :=
  if !s.kind.isRouted then .none
  else h.template.judge s.hostname fun captured =>
    .full { params := some (s.params.merge captured), endpoint := some h.target }

end HostGate

namespace Lifespan

def verdict (_ : Lifespan) (s : Scope) : Verdict :=
  if s.kind = .lifecycle then .full {} else .none

end Lifespan

namespace Node

def verdict : Node → Scope → Verdict
  | .route r, s => r.verdict s
  | .mount m, s => m.verdict s
  | .host h, s => h.verdict s
  | .lifespan l, s => l.verdict s

end Node

end Waymark
