import Waymark.Param.Params
import Waymark.RequestId
import Waymark.Response
import Waymark.Tree.Basic

/-!
# Scopes

A scope describes what is to be served: a request, a socket, or the lifecycle
of the application. It is never changed while it is routed: each node that
matches derives a scope of its own from it, in which the part of the path that
the node used up has moved from `path` to `rootPath`.
-/

namespace Waymark

inductive ScopeKind where
  | request
  | socket
  | lifecycle
  deriving DecidableEq

namespace ScopeKind

def name : ScopeKind → String
  | .request => "request"
  | .socket => "socket"
  | .lifecycle => "lifecycle"

def outline : ScopeKind → String
  | .request => "Request"
  | .socket => "Socket"
  | .lifecycle => "Lifecycle"

end ScopeKind

structure Scope where
  kind : ScopeKind
  method : Option String
  scheme : String
  path : String
  query : String
  /-- The part of the path that the nodes above have used up. -/
  rootPath : String
  /-- The root path of the application, kept by the outermost mount. -/
  appRootPath : Option String
  headers : Headers
  server : Option String
  params : Params
  endpoint : Option Endpoint
  /-- The router that reverse lookup starts from. -/
  router : Option Router
  requestId : RequestId
  /-- Whether an application around the router turns its refusals into answers. -/
  bound : Bool

/-- What a node adds to the scope that it is served with. -/
structure Contribution where
  params : Option Params := none
  endpoint : Option Endpoint := none
  path : Option String := none
  rootPath : Option String := none
  appRootPath : Option String := none

namespace Scope

/-! ## Building scopes -/

def new (kind : ScopeKind) (method : Option String) (path : String) : Scope where
  kind := kind
  method := method
  scheme := if kind = .socket then "ws" else "http"
  path := path
  query := ""
  rootPath := ""
  appRootPath := none
  headers := []
  server := none
  params := .empty
  endpoint := none
  router := none
  requestId := .nil
  bound := false

def request (method path : String) : Scope := new .request (some method) path

def socket (path : String) : Scope := new .socket none path

def lifecycle : Scope := new .lifecycle none ""

/-- Adds a header. A request identifier is taken over, or given up if it cannot be read. -/
def withHeader (s : Scope) (name value : String) : Scope :=
  let id := if Text.sameLetters name "x-request-id" then (RequestId.ofHeader? value).getD .nil
    else s.requestId
  { s with requestId := id, headers := s.headers ++ [(Text.lower name, value)] }

def withPath (s : Scope) (path : String) : Scope := { s with path := path }

/-- The scope with a contribution laid over it. -/
def derive (s : Scope) (c : Contribution) : Scope :=
  { s with
    params := c.params.getD s.params
    endpoint := c.endpoint <|> s.endpoint
    path := c.path.getD s.path
    rootPath := c.rootPath.getD s.rootPath
    appRootPath := c.appRootPath <|> s.appRootPath }

/-! ## Views -/

def header? (s : Scope) (name : String) : Option String := Headers.get? s.headers name

/-- The host header up to its first colon. -/
def hostname (s : Scope) : String :=
  match s.header? "host" with
  | some host => String.ofList (host.toList.takeWhile (· != ':'))
  | none => ""

def authority (s : Scope) : String :=
  ((s.header? "host") <|> s.server).getD "localhost"

/-- The URL of the scope. -/
def url (s : Scope) : String :=
  s.scheme ++ "://" ++ s.authority ++ s.rootPath ++ s.path ++
    (if s.query.isEmpty then "" else "?" ++ s.query)

/-- The URL of the application's root, with one slash at its end. -/
def baseUrl (s : Scope) : String :=
  s.scheme ++ "://" ++ s.authority ++
    Text.dropTrailing '/' (s.appRootPath.getD s.rootPath) ++ "/"

end Scope

end Waymark
