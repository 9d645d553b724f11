import Waymark.Tree.Dispatch

/-!
# Echoes

Endpoints that show what routing made of a scope: the handler answers with the
parts of the request, and the session sends every frame back.
-/

namespace Waymark.Echo

/-- What routing resolved for a request. -/
def report (r : Request) : Json :=
  .obj
    [("handler", Json.ofOption (fun e : Endpoint => .str e.name) r.scope.endpoint),
      ("method", Json.ofOption .str r.scope.method), ("path", .str r.scope.path),
      ("root_path", .str r.scope.rootPath), ("params", r.scope.params.toJson),
      ("query", .obj (r.queryParams.map fun p => (p.1, .str p.2))),
      ("request_id", .str r.scope.requestId.text)]

def handler (r : Request) : Except Failure Response := .ok (.json 200 (report r))

/-- Sends frames back until the peer disconnects; `fuel` bounds their number. -/
def frames : (fuel : Nat) → Action ChannelError Unit
  | 0 => pure ()
  | fuel + 1 => do
    match ← Session.receiveText with
    | some text =>
      Session.sendText text
      frames fuel
    | none => pure ()

/-- Accepts the session and sends every frame back. -/
def session (_ : Session) : Action Failure Unit := Action.mapError .ofChannel do
  Session.accept
  frames ((← get).inbound.length + 1)

def handlerName : String := "echo_handler"

def sessionName : String := "echo_session"

/-- The meaning of the handles in a tree that only leads to echoes. -/
def bindings : Bindings where
  handler _ := handler
  blocking _ r := .finished (handler r)
  session _ := session
  app _ _ := pure ()
  hook _ _ := .ok []
  poolOpen := true

end Waymark.Echo
