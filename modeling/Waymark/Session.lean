import Waymark.Exchange
import Waymark.Scope

/-!
# Sessions

A session is a conversation on a socket, seen by the handler that holds it.
Messages that do not belong to the moment are passed over: those before the
connect, and after it those that are neither a frame nor the disconnect.
-/

namespace Waymark

structure Session where
  scope : Scope

namespace Session

/-- The value of a path parameter. -/
def param? (s : Session) (name : String) : Option Value := s.scope.params.get? name

def isConnect : Message → Option Unit
  | .socketConnect => some ()
  | _ => none

/-- The text of a frame, or `none` for the disconnect. -/
def frame? : Message → Option (Option String)
  | .socketReceive text => some (some text)
  | .socketDisconnect _ => some none
  | _ => none

def beforeConnect : Log.Event :=
  ⟨.debug, "tramline::server::request", "Ignoring message before connect", ["message"]⟩

def noFrame : Log.Event :=
  ⟨.debug, "tramline::server::request", "Ignoring non-frame message", ["message"]⟩

/-- Waits for the connect and accepts it. -/
def accept : Action ChannelError Unit := do
  Action.await isConnect beforeConnect
  Action.send .socketAccept

/-- Waits for a frame; `none` when the peer has disconnected. -/
def receiveText : Action ChannelError (Option String) := Action.await frame? noFrame

def sendText (text : String) : Action ChannelError Unit := Action.send (.socketSend text)

def close (code : UInt16) : Action ChannelError Unit := Action.send (.socketClose code)

end Session

end Waymark
