import Waymark.Json.Printer

/-!
# Messages

What passes between an application and the transport that serves it: the
lifecycle handshake, the response to a request, and the frames of a socket. On
the wire a message is a JSON object whose `type` member tells which message it
is and whose other members are its fields in order.
-/

namespace Waymark

abbrev Headers := List (String × String)

inductive Message where
  | lifecycleStart
  | lifecycleStartComplete
  | lifecycleStartFailed (detail : String)
  | lifecycleStop
  | lifecycleStopComplete
  | responseStart (status : UInt16) (headers : Headers)
  | responseBody (body : String)
  | socketConnect
  | socketAccept
  | socketReceive (text : String)
  | socketSend (text : String)
  | socketClose (code : UInt16)
  | socketDisconnect (code : UInt16)
  deriving DecidableEq

namespace Message

/-- The name of the message, as it is reported. -/
def kind : Message → String
  | .lifecycleStart => "lifecycle.start"
  | .lifecycleStartComplete => "lifecycle.start.complete"
  | .lifecycleStartFailed _ => "lifecycle.start.failed"
  | .lifecycleStop => "lifecycle.stop"
  | .lifecycleStopComplete => "lifecycle.stop.complete"
  | .responseStart .. => "response.start"
  | .responseBody _ => "response.body"
  | .socketConnect => "socket.connect"
  | .socketAccept => "socket.accept"
  | .socketReceive _ => "socket.receive"
  | .socketSend _ => "socket.send"
  | .socketClose _ => "socket.close"
  | .socketDisconnect _ => "socket.disconnect"

/-- The type that the message is written with. -/
def tag : Message → String
  | .lifecycleStart => "lifecycle.start"
  | .lifecycleStartComplete => "lifecycle.start.complete"
  | .lifecycleStartFailed _ => "lifecycle.start.failed"
  | .lifecycleStop => "lifecycle.stop"
  | .lifecycleStopComplete => "lifecycle.stop.complete"
  | .responseStart .. => "response.start"
  | .responseBody _ => "response.body"
  | .socketConnect => "socket.connect"
  | .socketAccept => "socket.accept"
  | .socketReceive _ => "socket.receive"
  | .socketSend _ => "socket.send"
  | .socketClose _ => "socket.close"
  | .socketDisconnect _ => "socket.disconnect"

def headersJson (hs : Headers) : Json := .arr (hs.map fun h => .arr [.str h.1, .str h.2])

/-- The members beside the type. -/
def fields : Message → List (String × Json)
  | .lifecycleStartFailed detail => [("detail", .str detail)]
  | .responseStart status headers =>
    [("status", .int status.toNat), ("headers", headersJson headers)]
  | .responseBody body => [("body", .str body)]
  | .socketReceive text => [("text", .str text)]
  | .socketSend text => [("text", .str text)]
  | .socketClose code => [("code", .int code.toNat)]
  | .socketDisconnect code => [("code", .int code.toNat)]
  | _ => []

def toJson (m : Message) : Json := .obj (("type", .str m.tag) :: m.fields)

/-- The message on the wire. -/
def text (m : Message) : String := m.toJson.text

end Message

end Waymark
