import Waymark.Json.Reader
import Waymark.Message.Basic

/-!
# Reading messages

A message is read from an object or from an array. In an object the members may
come in any order and others are ignored, but neither the type nor a field of
the message may be given twice. In an array the type comes first and the fields
follow, none missing and none more. Codes are whole numbers of 16 bits.
-/

namespace Waymark.Message

def text? : Json → Option String := Json.str?

/-- A whole number of 16 bits. -/
def code? (j : Json) : Option UInt16 := do
  let n ← j.nat?
  if n < 65536 then some (UInt16.ofNat n) else none

/-- A list of pairs of texts. -/
def headers? (j : Json) : Option Headers := do
  (← j.arr?).mapM fun item =>
    match item with
    | .arr [.str name, .str value] => some (name, value)
    | _ => none

/-- The names of the fields that a kind of message has; `none` for an unknown kind. -/
def fieldNames? (kind : String) : Option (List String) :=
  match kind with
  | "lifecycle.start" => some []
  | "lifecycle.start.complete" => some []
  | "lifecycle.start.failed" => some ["detail"]
  | "lifecycle.stop" => some []
  | "lifecycle.stop.complete" => some []
  | "response.start" => some ["status", "headers"]
  | "response.body" => some ["body"]
  | "socket.connect" => some []
  | "socket.accept" => some []
  | "socket.receive" => some ["text"]
  | "socket.send" => some ["text"]
  | "socket.close" => some ["code"]
  | "socket.disconnect" => some ["code"]
  | _ => none

/-- A message of its kind and its field values in order. -/
def ofParts? (kind : String) (values : List Json) : Option Message :=
  match kind, values with
  | "lifecycle.start", [] => some .lifecycleStart
  | "lifecycle.start.complete", [] => some .lifecycleStartComplete
  | "lifecycle.start.failed", [v] => (text? v).map .lifecycleStartFailed
  | "lifecycle.stop", [] => some .lifecycleStop
  | "lifecycle.stop.complete", [] => some .lifecycleStopComplete
  | "response.start", [s, h] => do return .responseStart (← code? s) (← headers? h)
  | "response.body", [v] => (text? v).map .responseBody
  | "socket.connect", [] => some .socketConnect
  | "socket.accept", [] => some .socketAccept
  | "socket.receive", [v] => (text? v).map .socketReceive
  | "socket.send", [v] => (text? v).map .socketSend
  | "socket.close", [v] => (code? v).map .socketClose
  | "socket.disconnect", [v] => (code? v).map .socketDisconnect
  | _, _ => none

/-- The only member of a name. -/
def only? (members : List (String × Json)) (name : String) : Option Json :=
  match members.filter fun m => m.1 == name with
  | [m] => some m.2
  | _ => none

/-- The message that a value describes. -/
def ofJson? : Json → Option Message
  | .obj members => do
    let kind ← (← only? members "type").str?
    let values ← (← fieldNames? kind).mapM (only? members)
    ofParts? kind values
  | .arr (.str kind :: values) => ofParts? kind values
  | _ => none

/-- Reads a message from its text on the wire. -/
def read? (text : String) : Option Message := (Json.read? text).bind ofJson?

end Waymark.Message
