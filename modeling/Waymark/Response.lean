import Waymark.Message.Basic
import Waymark.Text.Ascii

/-!
# Responses

What a request handler answers. A response is sent as two messages, its status
and headers and then its body.
-/

namespace Waymark

/-- Header names are compared up to the case of their letters. -/
def Headers.get? (hs : Headers) (name : String) : Option String :=
  (hs.find? fun h => Text.sameLetters h.1 name).map (·.2)

structure Response where
  status : UInt16
  headers : Headers
  body : String
  deriving DecidableEq

namespace Response

def text (status : UInt16) (body : String) : Response :=
  ⟨status, [("content-type", "text/plain; charset=utf-8")], body⟩

/-- A response whose body is a JSON value with ordered members. -/
def json (status : UInt16) (body : Json) : Response :=
  ⟨status, [("content-type", "application/json")], body.sorted.text⟩

/-- A temporary redirect, which keeps the method of the request. -/
def redirect (location : String) : Response := ⟨307, [("location", location)], ""⟩

def header? (r : Response) (name : String) : Option String := Headers.get? r.headers name

/-- Gives a header in place of any of the same name. -/
def setHeader (r : Response) (name value : String) : Response :=
  { r with headers := r.headers.filter (fun h => !Text.sameLetters h.1 name) ++ [(name, value)] }

/-- The messages that carry the response. -/
def messages (r : Response) : List Message :=
  [.responseStart r.status r.headers, .responseBody r.body]

end Response

end Waymark
