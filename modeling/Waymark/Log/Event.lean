/-!
# Log events

An event has a level, the target it comes from, a message and the names of its
fields. The values of the fields never decide whether an event is shown.
-/

namespace Waymark.Log

inductive Level where
  | trace
  | debug
  | info
  | warn
  | error
  deriving DecidableEq

namespace Level

/-- Levels in order of importance. -/
def rank : Level → Nat
  | .trace => 0
  | .debug => 1
  | .info => 2
  | .warn => 3
  | .error => 4

def text : Level → String
  | .trace => "TRACE"
  | .debug => "DEBUG"
  | .info => "INFO"
  | .warn => "WARN"
  | .error => "ERROR"

end Level

structure Event where
  level : Level
  target : String
  message : String
  fields : List String
  deriving DecidableEq

end Waymark.Log
