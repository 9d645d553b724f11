/-!
# States of a lifespan

    created → starting → running → stopping → stopped
                 |
                 +→ failed
-/

namespace Waymark

inductive LifespanState where
  | created
  | starting
  | running
  | stopping
  | stopped
  | failed
  deriving DecidableEq

namespace LifespanState

def name : LifespanState → String
  | .created => "created"
  | .starting => "starting"
  | .running => "running"
  | .stopping => "stopping"
  | .stopped => "stopped"
  | .failed => "failed"

def outline : LifespanState → String
  | .created => "Created"
  | .starting => "Starting"
  | .running => "Running"
  | .stopping => "Stopping"
  | .stopped => "Stopped"
  | .failed => "Failed"

end LifespanState

end Waymark
