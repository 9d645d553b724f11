import Waymark.Text.Ascii
import Waymark.Text.Blank
import Waymark.Text.Cut
import Waymark.Text.Integer
import Waymark.WorkerPool

/-!
# Runtime settings

The settings of the process that runs a tree, from environment variables or
from a route table. A variable that is missing or cannot be read leaves the
setting as it is by default, and so does a zero where a zero makes no sense.
-/

namespace Waymark

/-- The variables of a process and their values. -/
abbrev Environment := List (String × String)

def Environment.get? (env : Environment) (name : String) : Option String :=
  (env.find? fun e => e.1 == name).map (·.2)

structure RuntimeConfig where
  workerStackSize : Nat := 0x200000
  blockingWorkers : Nat := 4
  redirectSlashes : Bool := true
  deriving DecidableEq

namespace RuntimeConfig

/-- A size in decimal, or in hexadecimal behind `0x`. -/
def readSize? (s : String) : Option Nat :=
  match (Text.trim s).toList with
  | '0' :: 'x' :: ds => Text.readUnsigned? 16 Text.word64Max ds
  | '0' :: 'X' :: ds => Text.readUnsigned? 16 Text.word64Max ds
  | ds => Text.readUnsigned? 10 Text.word64Max ds

def readCount? (s : String) : Option Nat :=
  Text.readUnsigned? 10 Text.word64Max (Text.trim s).toList

def readBool? (s : String) : Option Bool :=
  match s with
  | "true" => some true
  | "false" => some false
  | _ => none

/-- The settings that the variables give. -/
def ofEnvironment (env : Environment) : RuntimeConfig :=
  let defaults : RuntimeConfig := {}
  let positive (n? : Option Nat) (default : Nat) : Nat := (n?.filter (0 < ·)).getD default
  { workerStackSize := positive ((env.get? "TRAMLINE_WORKER_STACK_SIZE").bind readSize?)
      defaults.workerStackSize
    blockingWorkers := positive ((env.get? "TRAMLINE_BLOCKING_WORKERS").bind readCount?)
      defaults.blockingWorkers
    redirectSlashes := ((env.get? "TRAMLINE_REDIRECT_SLASHES").bind
      fun s => readBool? (Text.trim s)).getD defaults.redirectSlashes }

/-- The worker pool that the settings ask for. -/
def pool (c : RuntimeConfig) : WorkerPool.Config := ⟨c.blockingWorkers, c.workerStackSize⟩

end RuntimeConfig

end Waymark
