import Waymark.Failure

/-!
# Worker pools

A pool runs jobs that block. A job may panic, which is reported to the one who
waits for it and harms no one else. The counters are words of 64 bits, so a
completion without a dispatch makes the depth of the queue wrap around.
-/

namespace Waymark

/-- How a job ended. -/
inductive Outcome (α : Type) where
  | finished (value : α)
  /-- The job panicked with a text, or with something that is no text. -/
  | panicked (text : Option String)
  deriving DecidableEq

namespace WorkerPool

structure Config where
  workers : Nat
  stackSize : Nat
  deriving DecidableEq

structure Metrics where
  depth : UInt64
  dispatched : UInt64
  completed : UInt64
  deriving DecidableEq

namespace Metrics

def zero : Metrics := ⟨0, 0, 0⟩

def recordDispatch (m : Metrics) : Metrics :=
  { m with dispatched := m.dispatched + 1, depth := m.depth + 1 }

def recordCompletion (m : Metrics) : Metrics :=
  { m with completed := m.completed + 1, depth := m.depth - 1 }

end Metrics

/-- What the panic of a job is reported as. -/
def panicText (text : Option String) : String := text.getD "non-string panic payload"

/-- What the caller of a job gets. `isOpen` tells whether any worker takes jobs. -/
def report (isOpen : Bool) (name : String) : Outcome α → Except DispatchError α
  | .finished value => if isOpen then .ok value else .error .poolUnavailable
  | .panicked text =>
    if isOpen then .error (.handlerPanicked name (panicText text)) else .error .poolUnavailable

end WorkerPool

structure WorkerPool where
  config : WorkerPool.Config
  metrics : WorkerPool.Metrics
  deriving DecidableEq

namespace WorkerPool

def new (config : Config) : WorkerPool := ⟨config, .zero⟩

/-- A stack of this size or more does not fit the address space. -/
def stackLimit : Nat := Nat.pow 2 47

/-- A pool has at least one worker, unless no stack of the wanted size can be had. -/
def isOpen (p : WorkerPool) : Bool := p.config.stackSize < stackLimit

/-- Runs a job under the name of its handler. A job that is not taken counts as completed. -/
def run (p : WorkerPool) (name : String) (outcome : Outcome α) :
    Except DispatchError α × WorkerPool :=
  (report p.isOpen name outcome,
    { p with metrics := p.metrics.recordDispatch.recordCompletion })

end WorkerPool

end Waymark
