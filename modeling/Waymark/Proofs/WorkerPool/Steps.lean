import Waymark.WorkerPool

/-!
# Steps of a worker pool

`WorkerPool.run` takes a job and gives its result in one go. In truth the
callers and the workers of a pool go about it in small steps, and steps of
others come between them: a caller counts the dispatch, raises the depth, puts
the job into the queue and waits; a worker takes a job, runs it and replies,
counts the completion and lowers the depth. Each counter is changed by itself,
and a reply is sent before the completion is counted.

`Step` is the relation of these steps over any number of calls and workers.
Queue and replies are channels: what is sent comes once, in the order of
sending. If there are no workers, the queue takes no job, and the caller counts
the completion itself.

A call also keeps what has been done for its job. No step looks at that.
-/

namespace Waymark.WorkerPool

namespace Metrics

def countDispatch (m : Metrics) : Metrics := { m with dispatched := m.dispatched + 1 }

def raise (m : Metrics) : Metrics := { m with depth := m.depth + 1 }

def countCompletion (m : Metrics) : Metrics := { m with completed := m.completed + 1 }

def lower (m : Metrics) : Metrics := { m with depth := m.depth - 1 }

theorem recordDispatch_eq (m : Metrics) : m.recordDispatch = m.countDispatch.raise := rfl

theorem recordCompletion_eq (m : Metrics) : m.recordCompletion = m.countCompletion.lower := rfl

end Metrics

/-! ## States -/

/-- How far a caller has come. -/
inductive Place where
  /-- The dispatch is counted. -/
  | entered
  /-- The depth is raised too. -/
  | raised
  /-- The job has gone into the queue, and the caller waits for the reply. -/
  | waiting
  /-- The queue does not take the job. -/
  | refused
  /-- The completion of the job that was not taken is counted. -/
  | settled
  | returned
  deriving DecidableEq

/-- A caller and its job. -/
structure Call (α : Type) where
  name : String
  place : Place
  /-- The replies that were sent and not yet received. -/
  inbox : List (Outcome α)
  result : Option (Except DispatchError α)
  /-- The workers that ran the job, and how it ended each time. -/
  runs : List (Nat × Outcome α)
  /-- Whether the completion of the job was counted. -/
  counted : Bool
  /-- Whether the depth was lowered for the job. -/
  released : Bool

/-- What a worker is at. The job is known by the place of its call. -/
inductive Worker where
  | idle
  | holding (job : Nat)
  /-- The job was run and its outcome sent. -/
  | replied (job : Nat)
  /-- The completion of the job is counted too. -/
  | counted (job : Nat)
  deriving DecidableEq

structure State (α : Type) where
  metrics : Metrics
  /-- The jobs that no worker has taken, the oldest first. -/
  queue : List Nat
  workers : List Worker
  calls : List (Call α)

namespace Call

variable {α : Type}

def enter (name : String) : Call α := ⟨name, .entered, [], none, [], false, false⟩

/-- The depth was raised for the job and not lowered. -/
def inDepth (c : Call α) : Bool := c.place != .entered && !c.released

/-- The job has gone through all its steps. -/
def isThrough (c : Call α) : Bool := c.counted && c.released

end Call

namespace State

variable {α : Type}

def initial (workers : Nat) : State α := ⟨.zero, [], List.replicate workers .idle, []⟩

/-- The number of the jobs for which the depth was raised and not lowered. -/
def inDepth (s : State α) : Nat := s.calls.countP (·.inDepth)

def completed (s : State α) : Nat := s.calls.countP (·.counted)

/-- The number of the jobs that were dispatched and whose completion was not counted. -/
def pending (s : State α) : Nat := s.calls.countP (!·.counted)

end State

/-! ## Steps -/

/-- One step of a caller or a worker. -/
inductive Step {α : Type} : State α → State α → Prop
  | dispatch {s : State α} (name : String) :
      Step s { s with metrics := s.metrics.countDispatch, calls := s.calls ++ [.enter name] }
  | raise {s : State α} {i : Nat} {c : Call α} (hc : s.calls[i]? = some c)
      (hp : c.place = .entered) :
      Step s { s with
        metrics := s.metrics.raise
        calls := s.calls.set i { c with place := .raised } }
  | enqueue {s : State α} {i : Nat} {c : Call α} (hc : s.calls[i]? = some c)
      (hp : c.place = .raised) (hw : s.workers ≠ []) :
      Step s { s with
        queue := s.queue ++ [i]
        calls := s.calls.set i { c with place := .waiting } }
  | take {s : State α} {w i : Nat} {queue : List Nat} (hw : s.workers[w]? = some .idle)
      (hq : s.queue = i :: queue) :
      Step s { s with queue := queue, workers := s.workers.set w (.holding i) }
  | work {s : State α} {w i : Nat} {c : Call α} (hw : s.workers[w]? = some (.holding i))
      (hc : s.calls[i]? = some c) (outcome : Outcome α) :
      Step s { s with
        workers := s.workers.set w (.replied i)
        calls := s.calls.set i { c with
          inbox := c.inbox ++ [outcome]
          runs := c.runs ++ [(w, outcome)] } }
  | complete {s : State α} {w i : Nat} {c : Call α} (hw : s.workers[w]? = some (.replied i))
      (hc : s.calls[i]? = some c) :
      Step s { s with
        metrics := s.metrics.countCompletion
        workers := s.workers.set w (.counted i)
        calls := s.calls.set i { c with counted := true } }
  | release {s : State α} {w i : Nat} {c : Call α} (hw : s.workers[w]? = some (.counted i))
      (hc : s.calls[i]? = some c) :
      Step s { s with
        metrics := s.metrics.lower
        workers := s.workers.set w .idle
        calls := s.calls.set i { c with released := true } }
  | receive {s : State α} {i : Nat} {c : Call α} {outcome : Outcome α} {inbox : List (Outcome α)}
      (hc : s.calls[i]? = some c) (hp : c.place = .waiting) (hin : c.inbox = outcome :: inbox) :
      Step s { s with
        calls := s.calls.set i { c with
          place := .returned
          inbox := inbox
          result := some (report true c.name outcome) } }
  | refuse {s : State α} {i : Nat} {c : Call α} (hc : s.calls[i]? = some c)
      (hp : c.place = .raised) (hw : s.workers = []) :
      Step s { s with calls := s.calls.set i { c with place := .refused } }
  | settle {s : State α} {i : Nat} {c : Call α} (hc : s.calls[i]? = some c)
      (hp : c.place = .refused) :
      Step s { s with
        metrics := s.metrics.countCompletion
        calls := s.calls.set i { c with place := .settled, counted := true } }
  | turnAway {s : State α} {i : Nat} {c : Call α} (hc : s.calls[i]? = some c)
      (hp : c.place = .settled) :
      Step s { s with
        metrics := s.metrics.lower
        calls := s.calls.set i { c with
          place := .returned
          result := some (.error .poolUnavailable)
          released := true } }

/-- The states that a pool with that many workers comes to. -/
inductive Reachable {α : Type} (workers : Nat) : State α → Prop
  | start : Reachable workers (.initial workers)
  | next {s s' : State α} (h : Reachable workers s) (hstep : Step s s') : Reachable workers s'

end Waymark.WorkerPool
