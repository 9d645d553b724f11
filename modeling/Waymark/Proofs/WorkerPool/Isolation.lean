import Waymark.Proofs.WorkerPool.Progress
import Waymark.Tree.Dispatch

/-!
# Isolation of the jobs of a worker pool

However the steps of callers and workers come between one another, the counters
of a pool stand for its jobs, each job is run at most once, and each caller gets
the outcome of its own job (`State.Sound`, `interleaving_sound`). A panic is an
outcome like another: it goes to the caller of that job, and the worker goes on
with the next one.

So a blocking endpoint may take `WorkerPool.report` of the outcome of its
function, as if there were nothing else in the pool, and a pool that has come to
rest has the counters that `WorkerPool.run` leaves, job by job.
-/

namespace Waymark

namespace WorkerPool

variable {α : Type} {n : Nat} {s : State α}

/-! ## Callers -/

/-- A job was run at most once, and what its caller has is the report of that run. -/
theorem Call.Fits.own {c : Call α} {stage : Stage α} (h : c.Fits n stage) (hn : 0 < n) :
    c.runs.length ≤ 1 ∧ ∀ r, c.result = some r →
      ∃ w o, w < n ∧ c.runs = [(w, o)] ∧ r = report true c.name o := by
  cases h with
  | ran _ hw _ hmail =>
      refine ⟨Nat.le_refl _, fun r hr => ?_⟩
      cases hmail with
      | sent => cases hr
      | received => exact ⟨_, _, hw, rfl, (Option.some.inj hr).symm⟩
  | refused hnone => omega
  | settled hnone => omega
  | turnedAway hnone => omega
  | _ => exact ⟨Nat.zero_le _, fun _ hr => nomatch hr⟩

/-! ## Workers -/

/-- A worker brings the job that it holds to an end, however the job ends. -/
theorem exists_steps {w i : Nat} {c : Call α} (hw : s.workers[w]? = some (.holding i))
    (hc : s.calls[i]? = some c) (o : Outcome α) : ∃ s', Steps s s' ∧
      s'.queue = s.queue ∧ s'.workers = s.workers.set w .idle ∧
      s'.calls = s.calls.set i { c with
        inbox := c.inbox ++ [o], runs := c.runs ++ [(w, o)],
        counted := true, released := true } := by
  have hlt : w < s.workers.length := (List.getElem?_eq_some_iff.mp hw).1
  have hi : i < s.calls.length := (List.getElem?_eq_some_iff.mp hc).1
  obtain ⟨s₁, hwork, hq₁, hw₁, hc₁⟩ : ∃ s₁, Step s s₁ ∧ s₁.queue = s.queue ∧
      s₁.workers = s.workers.set w (.replied i) ∧ s₁.calls = s.calls.set i { c with
        inbox := c.inbox ++ [o], runs := c.runs ++ [(w, o)] } :=
    ⟨_, .work hw hc o, rfl, rfl, rfl⟩
  obtain ⟨s₂, hcomplete, hq₂, hw₂, hc₂⟩ : ∃ s₂, Step s₁ s₂ ∧ s₂.queue = s₁.queue ∧
      s₂.workers = s₁.workers.set w (.counted i) ∧ s₂.calls = s₁.calls.set i { c with
        inbox := c.inbox ++ [o], runs := c.runs ++ [(w, o)], counted := true } :=
    ⟨_, .complete (by rw [hw₁]; exact List.getElem?_set_self hlt)
      (by rw [hc₁]; exact List.getElem?_set_self hi), rfl, rfl, rfl⟩
  rw [hw₁, List.set_set] at hw₂
  rw [hc₁, List.set_set] at hc₂
  obtain ⟨s₃, hrelease, hq₃, hw₃, hc₃⟩ : ∃ s₃, Step s₂ s₃ ∧ s₃.queue = s₂.queue ∧
      s₃.workers = s₂.workers.set w .idle ∧ s₃.calls = s₂.calls.set i { c with
        inbox := c.inbox ++ [o], runs := c.runs ++ [(w, o)], counted := true, released := true } :=
    ⟨_, .release (by rw [hw₂]; exact List.getElem?_set_self hlt)
      (by rw [hc₂]; exact List.getElem?_set_self hi), rfl, rfl, rfl⟩
  rw [hw₂, List.set_set] at hw₃
  rw [hc₂, List.set_set] at hc₃
  exact ⟨s₃, .tail (.tail (.single hwork) hcomplete) hrelease, by rw [hq₃, hq₂, hq₁], hw₃, hc₃⟩

/-- A worker is done with a job: the reply waits for the caller of that job, the calls of the
others are as they were, and the worker can take the next job. -/
structure State.Served (s s' : State α) (w i : Nat) (o : Outcome α) : Prop where
  idle : s'.workers = s.workers.set w .idle
  queue : s'.queue = s.queue
  others : ∀ j ≠ i, s'.calls[j]? = s.calls[j]?
  reply : ∃ s'' c, Step s' s'' ∧ s''.calls[i]? = some c ∧ c.runs = [(w, o)] ∧
    c.result = some (report true c.name o)
  next : ∀ j queue, s.queue = j :: queue → ∃ s'', Step s' s'' ∧ s''.queue = queue ∧
    s''.workers[w]? = some (.holding j)

theorem State.Staged.exists_served {stage : Nat → Stage α} (h : s.Staged n stage) {w i : Nat}
    (hw : s.workers[w]? = some (.holding i)) (o : Outcome α) :
    ∃ s', Steps s s' ∧ s.Served s' w i o := by
  have hstage := Stage.tended_holding ((h.tended rfl).mp hw)
  have hlt : w < s.workers.length := (List.getElem?_eq_some_iff.mp hw).1
  have hi : i < s.calls.length := h.lt_calls (by rw [hstage]; exact fun h => nomatch h)
  obtain ⟨c, hc⟩ : ∃ c, s.calls[i]? = some c := ⟨_, List.getElem?_eq_getElem hi⟩
  have hfits := h.fits hc
  rw [hstage] at hfits
  obtain ⟨s', hsteps, hqueue, hworkers, hcalls⟩ := exists_steps hw hc o
  refine ⟨s', hsteps, hworkers, hqueue, fun j hj => ?_, ?_, fun j queue hq => ?_⟩
  · rw [hcalls, List.getElem?_set_ne (Ne.symm hj)]
  · cases hfits with
    | ran _ _ hrun _ => cases hrun
    | held =>
        have hreply := hcalls ▸ List.getElem?_set_self hi
        have hreceived : ∀ d, (s'.calls.set i d)[i]? = some d := fun d =>
          List.getElem?_set_self (by rwa [hcalls, List.length_set])
        exact ⟨_, _, .receive hreply rfl rfl, hreceived _, rfl, rfl⟩
  · have hidle : s'.workers[w]? = some .idle := by
      rw [hworkers]
      exact List.getElem?_set_self hlt
    refine ⟨_, .take hidle (hqueue.trans hq), rfl, List.getElem?_set_self ?_⟩
    rwa [hworkers, List.length_set]

/-! ## Pools -/

def runAll (p : WorkerPool) (jobs : List (String × Outcome α)) : WorkerPool :=
  jobs.foldl (fun p job => (p.run job.1 job.2).2) p

/-- A run in one go changes the counters as the steps of its call and its worker do. -/
theorem run_metrics (p : WorkerPool) (name : String) (o : Outcome α) :
    (p.run name o).2.metrics = p.metrics.countDispatch.raise.countCompletion.lower := by
  rw [← Metrics.recordDispatch_eq, ← Metrics.recordCompletion_eq]
  rfl

theorem runAll_metrics (p : WorkerPool) (jobs : List (String × Outcome α)) :
    (p.runAll jobs).metrics = ⟨p.metrics.depth, p.metrics.dispatched + .ofNat jobs.length,
      p.metrics.completed + .ofNat jobs.length⟩ := by
  induction jobs generalizing p with
  | nil => simp [runAll]
  | cons job jobs ih =>
      have hcons : p.runAll (job :: jobs) = (p.run job.1 job.2).2.runAll jobs := rfl
      rw [hcons, ih, run_metrics]
      simp [Metrics.countDispatch, Metrics.raise, Metrics.countCompletion, Metrics.lower,
        UInt64.ofNat_add, UInt64.add_assoc, UInt64.add_comm]

/-- What holds of a pool with workers. The counters are words, so they are the numbers that they
stand for as long as these fit into 64 bits. -/
structure State.Sound (workers : Nat) (s : State α) : Prop where
  depth : s.metrics.depth = .ofNat s.inDepth
  /-- The depth is lowered only for a job that is in it. -/
  no_underflow : ∀ s', Step s s' → s'.metrics.depth = s.metrics.depth - 1 →
    s.inDepth = s'.inDepth + 1
  dispatched : s.metrics.dispatched = .ofNat s.calls.length
  completed : s.metrics.completed = .ofNat s.completed
  completed_le : s.completed ≤ s.calls.length
  difference : s.metrics.dispatched - s.metrics.completed = .ofNat s.pending
  /-- With fewer calls than there are words, all of that holds of the numbers themselves. -/
  words : s.calls.length < UInt64.size → s.metrics.depth.toNat = s.inDepth ∧
    s.metrics.dispatched.toNat = s.calls.length ∧ s.metrics.completed.toNat = s.completed ∧
    s.metrics.completed ≤ s.metrics.dispatched
  /-- When all jobs are through, the counters are as after running them one after another. -/
  settled : (∀ c ∈ s.calls, c.isThrough = true) →
    s.metrics.depth = 0 ∧ s.metrics.dispatched = s.metrics.completed ∧
    ∀ config (jobs : List (String × Outcome α)), jobs.length = s.calls.length →
      s.metrics = ((WorkerPool.new config).runAll jobs).metrics
  /-- A job is run at most once, by one worker. -/
  once : ∀ c ∈ s.calls, c.runs.length ≤ 1
  /-- What a caller gets is the outcome of its own job. -/
  own : ∀ c ∈ s.calls, ∀ r, c.result = some r →
    ∃ w o, w < workers ∧ c.runs = [(w, o)] ∧ r = report true c.name o
  /-- However a job ends, its caller can have that outcome, and the worker can go on. -/
  served : ∀ w i, s.workers[w]? = some (.holding i) → ∀ o, ∃ s', Steps s s' ∧ s.Served s' w i o
  /-- All callers can come to have their results, and all jobs to be through. -/
  rest : ∃ s', Steps s s' ∧ s'.calls.length = s.calls.length ∧ ∀ c ∈ s'.calls, c.AtEnd

theorem Reachable.sound (hn : 0 < n) (h : Reachable n s) : s.Sound n := by
  obtain ⟨stage, hstaged⟩ := h.exists_staged
  have haccounted := h.accounted
  have hle : s.completed ≤ s.calls.length := List.countP_le_length
  have hin : s.inDepth ≤ s.calls.length := List.countP_le_length
  have hown : ∀ c ∈ s.calls, c.runs.length ≤ 1 ∧ ∀ r, c.result = some r →
      ∃ w o, w < n ∧ c.runs = [(w, o)] ∧ r = report true c.name o := by
    intro c hc
    obtain ⟨i, hi⟩ := List.getElem?_of_mem hc
    exact (hstaged.fits hi).own hn
  refine ⟨haccounted.depth, fun s' hstep => (hstaged.change hstep).lowered_of_depth,
    haccounted.dispatched, haccounted.completed, hle, ?_, fun hfew => ?_, fun hthrough => ?_,
    fun c hc => (hown c hc).1, fun c hc => (hown c hc).2,
    fun w i hw o => hstaged.exists_served hw o, h.exists_rest hn⟩
  · rw [haccounted.dispatched, haccounted.completed, s.length_calls, UInt64.ofNat_add]
    exact UInt64.add_sub_cancel _ _
  · have hword : ∀ m ≤ s.calls.length, (UInt64.ofNat m).toNat = m := fun m hm =>
      UInt64.toNat_ofNat_of_lt' (Nat.lt_of_le_of_lt hm hfew)
    rw [haccounted.dispatched, haccounted.completed, haccounted.depth, UInt64.le_iff_toNat_le,
      hword _ (Nat.le_refl _), hword _ hle, hword _ hin]
    exact ⟨rfl, rfl, rfl, hle⟩
  · have hmetrics := haccounted.settled hthrough
    refine ⟨congrArg (·.depth) hmetrics, ?_, fun config jobs hjobs => ?_⟩
    · rw [hmetrics]
    · rw [hmetrics, runAll_metrics, hjobs]
      simp [WorkerPool.new, Metrics.zero]

/-! ## Blocking endpoints -/

/-- What a blocking endpoint does when its job has a result. -/
def conclude (name : String) :
    Except DispatchError (Except Failure Response) → Action DispatchError Unit
  | .ok (.ok response) => do
    response.send
    Action.log Dispatch.completed
  | .ok (.error failure) => throw (.handler name failure)
  | .error e => throw e

theorem call_blocking (b : Bindings) (name : String) (handle : Handle) (scope : Scope) :
    Endpoint.call b ⟨name, handle, .blocking⟩ scope = (do
      Action.log Dispatch.started
      conclude name (report b.poolOpen name (b.blocking handle ⟨scope⟩))) := by
  rw [Endpoint.call, Target.run]
  rcases report b.poolOpen name (b.blocking handle ⟨scope⟩) with e | (failure | response) <;> rfl

theorem call_handler (b : Bindings) (name : String) (handle : Handle) (scope : Scope) :
    Endpoint.call b ⟨name, handle, .handler⟩ scope = (do
      Action.log Dispatch.started
      conclude name (.ok (b.handler handle ⟨scope⟩))) := by
  rw [Endpoint.call, Target.run]
  cases b.handler handle ⟨scope⟩ <;> rfl

/-- A pool with workers is sound, whatever is run on it and however the steps of its callers and
workers come one after another. So a blocking endpoint whose function was run on a pool goes on
with the result that its caller got there, whatever else was run on it: with what the function
gave, just as a handler in its place, or with the panic of the function. -/
theorem interleaving_sound :
    (∀ {α : Type} {n : Nat} {s : State α}, 0 < n → Reachable n s → s.Sound n) ∧
    ∀ {n : Nat} {s : State (Except Failure Response)}, 0 < n → Reachable n s →
      ∀ c ∈ s.calls, ∀ r, c.result = some r → ∀ (b : Bindings) (handle : Handle) (scope : Scope),
        b.poolOpen = true → c.runs.map Prod.snd = [b.blocking handle ⟨scope⟩] →
        Endpoint.call b ⟨c.name, handle, .blocking⟩ scope = (do
          Action.log Dispatch.started
          conclude c.name r) ∧
        (∀ given, b.blocking handle ⟨scope⟩ = .finished given → b.handler handle ⟨scope⟩ = given →
          Endpoint.call b ⟨c.name, handle, .blocking⟩ scope =
            Endpoint.call b ⟨c.name, handle, .handler⟩ scope) ∧
        ∀ text, b.blocking handle ⟨scope⟩ = .panicked text →
          r = .error (.handlerPanicked c.name (panicText text)) := by
  refine ⟨Reachable.sound, fun hn h c hc r hr b handle scope hopen hrun => ?_⟩
  obtain ⟨w, o, _, hruns, rfl⟩ := (h.sound hn).own c hc r hr
  rw [hruns] at hrun
  obtain rfl : o = b.blocking handle ⟨scope⟩ := List.singleton_inj.mp hrun
  rw [call_blocking, call_handler, hopen]
  refine ⟨rfl, fun given hgiven hhandler => ?_, fun text htext => ?_⟩
  · rw [hgiven, hhandler]
    rfl
  · rw [htext]
    rfl

def single (metrics : Metrics) (queue : List Nat) (worker : Worker)
    (c : Call (Except Failure Response)) : State (Except Failure Response) :=
  ⟨metrics, queue, [worker], [c]⟩

/-- The steps of a job that panics. Its caller has the result before the completion is counted. -/
theorem interleaving_sound_panic : ∃ s : State (Except Failure Response), Reachable 1 s ∧
    s.Sound 1 ∧ s.calls.map (·.result) = [some (.error (.handlerPanicked "job" "boom"))] ∧
    s.metrics = ⟨0, 1, 1⟩ := by
  let o : Outcome (Except Failure Response) := .panicked (some "boom")
  have entered : Reachable 1 (single ⟨0, 1, 0⟩ [] .idle
      ⟨"job", .entered, [], none, [], false, false⟩) :=
    .next .start (.dispatch "job")
  have raised : Reachable 1 (single ⟨1, 1, 0⟩ [] .idle
      ⟨"job", .raised, [], none, [], false, false⟩) :=
    (entered.next (.raise (i := 0) rfl rfl) :)
  have queued : Reachable 1 (single ⟨1, 1, 0⟩ [0] .idle
      ⟨"job", .waiting, [], none, [], false, false⟩) :=
    (raised.next (.enqueue (i := 0) rfl rfl (List.cons_ne_nil _ _)) :)
  have held : Reachable 1 (single ⟨1, 1, 0⟩ [] (.holding 0)
      ⟨"job", .waiting, [], none, [], false, false⟩) :=
    (queued.next (.take (w := 0) rfl rfl) :)
  have replied : Reachable 1 (single ⟨1, 1, 0⟩ [] (.replied 0)
      ⟨"job", .waiting, [o], none, [(0, o)], false, false⟩) :=
    (held.next (.work (w := 0) rfl rfl o) :)
  have received : Reachable 1 (single ⟨1, 1, 0⟩ [] (.replied 0)
      ⟨"job", .returned, [], some (report true "job" o), [(0, o)], false, false⟩) :=
    (replied.next (.receive (i := 0) rfl rfl rfl) :)
  have counted : Reachable 1 (single ⟨1, 1, 1⟩ [] (.counted 0)
      ⟨"job", .returned, [], some (report true "job" o), [(0, o)], true, false⟩) :=
    (received.next (.complete (w := 0) rfl rfl) :)
  have released : Reachable 1 (single (Metrics.lower ⟨1, 1, 1⟩) [] .idle
      ⟨"job", .returned, [], some (report true "job" o), [(0, o)], true, true⟩) :=
    (counted.next (.release (w := 0) rfl rfl) :)
  exact ⟨_, released, interleaving_sound.1 Nat.one_pos released, rfl, by decide⟩

end WorkerPool

end Waymark
