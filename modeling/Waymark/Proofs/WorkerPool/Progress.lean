import Mathlib.Logic.Relation
import Waymark.Proofs.WorkerPool.Counters

/-!
# Progress of a worker pool

As long as a call is not at its end, some step brings the pool nearer to where
all calls are (`State.Staged.exists_step`): the caller goes on, or the worker
that has the job does, or, if the job is in the queue, one that is idle or any
other. Such a step makes the number of the steps that are left smaller, so a
pool with workers can come to rest from wherever it is (`Reachable.exists_rest`).
No job is stuck, and no caller waits for a reply that cannot come.
-/

namespace Waymark.WorkerPool

variable {α : Type} {n : Nat} {s s' : State α}

abbrev Steps : State α → State α → Prop := Relation.ReflTransGen Step

def Call.AtEnd (c : Call α) : Prop := c.result.isSome = true ∧ c.isThrough = true

/-! ## What is left to do -/

/-- The steps that are left of a call. A job that is not in the queue yet counts for two. -/
def Call.left (c : Call α) : Nat :=
  (match c.place with
    | .entered => 4
    | .raised => 3
    | .returned => 0
    | _ => 1) + (if c.runs.isEmpty then 1 else 0) + (!c.counted).toNat + (!c.released).toNat

def State.left (s : State α) : Nat := (s.calls.map Call.left).sum + s.queue.length

/-- The step brings the calls that there are nearer to their ends. -/
structure Nearer (s s' : State α) : Prop where
  step : Step s s'
  calls : s'.calls.length = s.calls.length
  left : s'.left < s.left

theorem Nearer.of_set {i : Nat} {c d : Call α} (hc : s.calls[i]? = some c) (hstep : Step s s')
    (hcalls : s'.calls = s.calls.set i d)
    (hleft : d.left + s'.queue.length < c.left + s.queue.length) : Nearer s s' where
  step := hstep
  calls := by rw [hcalls, List.length_set]
  left := by
    have hsum : ((s.calls.set i d).map Call.left).sum + c.left = _ := sum_set hc
    unfold State.left
    rw [hcalls]
    omega

namespace State.Staged

variable {stage : Nat → Stage α}

theorem exists_step_of_busy (h : s.Staged n stage) {w i : Nat} {k : Worker}
    (hw : s.workers[w]? = some k) (hk : k.job? = some i) : ∃ s', Nearer s s' := by
  have hstage := (h.tended hk).mp hw
  have hi : i < s.calls.length := h.lt_calls fun hout => by rw [hout] at hstage; cases hstage
  obtain ⟨c, hc⟩ : ∃ c, s.calls[i]? = some c := ⟨_, List.getElem?_eq_getElem hi⟩
  have hfits := h.fits hc
  cases k with
  | idle => cases hk
  | holding j =>
      cases hk
      rw [Stage.tended_holding hstage] at hfits
      refine ⟨_, .of_set hc (.work hw hc (.panicked none)) rfl ?_⟩
      cases hfits with
      | held => simp [Call.left]
      | ran _ _ hrun _ => cases hrun
  | replied j =>
      cases hk
      obtain ⟨o, hreplied⟩ := Stage.tended_replied hstage
      rw [hreplied] at hfits
      refine ⟨_, .of_set hc (.complete hw hc) rfl ?_⟩
      simp [Call.left, hfits.counted_of_replied]
  | counted j =>
      cases hk
      obtain ⟨o, hcounted⟩ := Stage.tended_counted hstage
      rw [hcounted] at hfits
      refine ⟨_, .of_set hc (.release hw hc) rfl ?_⟩
      simp [Call.left, hfits.released_of_counted]

/-- If a job is in the queue, a worker takes one, or no worker is idle and any of them goes on. -/
theorem exists_step_of_queued (h : s.Staged n stage) (hn : 0 < n) {i : Nat} (hi : i ∈ s.queue) :
    ∃ s', Nearer s s' := by
  have hlt : 0 < s.workers.length := h.size ▸ hn
  obtain ⟨k, hk⟩ : ∃ k, s.workers[0]? = some k := ⟨_, List.getElem?_eq_getElem hlt⟩
  cases hjob : k.job? with
  | some j => exact h.exists_step_of_busy hk hjob
  | none =>
      cases k with
      | idle =>
          obtain ⟨j, queue, hq⟩ := List.exists_cons_of_ne_nil (List.ne_nil_of_mem hi)
          refine ⟨_, .take hk hq, rfl, ?_⟩
          simp [State.left, hq]
      | _ => cases hjob

/-- A call that is not at its end is brought nearer to it, by its caller, by the worker that has
the job, or by one that may come to take it. -/
theorem exists_step (h : s.Staged n stage) (hn : 0 < n) {i : Nat} {c : Call α}
    (hc : s.calls[i]? = some c) (hopen : ¬ c.AtEnd) : ∃ s', Nearer s s' := by
  have hfits := h.fits hc
  generalize hstage : stage i = st at hfits
  have hbusy : ∀ {w k}, st.tended i = some (w, k) → ∃ s', Nearer s s' := by
    intro w k htended
    have hk : k.job? = some i := by cases st <;> cases htended <;> rfl
    exact h.exists_step_of_busy ((h.tended hk).mpr (hstage ▸ htended)) hk
  cases hfits with
  | entered => exact ⟨_, .of_set hc (.raise hc rfl) rfl (by simp [Call.left, Call.enter])⟩
  | raised =>
      have hworkers : s.workers ≠ [] := List.ne_nil_of_length_pos (h.size ▸ hn)
      exact ⟨_, .of_set hc (.enqueue hc rfl hworkers) rfl (by simp [Call.left]; omega)⟩
  | queued => exact h.exists_step_of_queued hn ((h.queued i).mpr hstage)
  | held => exact hbusy rfl
  | ran st hw hrun hmail =>
      cases hmail with
      | sent => exact ⟨_, .of_set hc (.receive hc rfl rfl) rfl (by simp [Call.left])⟩
      | received =>
          cases st with
          | replied v o => exact hbusy rfl
          | counted v o => exact hbusy rfl
          | through v o => exact absurd ⟨rfl, rfl⟩ hopen
          | _ => cases hrun
  | refused hnone => omega
  | settled hnone => omega
  | turnedAway hnone => omega

end State.Staged

/-! ## Rest -/

/-- A pool with workers can come to rest from wherever it is: without new calls, all callers have
their results and all jobs are through. -/
theorem Reachable.exists_rest (hn : 0 < n) (h : Reachable n s) :
    ∃ s', Steps s s' ∧ s'.calls.length = s.calls.length ∧ ∀ c ∈ s'.calls, c.AtEnd := by
  induction hleft : s.left using Nat.strongRecOn generalizing s with
  | ind left ih =>
      by_cases hend : ∀ c ∈ s.calls, c.AtEnd
      · exact ⟨s, .refl, rfl, hend⟩
      · simp only [not_forall] at hend
        obtain ⟨c, hc, hopen⟩ := hend
        obtain ⟨i, hi⟩ := List.getElem?_of_mem hc
        obtain ⟨stage, hstaged⟩ := h.exists_staged
        obtain ⟨t, hstep, hcalls, hless⟩ := hstaged.exists_step hn hi hopen
        obtain ⟨s', hsteps, hlength, hrest⟩ := ih _ (hleft ▸ hless) (h.next hstep) rfl
        exact ⟨s', .head hstep hsteps, hlength.trans hcalls, hrest⟩

end Waymark.WorkerPool
