import Mathlib.Algebra.GroupWithZero.Nat
import Waymark.Proofs.WorkerPool.Stages

/-!
# The counters of a worker pool

A step changes at most one counter, and with it the number of the jobs that the
counter stands for (`Change`). That the numbers change as the counters do is
where the stages come in: a job is not in the depth before it is raised, and it
is when it is lowered, so the number is not zero then; and its completion is
not counted before it is.

So the counters are these numbers in every state that a pool comes to
(`Reachable.accounted`), as words: they wrap around where the numbers go beyond
64 bits.
-/

namespace Waymark.WorkerPool

variable {α : Type} {n : Nat} {s s' : State α}

/-! ## Sums over the calls -/

theorem sum_set {f : Call α → Nat} {cs : List (Call α)} {i : Nat} {c d : Call α}
    (h : cs[i]? = some c) : ((cs.set i d).map f).sum + f c = (cs.map f).sum + f d := by
  induction cs generalizing i with
  | nil => cases h
  | cons e cs ih =>
      cases i with
      | zero =>
          obtain rfl := Option.some.inj h
          simp only [List.set_cons_zero, List.map_cons, List.sum_cons]
          omega
      | succ i =>
          simp only [List.set_cons_succ, List.map_cons, List.sum_cons]
          have := ih h
          omega

theorem countP_eq_sum (p : Call α → Bool) (cs : List (Call α)) :
    cs.countP p = (cs.map fun c => (p c).toNat).sum := by
  induction cs with
  | nil => rfl
  | cons c cs ih =>
      rw [List.countP_cons, List.map_cons, List.sum_cons, ih]
      cases p c <;> simp [Nat.add_comm]

/-- The completion of each dispatched job is pending, or it was counted. -/
theorem State.length_calls (s : State α) : s.calls.length = s.pending + s.completed := by
  rw [List.length_eq_countP_add_countP (fun c : Call α => c.counted), Nat.add_comm]
  simp [pending, completed]

/-! ## What a step changes -/

/-- At most one counter changes, with the number that it stands for. -/
inductive Change (s s' : State α) : Prop
  | nothing (hmetrics : s'.metrics = s.metrics) (hcalls : s'.calls.length = s.calls.length)
      (hcompleted : s'.completed = s.completed) (hdepth : s'.inDepth = s.inDepth)
  | dispatched (hmetrics : s'.metrics = s.metrics.countDispatch)
      (hcalls : s'.calls.length = s.calls.length + 1)
      (hcompleted : s'.completed = s.completed) (hdepth : s'.inDepth = s.inDepth)
  | completed (hmetrics : s'.metrics = s.metrics.countCompletion)
      (hcalls : s'.calls.length = s.calls.length)
      (hcompleted : s'.completed = s.completed + 1) (hdepth : s'.inDepth = s.inDepth)
  | raised (hmetrics : s'.metrics = s.metrics.raise) (hcalls : s'.calls.length = s.calls.length)
      (hcompleted : s'.completed = s.completed) (hdepth : s'.inDepth = s.inDepth + 1)
  | lowered (hmetrics : s'.metrics = s.metrics.lower) (hcalls : s'.calls.length = s.calls.length)
      (hcompleted : s'.completed = s.completed) (hdepth : s.inDepth = s'.inDepth + 1)

/-- Once a call has raised the depth, its job is in it as long as it is not lowered. -/
theorem Call.inDepth_congr {c d : Call α} (hc : c.place ≠ .entered) (hd : d.place ≠ .entered)
    (hreleased : d.released = c.released) : d.inDepth = c.inDepth := by
  rw [inDepth, inDepth, hreleased, bne_iff_ne.mpr hc, bne_iff_ne.mpr hd]

namespace Call.Fits

variable {c : Call α} {stage : Stage α}

theorem released_of_entered (h : c.Fits n stage) (hp : c.place = .entered) :
    c.released = false := by
  cases h with
  | entered => rfl
  | ran _ _ _ hmail => cases hmail <;> cases hp
  | _ => cases hp

theorem counted_of_replied {w : Nat} {o : Outcome α} (h : c.Fits n (.replied w o)) :
    c.counted = false := by
  cases h
  rfl

theorem released_of_counted {w : Nat} {o : Outcome α} (h : c.Fits n (.counted w o)) :
    c.released = false := by
  cases h
  rfl

theorem inDepth_of_counted {w : Nat} {o : Outcome α} (h : c.Fits n (.counted w o)) :
    c.inDepth = true := by
  cases h with
  | ran _ _ _ hmail => cases hmail <;> rfl

theorem counted_of_refused (h : c.Fits n stage) (hp : c.place = .refused) :
    c.counted = false := by
  cases h with
  | refused => rfl
  | ran _ _ _ hmail => cases hmail <;> cases hp
  | _ => cases hp

theorem inDepth_of_settled (h : c.Fits n stage) (hp : c.place = .settled) :
    c.inDepth = true := by
  cases h with
  | settled => rfl
  | ran _ _ _ hmail => cases hmail <;> cases hp
  | _ => cases hp

end Call.Fits

namespace Change

variable {i : Nat} {c d : Call α}

/-- The numbers of the jobs when one call becomes another. -/
theorem counts (hc : s.calls[i]? = some c) (hcalls : s'.calls = s.calls.set i d) :
    s'.calls.length = s.calls.length ∧
      s'.completed + c.counted.toNat = s.completed + d.counted.toNat ∧
      s'.inDepth + c.inDepth.toNat = s.inDepth + d.inDepth.toNat := by
  unfold State.completed State.inDepth
  rw [hcalls, countP_eq_sum, countP_eq_sum, countP_eq_sum, countP_eq_sum]
  exact ⟨List.length_set .., sum_set hc, sum_set hc⟩

theorem of_same (hc : s.calls[i]? = some c) (hcalls : s'.calls = s.calls.set i d)
    (hmetrics : s'.metrics = s.metrics) (hcounted : d.counted = c.counted)
    (hdepth : d.inDepth = c.inDepth) : Change s s' := by
  obtain ⟨hlength, hcompleted, hin⟩ := counts hc hcalls
  rw [hcounted] at hcompleted
  rw [hdepth] at hin
  exact .nothing hmetrics hlength (by omega) (by omega)

theorem of_completed (hc : s.calls[i]? = some c) (hcalls : s'.calls = s.calls.set i d)
    (hmetrics : s'.metrics = s.metrics.countCompletion) (hbefore : c.counted = false)
    (hafter : d.counted = true) (hdepth : d.inDepth = c.inDepth) : Change s s' := by
  obtain ⟨hlength, hcompleted, hin⟩ := counts hc hcalls
  rw [hbefore, hafter] at hcompleted
  rw [hdepth] at hin
  exact .completed hmetrics hlength hcompleted (by omega)

theorem of_raised (hc : s.calls[i]? = some c) (hcalls : s'.calls = s.calls.set i d)
    (hmetrics : s'.metrics = s.metrics.raise) (hcounted : d.counted = c.counted)
    (hbefore : c.inDepth = false) (hafter : d.inDepth = true) : Change s s' := by
  obtain ⟨hlength, hcompleted, hin⟩ := counts hc hcalls
  rw [hcounted] at hcompleted
  rw [hbefore, hafter] at hin
  exact .raised hmetrics hlength (by omega) hin

theorem of_lowered (hc : s.calls[i]? = some c) (hcalls : s'.calls = s.calls.set i d)
    (hmetrics : s'.metrics = s.metrics.lower) (hcounted : d.counted = c.counted)
    (hbefore : c.inDepth = true) (hafter : d.inDepth = false) : Change s s' := by
  obtain ⟨hlength, hcompleted, hin⟩ := counts hc hcalls
  rw [hcounted] at hcompleted
  rw [hbefore, hafter] at hin
  exact .lowered hmetrics hlength (by omega) hin.symm

/-- A step that makes the depth one less takes one job from it. -/
theorem lowered_of_depth (h : Change s s')
    (hlower : s'.metrics.depth = s.metrics.depth - 1) : s.inDepth = s'.inDepth + 1 := by
  have hsame : s.metrics.depth ≠ s.metrics.depth - 1 := by grind
  have hmore : s.metrics.depth + 1 ≠ s.metrics.depth - 1 := by grind
  cases h with
  | lowered _ _ _ hdepth => exact hdepth
  | raised hmetrics => exact absurd ((congrArg (·.depth) hmetrics).symm.trans hlower) hmore
  | nothing hmetrics => exact absurd ((congrArg (·.depth) hmetrics).symm.trans hlower) hsame
  | dispatched hmetrics => exact absurd ((congrArg (·.depth) hmetrics).symm.trans hlower) hsame
  | completed hmetrics => exact absurd ((congrArg (·.depth) hmetrics).symm.trans hlower) hsame

end Change

/-- Each step of a pool whose jobs are at their stages changes a counter with its number. -/
theorem State.Staged.change {stage : Nat → Stage α} (h : s.Staged n stage) (hstep : Step s s') :
    Change s s' := by
  cases hstep with
  | dispatch name =>
      refine .dispatched rfl (by simp) ?_ ?_
      · simp [State.completed, Call.enter]
      · simp [State.inDepth, Call.enter, Call.inDepth]
  | raise hc hp =>
      have hreleased := (h.fits hc).released_of_entered hp
      exact .of_raised hc rfl rfl rfl (by simp [Call.inDepth, hp])
        (by simp [Call.inDepth, hreleased])
  | enqueue hc hp _ =>
      exact .of_same hc rfl rfl rfl
        (Call.inDepth_congr (by simp [hp]) (by simp) rfl)
  | take _ _ => exact .nothing rfl rfl rfl rfl
  | work _ hc o => exact .of_same hc rfl rfl rfl rfl
  | complete hw hc =>
      have hfits := h.fits hc
      obtain ⟨o, hstage⟩ := Stage.tended_replied ((h.tended rfl).mp hw)
      rw [hstage] at hfits
      exact .of_completed hc rfl rfl hfits.counted_of_replied rfl rfl
  | release hw hc =>
      have hfits := h.fits hc
      obtain ⟨o, hstage⟩ := Stage.tended_counted ((h.tended rfl).mp hw)
      rw [hstage] at hfits
      exact .of_lowered hc rfl rfl rfl hfits.inDepth_of_counted (by simp [Call.inDepth])
  | receive hc hp _ =>
      exact .of_same hc rfl rfl rfl
        (Call.inDepth_congr (by simp [hp]) (by simp) rfl)
  | refuse hc hp _ =>
      exact .of_same hc rfl rfl rfl
        (Call.inDepth_congr (by simp [hp]) (by simp) rfl)
  | settle hc hp =>
      exact .of_completed hc rfl rfl ((h.fits hc).counted_of_refused hp) rfl
        (Call.inDepth_congr (by simp [hp]) (by simp) rfl)
  | turnAway hc hp =>
      exact .of_lowered hc rfl rfl rfl ((h.fits hc).inDepth_of_settled hp) (by simp [Call.inDepth])

/-! ## The counters -/

/-- The counters are the numbers that they stand for. -/
structure State.Accounted (s : State α) : Prop where
  dispatched : s.metrics.dispatched = .ofNat s.calls.length
  completed : s.metrics.completed = .ofNat s.completed
  depth : s.metrics.depth = .ofNat s.inDepth

theorem State.Accounted.change (h : s.Accounted) (hchange : Change s s') : s'.Accounted := by
  obtain ⟨hdispatched, hdone, hraised⟩ := h
  cases hchange with
  | nothing hmetrics hcalls hcompleted hdepth =>
      constructor
      · rw [hmetrics, hcalls, hdispatched]
      · rw [hmetrics, hcompleted, hdone]
      · rw [hmetrics, hdepth, hraised]
  | dispatched hmetrics hcalls hcompleted hdepth =>
      constructor
      · rw [hmetrics, hcalls, UInt64.ofNat_add, ← hdispatched]; rfl
      · rw [hmetrics, hcompleted, ← hdone]; rfl
      · rw [hmetrics, hdepth, ← hraised]; rfl
  | completed hmetrics hcalls hcompleted hdepth =>
      constructor
      · rw [hmetrics, hcalls, ← hdispatched]; rfl
      · rw [hmetrics, hcompleted, UInt64.ofNat_add, ← hdone]; rfl
      · rw [hmetrics, hdepth, ← hraised]; rfl
  | raised hmetrics hcalls hcompleted hdepth =>
      constructor
      · rw [hmetrics, hcalls, ← hdispatched]; rfl
      · rw [hmetrics, hcompleted, ← hdone]; rfl
      · rw [hmetrics, hdepth, UInt64.ofNat_add, ← hraised]; rfl
  | lowered hmetrics hcalls hcompleted hdepth =>
      rw [hdepth, UInt64.ofNat_add] at hraised
      constructor
      · rw [hmetrics, hcalls, ← hdispatched]; rfl
      · rw [hmetrics, hcompleted, ← hdone]; rfl
      · rw [hmetrics, Metrics.lower, hraised]
        exact UInt64.add_sub_cancel _ _

/-- When all jobs are through, the depth is zero and the other counters agree. -/
theorem State.Accounted.settled (h : s.Accounted) (hthrough : ∀ c ∈ s.calls, c.isThrough = true) :
    s.metrics = ⟨0, .ofNat s.calls.length, .ofNat s.calls.length⟩ := by
  have hcompleted : s.completed = s.calls.length :=
    List.countP_eq_length.mpr fun c hc => (Bool.and_eq_true_iff.mp (hthrough c hc)).1
  have hdepth : s.inDepth = 0 := by
    refine List.countP_eq_zero.mpr fun c hc => ?_
    rw [Call.inDepth, (Bool.and_eq_true_iff.mp (hthrough c hc)).2]
    simp
  have hm : s.metrics = ⟨s.metrics.depth, s.metrics.dispatched, s.metrics.completed⟩ := rfl
  rw [hm, h.depth, h.dispatched, h.completed, hcompleted, hdepth]
  rfl

theorem Reachable.accounted (h : Reachable n s) : s.Accounted := by
  induction h with
  | start => exact ⟨rfl, rfl, rfl⟩
  | next h hstep ih =>
      obtain ⟨stage, hstaged⟩ := h.exists_staged
      exact ih.change (hstaged.change hstep)

end Waymark.WorkerPool
