import Mathlib.Logic.Function.Basic
import Waymark.Proofs.WorkerPool.Steps

/-!
# The stages of a job

A job goes from its caller into the queue, from there to one worker, and with
that worker through the run, the counting and the lowering. The invariant is
that this is so: there is an assignment of stages to jobs such that the queue
holds just the jobs that are queued, each worker has just the job whose stage
names it, and what a call keeps is what its stage says (`State.Staged`). Since
a job is at one stage, it is at one place only, and it is run at most once.

Whether the caller has received the reply is left open from the run on: it may
do so at any time then.
-/

namespace Waymark.WorkerPool

variable {α : Type}

/-- Where a job is. -/
inductive Stage (α : Type) where
  /-- With its caller: it is not in the queue yet, or was refused. -/
  | outside
  | queued
  | held (worker : Nat)
  | replied (worker : Nat) (outcome : Outcome α)
  | counted (worker : Nat) (outcome : Outcome α)
  | through (worker : Nat) (outcome : Outcome α)

/-- The job that a worker has. -/
def Worker.job? : Worker → Option Nat
  | .idle => none
  | .holding i => some i
  | .replied i => some i
  | .counted i => some i

/-- The worker that has the job at a stage, and what it is at. -/
def Stage.tended (job : Nat) : Stage α → Option (Nat × Worker)
  | .held w => some (w, .holding job)
  | .replied w _ => some (w, .replied job)
  | .counted w _ => some (w, .counted job)
  | _ => none

namespace Stage

/-- The worker that ran the job, and how it ended. -/
def run? : Stage α → Option (Nat × Outcome α)
  | .replied w o => some (w, o)
  | .counted w o => some (w, o)
  | .through w o => some (w, o)
  | _ => none

theorem tended_holding {st : Stage α} {w i : Nat} (h : st.tended i = some (w, .holding i)) :
    st = .held w := by
  cases st <;> cases h
  rfl

theorem tended_replied {st : Stage α} {w i : Nat} (h : st.tended i = some (w, .replied i)) :
    ∃ o, st = .replied w o := by
  cases st <;> cases h
  exact ⟨_, rfl⟩

theorem tended_counted {st : Stage α} {w i : Nat} (h : st.tended i = some (w, .counted i)) :
    ∃ o, st = .counted w o := by
  cases st <;> cases h
  exact ⟨_, rfl⟩

def isCounted : Stage α → Bool
  | .counted _ _ => true
  | .through _ _ => true
  | _ => false

def isReleased : Stage α → Bool
  | .through _ _ => true
  | _ => false

end Stage

/-- The reply is on its way, or the caller has it. -/
inductive Mail (name : String) (outcome : Outcome α) :
    Place → List (Outcome α) → Option (Except DispatchError α) → Prop
  | sent : Mail name outcome .waiting [outcome] none
  | received : Mail name outcome .returned [] (some (report true name outcome))

/-- What a call keeps when its job is at a stage. A job is refused only by a pool without
workers. -/
inductive Call.Fits (workers : Nat) : Call α → Stage α → Prop
  | entered {name : String} : Fits workers (.enter name) .outside
  | raised {name : String} : Fits workers ⟨name, .raised, [], none, [], false, false⟩ .outside
  | queued {name : String} : Fits workers ⟨name, .waiting, [], none, [], false, false⟩ .queued
  | held {name : String} {w : Nat} :
      Fits workers ⟨name, .waiting, [], none, [], false, false⟩ (.held w)
  | ran (st : Stage α) {name : String} {w : Nat} {o : Outcome α} {place : Place}
      {inbox : List (Outcome α)} {result : Option (Except DispatchError α)} (hw : w < workers)
      (hrun : st.run? = some (w, o)) (hmail : Mail name o place inbox result) :
      Fits workers ⟨name, place, inbox, result, [(w, o)], st.isCounted, st.isReleased⟩ st
  | refused {name : String} (hnone : workers = 0) :
      Fits workers ⟨name, .refused, [], none, [], false, false⟩ .outside
  | settled {name : String} (hnone : workers = 0) :
      Fits workers ⟨name, .settled, [], none, [], true, false⟩ .outside
  | turnedAway {name : String} (hnone : workers = 0) :
      Fits workers ⟨name, .returned, [], some (.error .poolUnavailable), [], true, true⟩ .outside

namespace Call.Fits

variable {n : Nat} {c : Call α} {stage : Stage α}

theorem raise (h : c.Fits n stage) (hp : c.place = .entered) :
    { c with place := .raised }.Fits n stage := by
  cases h with
  | entered => exact .raised
  | ran _ _ _ hmail => cases hmail <;> cases hp
  | _ => cases hp

theorem enqueue (h : c.Fits n stage) (hp : c.place = .raised) :
    stage = .outside ∧ { c with place := .waiting }.Fits n .queued := by
  cases h with
  | raised => exact ⟨rfl, .queued⟩
  | ran _ _ _ hmail => cases hmail <;> cases hp
  | _ => cases hp

theorem take (h : c.Fits n .queued) (w : Nat) : c.Fits n (.held w) := by
  cases h with
  | queued => exact .held
  | ran _ _ hrun _ => cases hrun

theorem work {w : Nat} (h : c.Fits n (.held w)) (hw : w < n) (o : Outcome α) :
    { c with inbox := c.inbox ++ [o], runs := c.runs ++ [(w, o)] }.Fits n (.replied w o) := by
  cases h with
  | held => exact .ran (.replied w o) hw rfl .sent
  | ran _ _ hrun _ => cases hrun

theorem complete {w : Nat} {o : Outcome α} (h : c.Fits n (.replied w o)) :
    { c with counted := true }.Fits n (.counted w o) := by
  cases h with
  | ran _ hw hrun hmail =>
      cases hrun
      exact .ran (.counted w o) hw rfl hmail

theorem release {w : Nat} {o : Outcome α} (h : c.Fits n (.counted w o)) :
    { c with released := true }.Fits n (.through w o) := by
  cases h with
  | ran _ hw hrun hmail =>
      cases hrun
      exact .ran (.through w o) hw rfl hmail

theorem receive {o : Outcome α} {inbox : List (Outcome α)} (h : c.Fits n stage)
    (hp : c.place = .waiting) (hin : c.inbox = o :: inbox) :
    { c with place := .returned, inbox := inbox,
             result := some (report true c.name o) }.Fits n stage := by
  cases h with
  | ran _ hw hrun hmail =>
      cases hmail with
      | sent =>
          cases hin
          exact .ran _ hw hrun .received
      | received => cases hp
  | queued => cases hin
  | held => cases hin
  | _ => cases hp

theorem refuse (h : c.Fits n stage) (hp : c.place = .raised) (hnone : n = 0) :
    { c with place := .refused }.Fits n stage := by
  cases h with
  | raised => exact .refused hnone
  | ran _ _ _ hmail => cases hmail <;> cases hp
  | _ => cases hp

theorem settle (h : c.Fits n stage) (hp : c.place = .refused) :
    { c with place := .settled, counted := true }.Fits n stage := by
  cases h with
  | refused hnone => exact .settled hnone
  | ran _ _ _ hmail => cases hmail <;> cases hp
  | _ => cases hp

theorem turnAway (h : c.Fits n stage) (hp : c.place = .settled) :
    { c with place := .returned, result := some (.error .poolUnavailable),
             released := true }.Fits n stage := by
  cases h with
  | settled hnone => exact .turnedAway hnone
  | ran _ _ _ hmail => cases hmail <;> cases hp
  | _ => cases hp

end Call.Fits

/-! ## Stages of a state -/

/-- Queue, workers and calls are as the stages of the jobs say. -/
structure State.Staged (workers : Nat) (s : State α) (stage : Nat → Stage α) : Prop where
  size : s.workers.length = workers
  nodup : s.queue.Nodup
  queued : ∀ i, i ∈ s.queue ↔ stage i = .queued
  tended : ∀ {w : Nat} {k : Worker} {i : Nat}, k.job? = some i →
    (s.workers[w]? = some k ↔ (stage i).tended i = some (w, k))
  fresh : ∀ i, s.calls.length ≤ i → stage i = .outside
  fits : ∀ {i} {c : Call α}, s.calls[i]? = some c → c.Fits workers (stage i)

namespace State.Staged

variable {n : Nat} {s : State α} {stage : Nat → Stage α}

theorem initial (n : Nat) : (State.initial n).Staged n (fun _ => (.outside : Stage α)) where
  size := List.length_replicate ..
  nodup := .nil
  queued i := iff_of_false List.not_mem_nil fun h => nomatch h
  tended := by
    intro w k i hk
    refine iff_of_false (fun h => ?_) (fun h => nomatch h)
    obtain rfl := List.eq_of_mem_replicate (List.mem_of_getElem? h)
    cases hk
  fresh _ _ := rfl
  fits h := nomatch h

theorem lt_length (h : s.Staged n stage) {w : Nat} {k : Worker} (hw : s.workers[w]? = some k) :
    w < n :=
  h.size ▸ (List.getElem?_eq_some_iff.mp hw).1

/-- A call that changes within the stage of its job changes nothing else. -/
theorem set_call (h : s.Staged n stage) {i : Nat} {c : Call α} (hfits : c.Fits n (stage i))
    (metrics : Metrics) :
    ({ s with metrics := metrics, calls := s.calls.set i c } : State α).Staged n stage where
  size := h.size
  nodup := h.nodup
  queued := h.queued
  tended := h.tended
  fresh j hj := h.fresh j (by rwa [List.length_set] at hj)
  fits := by
    intro j d hd
    rw [List.getElem?_set] at hd
    split at hd
    · rename_i heq
      split at hd
      · cases hd
        exact heq ▸ hfits
      · cases hd
    · exact h.fits hd

/-- A job comes to another stage: it leaves the queue or comes into it as the stages say, and so
do the workers have it. -/
theorem advance (h : s.Staged n stage) {i : Nat} (hi : i < s.calls.length) {st : Stage α}
    {c : Call α} (hfits : c.Fits n st) (metrics : Metrics) {queue : List Nat}
    (hnodup : queue.Nodup) (hhere : i ∈ queue ↔ st = .queued)
    (hothers : ∀ j ≠ i, j ∈ queue ↔ j ∈ s.queue) {workers : List Worker}
    (hsize : workers.length = s.workers.length)
    (htends : ∀ {w : Nat} {k : Worker}, k.job? = some i →
      (workers[w]? = some k ↔ st.tended i = some (w, k)))
    (hkeeps : ∀ {w : Nat} {k : Worker} {j : Nat}, k.job? = some j → j ≠ i →
      (workers[w]? = some k ↔ s.workers[w]? = some k)) :
    (State.mk metrics queue workers (s.calls.set i c)).Staged n (Function.update stage i st) where
  size := hsize.trans h.size
  nodup := hnodup
  queued j := by
    by_cases hj : j = i
    · rw [hj, Function.update_self, hhere]
    · rw [Function.update_of_ne hj, hothers j hj, h.queued]
  tended := by
    intro w k j hk
    by_cases hj : j = i
    · rw [hj, Function.update_self, htends (hj ▸ hk)]
    · rw [Function.update_of_ne hj, hkeeps hk hj, h.tended hk]
  fresh j hj := by
    rw [List.length_set] at hj
    rw [Function.update_of_ne (by omega), h.fresh j hj]
  fits := by
    intro j d hd
    by_cases hj : j = i
    · rw [hj, List.getElem?_set_self hi] at hd
      cases hd
      rwa [hj, Function.update_self]
    · rw [List.getElem?_set_ne (Ne.symm hj)] at hd
      rw [Function.update_of_ne hj]
      exact h.fits hd

/-- A job comes to another stage with a worker that had no other job. -/
theorem pass (h : s.Staged n stage) {w i : Nat} {k k' : Worker} (hw : s.workers[w]? = some k)
    (hk : ∀ j, k.job? = some j → j = i) (hk' : ∀ j, k'.job? = some j → j = i)
    (hhas : ∀ {v : Nat} {m : Worker}, (stage i).tended i = some (v, m) → v = w)
    (hi : i < s.calls.length) {st : Stage α} {c : Call α} (hfits : c.Fits n st)
    (metrics : Metrics) {queue : List Nat} (hnodup : queue.Nodup)
    (hqueue : ∀ j, j ∈ queue ↔ j ≠ i ∧ j ∈ s.queue) (hst : st ≠ .queued)
    (htended : ∀ {v : Nat} {m : Worker}, m.job? = some i →
      (st.tended i = some (v, m) ↔ v = w ∧ m = k')) :
    (State.mk metrics queue (s.workers.set w k') (s.calls.set i c)).Staged n
      (Function.update stage i st) := by
  have hlt : w < s.workers.length := (List.getElem?_eq_some_iff.mp hw).1
  refine h.advance hi hfits metrics hnodup
    (iff_of_false (fun hin => ((hqueue i).mp hin).1 rfl) hst)
    (fun j hj => (hqueue j).trans (and_iff_right hj)) (List.length_set ..) ?_ ?_
  · intro v m hm
    rw [htended hm]
    by_cases hv : v = w
    · rw [hv, List.getElem?_set_self hlt, Option.some.injEq, eq_comm, and_iff_right rfl]
    · rw [List.getElem?_set_ne (Ne.symm hv), h.tended hm]
      exact iff_of_false (fun hhad => hv (hhas hhad)) fun hnow => hv hnow.1
  · intro v m j hm hj
    by_cases hv : v = w
    · rw [hv, List.getElem?_set_self hlt, hw, Option.some.injEq, Option.some.injEq]
      refine iff_of_false ?_ ?_
      · rintro rfl
        exact hj (hk' j hm)
      · rintro rfl
        exact hj (hk j hm)
    · rw [List.getElem?_set_ne (Ne.symm hv)]

theorem work_on (h : s.Staged n stage) {w i : Nat} {k k' : Worker} (hw : s.workers[w]? = some k)
    (hk : k.job? = some i) (hk' : ∀ j, k'.job? = some j → j = i) (hi : i < s.calls.length)
    {st : Stage α} {c : Call α} (hfits : c.Fits n st) (metrics : Metrics) (hst : st ≠ .queued)
    (htended : ∀ {v : Nat} {m : Worker}, m.job? = some i →
      (st.tended i = some (v, m) ↔ v = w ∧ m = k')) :
    (State.mk metrics s.queue (s.workers.set w k') (s.calls.set i c)).Staged n
      (Function.update stage i st) := by
  have hstage := (h.tended hk).mp hw
  refine h.pass hw (fun j hj => Option.some.inj (hj.symm.trans hk)) hk' ?_ hi hfits metrics
    h.nodup ?_ hst htended
  · intro v m hhas
    exact congrArg Prod.fst (Option.some.inj (hhas.symm.trans hstage))
  · intro j
    refine iff_and_self.mpr fun hj hji => ?_
    rw [← hji, (h.queued j).mp hj] at hstage
    cases hstage

/-- A call that comes new is with its caller. -/
theorem dispatch (h : s.Staged n stage) (name : String) (metrics : Metrics) :
    ({ s with metrics := metrics, calls := s.calls ++ [.enter name] } : State α).Staged n
      stage where
  size := h.size
  nodup := h.nodup
  queued := h.queued
  tended := h.tended
  fresh j hj := h.fresh j (by rw [List.length_append] at hj; omega)
  fits := by
    intro j d hd
    rw [List.getElem?_append] at hd
    split at hd
    · exact h.fits hd
    · rename_i hj
      rw [h.fresh j (by omega)]
      obtain rfl := List.mem_singleton.mp (List.mem_of_getElem? hd)
      exact .entered

theorem lt_calls (h : s.Staged n stage) {i : Nat} (hi : stage i ≠ .outside) :
    i < s.calls.length := by
  by_contra hge
  exact hi (h.fresh i (by omega))

theorem take (h : s.Staged n stage) {w i : Nat} {queue : List Nat} (hw : s.workers[w]? = some .idle)
    (hq : s.queue = i :: queue) :
    ({ s with queue := queue, workers := s.workers.set w (.holding i) } : State α).Staged n
      (Function.update stage i (.held w)) := by
  have hstage : stage i = .queued := (h.queued i).mp (hq ▸ List.mem_cons_self ..)
  have hnodup := h.nodup
  rw [hq, List.nodup_cons] at hnodup
  have hi : i < s.calls.length := h.lt_calls (by rw [hstage]; exact fun h => nomatch h)
  have hfits := h.fits (List.getElem?_eq_getElem hi)
  rw [hstage] at hfits
  have hholding : ∀ j, (Worker.holding i).job? = some j → j = i := by simp [Worker.job?, eq_comm]
  have hpass := h.pass hw (fun _ hj => nomatch hj) hholding (by simp [hstage, Stage.tended]) hi
    (hfits.take w) s.metrics hnodup.2 ?_ (fun h => nomatch h) ?_
  · rwa [List.set_getElem_self hi] at hpass
  · intro j
    rw [hq, List.mem_cons, and_or_left]
    constructor
    · intro hj
      exact Or.inr ⟨fun hji => hnodup.1 (hji ▸ hj), hj⟩
    · rintro (⟨hne, heq⟩ | ⟨_, hj⟩)
      · exact absurd heq hne
      · exact hj
  · simp [Stage.tended, eq_comm]

theorem enqueue (h : s.Staged n stage) {i : Nat} {c : Call α} (hi : i < s.calls.length)
    (hstage : stage i = .outside) (hfits : c.Fits n .queued) :
    ({ s with queue := s.queue ++ [i], calls := s.calls.set i c } : State α).Staged n
      (Function.update stage i .queued) := by
  have hout : i ∉ s.queue := fun hin => by
    rw [(h.queued i).mp hin] at hstage
    cases hstage
  refine h.advance hi hfits s.metrics
    (List.nodup_append.mpr ⟨h.nodup, List.pairwise_singleton _ i, ?_⟩) (by simp)
    (fun j hj => by simp [hj]) rfl ?_ fun _ _ => .rfl
  · rintro j hj _ hji rfl
    exact hout (List.mem_singleton.mp hji ▸ hj)
  · intro w k hk
    rw [h.tended hk, hstage]
    simp [Stage.tended]

/-- Each step takes jobs from stage to stage. -/
theorem step {s' : State α} (h : s.Staged n stage) (hstep : Step s s') :
    ∃ stage', s'.Staged n stage' := by
  cases hstep with
  | dispatch name => exact ⟨stage, h.dispatch name _⟩
  | raise hc hp => exact ⟨stage, h.set_call ((h.fits hc).raise hp) _⟩
  | enqueue hc hp _ =>
      obtain ⟨hstage, hfits⟩ := (h.fits hc).enqueue hp
      exact ⟨_, h.enqueue (List.getElem?_eq_some_iff.mp hc).1 hstage hfits⟩
  | take hw hq => exact ⟨_, h.take hw hq⟩
  | @work w i c hw hc o =>
      have hfits := h.fits hc
      rw [Stage.tended_holding ((h.tended rfl).mp hw)] at hfits
      exact ⟨_, h.work_on hw rfl (by simp [Worker.job?, eq_comm])
        (List.getElem?_eq_some_iff.mp hc).1 (hfits.work (h.lt_length hw) o) _
        (fun h => nomatch h) (by simp [Stage.tended, eq_comm])⟩
  | @complete w i c hw hc =>
      have hfits := h.fits hc
      obtain ⟨o, hstage⟩ := Stage.tended_replied ((h.tended rfl).mp hw)
      rw [hstage] at hfits
      exact ⟨_, h.work_on hw rfl (by simp [Worker.job?, eq_comm])
        (List.getElem?_eq_some_iff.mp hc).1 hfits.complete _
        (fun h => nomatch h) (by simp [Stage.tended, eq_comm])⟩
  | @release w i c hw hc =>
      have hfits := h.fits hc
      obtain ⟨o, hstage⟩ := Stage.tended_counted ((h.tended rfl).mp hw)
      rw [hstage] at hfits
      refine ⟨_, h.work_on hw rfl (by simp [Worker.job?])
        (List.getElem?_eq_some_iff.mp hc).1 hfits.release _ (fun h => nomatch h) ?_⟩
      intro v m hm
      refine iff_of_false (by simp [Stage.tended]) ?_
      rintro ⟨_, rfl⟩
      cases hm
  | receive hc hp hin => exact ⟨stage, h.set_call ((h.fits hc).receive hp hin) _⟩
  | refuse hc hp hw =>
      have hnone : n = 0 := h.size ▸ List.length_eq_zero_iff.mpr hw
      exact ⟨stage, h.set_call ((h.fits hc).refuse hp hnone) _⟩
  | settle hc hp => exact ⟨stage, h.set_call ((h.fits hc).settle hp) _⟩
  | turnAway hc hp => exact ⟨stage, h.set_call ((h.fits hc).turnAway hp) _⟩

end State.Staged

/-- In every state that a pool comes to, each job is at one stage. -/
theorem Reachable.exists_staged {n : Nat} {s : State α} (h : Reachable n s) :
    ∃ stage, s.Staged n stage := by
  induction h with
  | start => exact ⟨_, .initial n⟩
  | next _ hstep ih =>
      obtain ⟨stage, hstaged⟩ := ih
      exact hstaged.step hstep

end Waymark.WorkerPool
