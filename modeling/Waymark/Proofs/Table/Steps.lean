import Waymark.Proofs.Except
import Waymark.Table.Building

/-!
# Steps of building a tree

A step may be refused, and it writes a log; whether it is refused and what it
gives does not depend on what the log has so far. `Building.Makes` says just
when a step succeeds and what then holds of its result, and steps are put
together by `Makes.bind`: both have to succeed.
-/

namespace Waymark.Building

variable {α β : Type} {P P' : Prop} {Q Q' : α → Prop}

/-- The step succeeds exactly under `P`, and what it gives satisfies `Q`. -/
structure Makes (x : Building α) (P : Prop) (Q : α → Prop) : Prop where
  ok : P → ∀ log, ∃ a log', x.run.run log = (.ok a, log') ∧ Q a
  error : ¬ P → ∀ log, ∃ e log', x.run.run log = (.error e, log')

theorem Makes.imp {x : Building α} (h : x.Makes P Q) (hP : P ↔ P') (hQ : ∀ a, Q a → Q' a) :
    x.Makes P' Q' where
  ok hp log := by
    obtain ⟨a, log', hrun, ha⟩ := h.ok (hP.mpr hp) log
    exact ⟨a, log', hrun, hQ a ha⟩
  error hp log := h.error (fun hp' => hp (hP.mp hp')) log

theorem makes_pure {a : α} (ha : Q a) : (pure a : Building α).Makes True Q where
  ok _ log := ⟨a, log, rfl, ha⟩
  error hp := absurd trivial hp

theorem makes_throw (e : Failure) : (throw e : Building α).Makes False Q where
  ok hp := hp.elim
  error _ log := ⟨e, log, rfl⟩

theorem makes_note (e : Log.Event) : (note e).Makes True fun _ => True where
  ok _ log := ⟨(), log ++ [e], rfl, trivial⟩
  error hp := absurd trivial hp

theorem makes_register (reason : String) (r : Except RouteError α) :
    (register reason r).Makes (∃ a, r = .ok a) fun a => r = .ok a where
  ok := by
    rintro ⟨a, rfl⟩ log
    exact ⟨a, log, rfl, rfl⟩
  error := by
    intro hp log
    cases r with
    | ok a => exact absurd ⟨a, rfl⟩ hp
    | error e => exact ⟨_, log, rfl⟩

theorem run_bind (x : Building α) (f : α → Building β) (log : List Log.Event) :
    (x >>= f).run.run log = match x.run.run log with
      | (.ok a, log') => (f a).run.run log'
      | (.error e, log') => (.error e, log') := by
  change (ExceptT.bindCont f (x.run.run log).1) (x.run.run log).2 = _
  cases x.run.run log with
  | mk a log' => cases a <;> rfl

/-- Two steps succeed if both do. What the second one needs has to be the same for all results
of the first. -/
theorem Makes.bind {x : Building α} {f : α → Building β} {R : β → Prop} (hx : x.Makes P Q)
    (hf : ∀ a, Q a → (f a).Makes P' R) : (x >>= f).Makes (P ∧ P') R where
  ok := by
    rintro ⟨hp, hp'⟩ log
    obtain ⟨a, log', hrun, ha⟩ := hx.ok hp log
    rw [run_bind, hrun]
    exact (hf a ha).ok hp' log'
  error := by
    intro hp log
    rw [run_bind]
    by_cases hfirst : P
    · obtain ⟨a, log', hrun, ha⟩ := hx.ok hfirst log
      rw [hrun]
      exact (hf a ha).error (fun hp' => hp ⟨hfirst, hp'⟩) log'
    · obtain ⟨e, log', hrun⟩ := hx.error hfirst log
      rw [hrun]
      exact ⟨e, log', rfl⟩

end Waymark.Building
