import AmigaDrivers.Foundation.StepSystem

/-!
# Runs with their history

A property of a whole run often speaks of what has happened before.  `recorded` keeps the steps
a system has taken beside its state, where nothing reads them; `guarded` leaves out the actions
that the surroundings promise not to take, a promise that may look at the history.

* `Reachable.of_recorded`, `Reachable.exists_recorded`: recording takes no run away and adds none.
* `Reachable.of_guarded`: a guarded run is a run.
-/

/-- A step that was taken. -/
structure Taken (σ α : Type) where
  before : σ
  action : α
  after : σ

namespace StepSystem

variable {σ α : Type}

/-- The system with the steps it has taken, the latest first. -/
def recorded (S : StepSystem σ α) : StepSystem (σ × List (Taken σ α)) α where
  Init s := S.Init s.1 ∧ s.2 = []
  step s a := (S.step s.1 a).map fun t => (t, ⟨s.1, a, t⟩ :: s.2)

/-- The system without the actions that are not allowed. -/
def guarded (S : StepSystem σ α) (allowed : σ → α → Bool) : StepSystem σ α where
  Init := S.Init
  step s a := if allowed s a then S.step s a else none

variable {S : StepSystem σ α}

/-- A recorded step. -/
theorem recorded_step {s s' : σ × List (Taken σ α)} {a : α} (h : S.recorded.step s a = some s') :
    S.step s.1 a = some s'.1 ∧ s'.2 = ⟨s.1, a, s'.1⟩ :: s.2 := by
  obtain ⟨t, hstep, rfl⟩ := Option.map_eq_some_iff.mp h
  exact ⟨hstep, rfl⟩

/-- An allowed step. -/
theorem guarded_step {allowed : σ → α → Bool} {s s' : σ} {a : α}
    (h : (S.guarded allowed).step s a = some s') : allowed s a = true ∧ S.step s a = some s' := by
  unfold guarded at h
  dsimp only at h
  split_ifs at h with hallowed
  exact ⟨hallowed, h⟩

theorem Reachable.of_recorded {s : σ × List (Taken σ α)} (h : S.recorded.Reachable s) :
    S.Reachable s.1 := by
  induction h with
  | init h => exact .init h.1
  | step _ h ih => exact .step ih (recorded_step h).1

theorem Reachable.exists_recorded {s : σ} (h : S.Reachable s) :
    ∃ history, S.recorded.Reachable (s, history) := by
  induction h with
  | init h => exact ⟨[], .init ⟨h, rfl⟩⟩
  | @step s s' a _ h ih =>
    obtain ⟨history, ih⟩ := ih
    refine ⟨⟨s, a, s'⟩ :: history, .step ih (a := a) ?_⟩
    show (S.step s a).map _ = _
    rw [h]
    rfl

theorem Reachable.of_guarded {allowed : σ → α → Bool} {s : σ}
    (h : (S.guarded allowed).Reachable s) : S.Reachable s := by
  induction h with
  | init h => exact .init h
  | step _ h ih => exact .step ih (guarded_step h).2

end StepSystem
