import Mathlib.Data.List.Basic

/-!
# Runs of a step function

A system is given by its initial states and a partial step function: an action either
is not enabled in a state or leads to exactly one next state.  Interleaving is left to
the actions, so a statement about every reachable state is one about every schedule.

* `Reachable.invariant`: what holds at the start and survives every step always holds.
* `Reachable.invariant_of`: the same, using what is known of reachable states already.
* `Steps.stable`: what every step keeps, a run keeps.
* `steps_of_exec`, `reachable_of_exec`: a list of actions that goes through is a run.
-/

/-- A system: where it starts, and what each action does. -/
structure StepSystem (σ α : Type) where
  Init : σ → Prop
  step : σ → α → Option σ

namespace StepSystem

variable {σ α : Type} (S : StepSystem σ α)

/-- The states a run can be in. -/
inductive Reachable : σ → Prop
  | init {s : σ} (h : S.Init s) : Reachable s
  | step {s s' : σ} {a : α} (hs : Reachable s) (h : S.step s a = some s') : Reachable s'

/-- A run from one state to another. -/
inductive Steps : σ → σ → Prop
  | refl (s : σ) : Steps s s
  | tail {s t u : σ} {a : α} (hst : Steps s t) (h : S.step t a = some u) : Steps s u

variable {S}

/-- **The invariant rule.** -/
theorem Reachable.invariant {P : σ → Prop} (hinit : ∀ s, S.Init s → P s)
    (hstep : ∀ s a s', P s → S.step s a = some s' → P s') {s : σ} (h : S.Reachable s) : P s := by
  induction h with
  | init h => exact hinit _ h
  | step _ h ih => exact hstep _ _ _ ih h

/-- The invariant rule on top of another invariant. -/
theorem Reachable.invariant_of {P Q : σ → Prop} (hQ : ∀ s, S.Reachable s → Q s)
    (hinit : ∀ s, S.Init s → P s)
    (hstep : ∀ s a s', Q s → P s → S.step s a = some s' → P s') {s : σ}
    (h : S.Reachable s) : P s := by
  induction h with
  | init h => exact hinit _ h
  | step hs h ih => exact hstep _ _ _ (hQ _ hs) ih h

/-- What a run reaches from a reachable state is reachable. -/
theorem Reachable.steps {s t : σ} (h : S.Reachable s) (hst : S.Steps s t) : S.Reachable t := by
  induction hst with
  | refl => exact h
  | tail _ hstep ih => exact .step ih hstep

/-- What every step from a reachable state keeps, a run keeps. -/
theorem Steps.stable {P : σ → Prop}
    (hstep : ∀ s a s', S.Reachable s → P s → S.step s a = some s' → P s') {s t : σ}
    (hs : S.Reachable s) (hP : P s) (hst : S.Steps s t) : P t := by
  induction hst with
  | refl => exact hP
  | tail hrun h ih => exact hstep _ _ _ (hs.steps hrun) ih h

/-- Run a list of actions; `none` when one is not enabled. -/
def exec (S : StepSystem σ α) : σ → List α → Option σ
  | s, [] => some s
  | s, a :: as =>
    match S.step s a with
    | none => none
    | some s' => exec S s' as

theorem Steps.head {s t u : σ} {a : α} (h : S.step s a = some t) (htu : S.Steps t u) :
    S.Steps s u := by
  induction htu with
  | refl => exact .tail (.refl s) h
  | tail _ hstep ih => exact .tail ih hstep

/-- A list of actions that goes through is a run. -/
theorem steps_of_exec {as : List α} : ∀ {s s' : σ}, S.exec s as = some s' → S.Steps s s' := by
  induction as with
  | nil =>
    intro s s' h
    exact Option.some.inj h ▸ .refl s
  | cons a as ih =>
    intro s s' h
    unfold exec at h
    cases hstep : S.step s a with
    | none => simp [hstep] at h
    | some t =>
      rw [hstep] at h
      exact .head hstep (ih h)

/-- A list of actions that goes through reaches its last state. -/
theorem reachable_of_exec {as : List α} {s s' : σ} (hs : S.Reachable s)
    (h : S.exec s as = some s') : S.Reachable s' :=
  hs.steps (steps_of_exec h)

end StepSystem
