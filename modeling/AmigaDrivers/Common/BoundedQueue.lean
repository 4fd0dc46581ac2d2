import Mathlib.Data.List.Basic

/-!
# A bounded queue between two threads

`common::BoundedQueue`: every operation holds the mutex from its first to its last access, so
each is one step.  The blocking operations wait for a state in which the step is enabled; only
the non-blocking ones have callers here.

* `tryPush_items`: what a push adds, and that a closed queue takes nothing.
* `tryPop_eq_some`: what a pop takes.
-/

namespace AmigaDrivers

/-- `BoundedQueue`. -/
structure BoundedQueue (α : Type) where
  capacity : Nat
  items : List α := []
  closed : Bool := false
  deriving DecidableEq

namespace BoundedQueue

variable {α : Type}

/-- The constructor. -/
def new (capacity : Nat) : BoundedQueue α where
  capacity := if capacity = 0 then 1 else capacity

/-- `try_push`. -/
def tryPush (q : BoundedQueue α) (item : α) : BoundedQueue α × Bool :=
  if q.closed || decide (q.items.length ≥ q.capacity) then (q, false)
  else ({ q with items := q.items ++ [item] }, true)

/-- `try_pop`. -/
def tryPop (q : BoundedQueue α) : Option (α × BoundedQueue α) :=
  match q.items with
  | [] => none
  | item :: items => some (item, { q with items })

/-- `close`. -/
def close (q : BoundedQueue α) : BoundedQueue α := { q with closed := true }

/-- `size`. -/
def size (q : BoundedQueue α) : Nat := q.items.length

@[simp] theorem close_items (q : BoundedQueue α) : q.close.items = q.items := rfl

@[simp] theorem close_closed (q : BoundedQueue α) : q.close.closed = true := rfl

/-- A push adds its item at the end of an open queue, or nothing. -/
theorem tryPush_cases (q : BoundedQueue α) (item : α) :
    q.tryPush item = (q, false) ∨
      q.closed = false ∧ q.tryPush item = ({ q with items := q.items ++ [item] }, true) := by
  unfold tryPush
  split
  · exact .inl rfl
  · rename_i hopen
    rw [Bool.or_eq_true, not_or] at hopen
    exact .inr ⟨eq_false_of_ne_true hopen.1, rfl⟩

/-- A closed queue takes nothing. -/
theorem tryPush_of_closed {q : BoundedQueue α} (h : q.closed = true) (item : α) :
    q.tryPush item = (q, false) := by
  obtain hpush | ⟨hopen, -⟩ := q.tryPush_cases item
  · exact hpush
  · exact nomatch h.symm.trans hopen

theorem tryPop_eq_some {q q' : BoundedQueue α} {item : α} (h : q.tryPop = some (item, q')) :
    q.items = item :: q'.items ∧ q' = { q with items := q'.items } := by
  unfold tryPop at h
  split at h
  · exact nomatch h
  · rename_i first items hitems
    obtain ⟨rfl, rfl⟩ := Prod.mk.inj (Option.some.inj h)
    exact ⟨hitems, rfl⟩

theorem tryPop_eq_none {q : BoundedQueue α} (h : q.tryPop = none) : q.items = [] := by
  unfold tryPop at h
  split at h
  · rename_i hitems
    exact hitems
  · exact nomatch h

end BoundedQueue
end AmigaDrivers
