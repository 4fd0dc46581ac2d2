import AmigaDrivers.Common.BoundedQueue
import AmigaDrivers.Foundation.History
import Mathlib.Logic.Function.Basic
import Mathlib.Tactic.SplitIfs

/-!
# Many threads around a bounded queue

Threads call the operations of a `BoundedQueue` in any order.  A call runs under the mutex up to
its return or its wait; a thread that waits comes back whenever it likes, which covers every
notification there is and the ones that are spurious, and a wait with a timeout may run out.

* `attempt`: what a call does from one acquisition of the mutex to the next release.
* `attempt_cases`: the outcomes there are.
* `fifo_of_reachable`: what was popped and what is queued is what was accepted, in order.
* `queue_linear`: over every interleaving.
-/

namespace AmigaDrivers

namespace BoundedQueue

variable {α : Type}

/-- The predicate that `push_wait_for` and `push_blocking` wait for. -/
def canPush (q : BoundedQueue α) : Bool := q.closed || decide (q.items.length < q.capacity)

/-- The predicate that `pop` waits for. -/
def canPop (q : BoundedQueue α) : Bool := q.closed || !q.items.isEmpty

end BoundedQueue

/-! ## Calls -/

/-- A call of an operation. -/
inductive QueueCall (α : Type)
  | tryPush (item : α)
  | pushWaitFor (item : α)
  | pushBlocking (item : α)
  | tryPop
  | pop
  | close
  deriving DecidableEq

/-- The item of a push. -/
def QueueCall.item? {α : Type} : QueueCall α → Option α
  | .tryPush item | .pushWaitFor item | .pushBlocking item => some item
  | .tryPop | .pop | .close => none

/-- The call is a pop. -/
def QueueCall.isPop {α : Type} : QueueCall α → Bool
  | .tryPop | .pop => true
  | .tryPush _ | .pushWaitFor _ | .pushBlocking _ | .close => false

/-- Where a thread is.  It is outside, waits inside a call, or has returned from one. -/
inductive QueuePhase (α : Type)
  | outside
  | waiting (c : QueueCall α)
  | returned (c : QueueCall α) (result : Bool)
  deriving DecidableEq

/-- A thread.  `hand` is what its argument holds: the item of a push until it is moved from, and
what a pop has put out. -/
structure QueueThread (α : Type) where
  hand : Option α := none
  phase : QueuePhase α := .outside
  deriving DecidableEq

namespace BoundedQueue

variable {α : Type}

/-- `try_push`, as a call. -/
def pushNow (q : BoundedQueue α) (c : QueueCall α) (item : α) : BoundedQueue α × QueueThread α :=
  match q.tryPush item with
  | (q', true) => (q', ⟨none, .returned c true⟩)
  | (q', false) => (q', ⟨some item, .returned c false⟩)

/-- The end of `push_wait_for` and `push_blocking`, when the wait is over. -/
def pushReady (q : BoundedQueue α) (c : QueueCall α) (item : α) : BoundedQueue α × QueueThread α :=
  if q.closed then (q, ⟨some item, .returned c false⟩)
  else ({ q with items := q.items ++ [item] }, ⟨none, .returned c true⟩)

/-- The end of `try_pop` and `pop`. -/
def popReady (q : BoundedQueue α) (c : QueueCall α) : BoundedQueue α × QueueThread α :=
  match q.tryPop with
  | none => (q, ⟨none, .returned c false⟩)
  | some (item, q') => (q', ⟨some item, .returned c true⟩)

/-- What a call does under the mutex: from its start, from a wake-up, or from the end of the
timeout. -/
def attempt (q : BoundedQueue α) (timedOut : Bool) : QueueCall α → BoundedQueue α × QueueThread α
  | .tryPush item => q.pushNow (.tryPush item) item
  | .pushWaitFor item =>
    if q.canPush then q.pushReady (.pushWaitFor item) item
    else if timedOut then (q, ⟨some item, .returned (.pushWaitFor item) false⟩)
    else (q, ⟨some item, .waiting (.pushWaitFor item)⟩)
  | .pushBlocking item =>
    if q.canPush then q.pushReady (.pushBlocking item) item
    else (q, ⟨some item, .waiting (.pushBlocking item)⟩)
  | .tryPop => q.popReady .tryPop
  | .pop => if q.canPop then q.popReady .pop else (q, ⟨none, .waiting .pop⟩)
  | .close => (q.close, ⟨none, .returned .close true⟩)

end BoundedQueue

/-! ## Interleavings -/

/-- A queue and the threads around it. -/
structure SharedQueue (ι α : Type) where
  queue : BoundedQueue α
  threads : ι → QueueThread α

/-- What a thread does next. -/
inductive QueueStep (ι α : Type)
  | call (t : ι) (c : QueueCall α)
  | wake (t : ι)
  | timeout (t : ι)

/-- The thread that acts. -/
def QueueStep.thread {ι α : Type} : QueueStep ι α → ι
  | .call t _ | .wake t | .timeout t => t

namespace SharedQueue

variable {ι α : Type} [DecidableEq ι]

/-- A thread in a call takes the mutex. -/
def run (s : SharedQueue ι α) (t : ι) (timedOut : Bool) (c : QueueCall α) : SharedQueue ι α where
  queue := (s.queue.attempt timedOut c).1
  threads := Function.update s.threads t (s.queue.attempt timedOut c).2

/-- A thread that does not wait may call; one that waits may be woken, or run out of time. -/
def step (s : SharedQueue ι α) : QueueStep ι α → Option (SharedQueue ι α)
  | .call t c =>
    match (s.threads t).phase with
    | .waiting _ => none
    | .outside | .returned _ _ => some (s.run t false c)
  | .wake t =>
    match (s.threads t).phase with
    | .waiting c => some (s.run t false c)
    | .outside | .returned _ _ => none
  | .timeout t =>
    match (s.threads t).phase with
    | .waiting (.pushWaitFor item) => some (s.run t true (.pushWaitFor item))
    | .waiting _ | .outside | .returned _ _ => none

/-- A queue from its construction on, among any threads. -/
def system : StepSystem (SharedQueue ι α) (QueueStep ι α) where
  Init s := ∃ capacity, s = { queue := .new capacity, threads := fun _ => {} }
  step := step

end SharedQueue

/-! ## What a call can do -/

namespace BoundedQueue

variable {α : Type}

/-- The outcomes of a call under the mutex. -/
inductive Outcome (q : BoundedQueue α) (c : QueueCall α) : BoundedQueue α × QueueThread α → Prop
  | accepted {item : α} (hitem : c.item? = some item) (hopen : q.closed = false)
      (hroom : q.items.length < q.capacity) :
      Outcome q c ({ q with items := q.items ++ [item] }, ⟨none, .returned c true⟩)
  | refused {item : α} (hitem : c.item? = some item) :
      Outcome q c (q, ⟨some item, .returned c false⟩)
  | took {item : α} {items : List α} (hpop : c.isPop = true) (hitems : q.items = item :: items) :
      Outcome q c ({ q with items }, ⟨some item, .returned c true⟩)
  | ended (hpop : c.isPop = true) (hempty : q.items = [])
      (hclosed : c = .pop → q.closed = true) : Outcome q c (q, ⟨none, .returned c false⟩)
  | waits : Outcome q c (q, ⟨c.item?, .waiting c⟩)
  | closed (hclose : c = .close) : Outcome q c (q.close, ⟨none, .returned c true⟩)

theorem outcome_pushNow {q : BoundedQueue α} {c : QueueCall α} {item : α}
    (hitem : c.item? = some item) : q.Outcome c (q.pushNow c item) := by
  unfold pushNow tryPush
  by_cases hfull : (q.closed || decide (q.items.length ≥ q.capacity)) = true
  · rw [if_pos hfull]
    exact .refused hitem
  · rw [if_neg hfull]
    rw [Bool.or_eq_true, not_or, Bool.not_eq_true, decide_eq_true_eq, Nat.not_le] at hfull
    exact .accepted hitem hfull.1 hfull.2

theorem outcome_pushReady {q : BoundedQueue α} {c : QueueCall α} {item : α}
    (hitem : c.item? = some item) (hready : q.canPush = true) : q.Outcome c (q.pushReady c item) := by
  unfold pushReady
  split
  · exact .refused hitem
  · rename_i hopen
    rw [Bool.not_eq_true] at hopen
    unfold canPush at hready
    rw [hopen, Bool.false_or, decide_eq_true_eq] at hready
    exact .accepted hitem hopen hready

theorem outcome_popReady {q : BoundedQueue α} {c : QueueCall α} (hpop : c.isPop = true)
    (hready : c = .pop → q.canPop = true) : q.Outcome c (q.popReady c) := by
  unfold popReady
  split
  · rename_i hnone
    have hempty := tryPop_eq_none hnone
    refine .ended hpop hempty fun hc => ?_
    have hready := hready hc
    unfold canPop at hready
    rw [hempty, List.isEmpty_nil, Bool.not_true, Bool.or_false] at hready
    exact hready
  · rename_i item q' hsome
    obtain ⟨hitems, hq'⟩ := tryPop_eq_some hsome
    rw [hq']
    exact .took hpop hitems

/-- **What a call can do**, from one acquisition of the mutex to the next release. -/
theorem attempt_cases (q : BoundedQueue α) (timedOut : Bool) (c : QueueCall α) :
    q.Outcome c (q.attempt timedOut c) := by
  cases c with
  | tryPush item => exact outcome_pushNow rfl
  | pushWaitFor item =>
    show q.Outcome _ (if q.canPush then q.pushReady (.pushWaitFor item) item
      else if timedOut then (q, ⟨some item, .returned (.pushWaitFor item) false⟩)
      else (q, ⟨some item, .waiting (.pushWaitFor item)⟩))
    split_ifs with hready
    · exact outcome_pushReady rfl hready
    · exact .refused rfl
    · exact .waits
  | pushBlocking item =>
    show q.Outcome _ (if q.canPush then q.pushReady (.pushBlocking item) item
      else (q, ⟨some item, .waiting (.pushBlocking item)⟩))
    split_ifs with hready
    · exact outcome_pushReady rfl hready
    · exact .waits
  | tryPop => exact outcome_popReady rfl nofun
  | pop =>
    show q.Outcome _ (if q.canPop then q.popReady .pop else (q, ⟨none, .waiting .pop⟩))
    split_ifs with hready
    · exact outcome_popReady rfl fun _ => hready
    · exact .waits
  | close => exact .closed rfl

end BoundedQueue

/-! ## The history -/

namespace SharedQueue

variable {ι α : Type} [DecidableEq ι]

/-- The item that a step has put into the queue. -/
def acceptedBy (t : Taken (SharedQueue ι α) (QueueStep ι α)) : Option α :=
  match (t.after.threads t.action.thread).phase with
  | .returned c true => c.item?
  | .returned _ false | .waiting _ | .outside => none

/-- The item that a step has taken out of the queue. -/
def poppedBy (t : Taken (SharedQueue ι α) (QueueStep ι α)) : Option α :=
  match (t.after.threads t.action.thread).phase with
  | .returned c true => if c.isPop then (t.after.threads t.action.thread).hand else none
  | .returned _ false | .waiting _ | .outside => none

/-- The items that were accepted, in order. -/
def accepted (history : List (Taken (SharedQueue ι α) (QueueStep ι α))) : List α :=
  history.reverse.filterMap acceptedBy

/-- The items that were popped, in order. -/
def popped (history : List (Taken (SharedQueue ι α) (QueueStep ι α))) : List α :=
  history.reverse.filterMap poppedBy

/-- The step is a call of `close`. -/
def Closes (t : Taken (SharedQueue ι α) (QueueStep ι α)) : Prop :=
  ∃ thread, t.action = .call thread .close

/-- What a push that was refused, and one that was accepted, leave of their item. -/
def HandOk (thread : QueueThread α) : Prop :=
  match thread.phase with
  | .outside => True
  | .waiting c => thread.hand = c.item?
  | .returned c false => thread.hand = c.item?
  | .returned c true => c.item?.isSome → thread.hand = none

/-! ## Steps -/

theorem threads_run_self (s : SharedQueue ι α) (t : ι) (timedOut : Bool) (c : QueueCall α) :
    (s.run t timedOut c).threads t = (s.queue.attempt timedOut c).2 := Function.update_self _ _ _

theorem threads_run_of_ne {s : SharedQueue ι α} {t t' : ι} (h : t' ≠ t) (timedOut : Bool)
    (c : QueueCall α) : (s.run t timedOut c).threads t' = s.threads t' := Function.update_of_ne h _ _

/-- A step is a thread in a call that takes the mutex. -/
theorem step_cases {s s' : SharedQueue ι α} {a : QueueStep ι α} (h : s.step a = some s') :
    ∃ timedOut c, s' = s.run a.thread timedOut c ∧
      ((∃ t, a = .call t c) ∨ (s.threads a.thread).phase = .waiting c) := by
  cases a with
  | call t c =>
    unfold step at h
    dsimp only at h
    split at h
    · exact nomatch h
    all_goals exact ⟨false, c, (Option.some.inj h).symm, .inl ⟨t, rfl⟩⟩
  | wake t =>
    unfold step at h
    dsimp only at h
    split at h
    · rename_i c hphase
      exact ⟨false, c, (Option.some.inj h).symm, .inr hphase⟩
    all_goals exact nomatch h
  | timeout t =>
    unfold step at h
    dsimp only at h
    split at h
    · rename_i item hphase
      exact ⟨true, _, (Option.some.inj h).symm, .inr hphase⟩
    all_goals exact nomatch h

theorem isPop_of_item? {c : QueueCall α} {item : α} (h : c.item? = some item) :
    c.isPop = false := by
  cases c <;> first | rfl | exact nomatch h

theorem item?_of_isPop {c : QueueCall α} (h : c.isPop = true) : c.item? = none := by
  cases c <;> first | rfl | exact nomatch h

/-- What a step does to the queue, and to the history. -/
inductive Moves (u : Taken (SharedQueue ι α) (QueueStep ι α)) : Prop
  | accepted {item : α} (haccepted : acceptedBy u = some item) (hpopped : poppedBy u = none)
      (hopen : u.before.queue.closed = false)
      (hroom : u.before.queue.items.length < u.before.queue.capacity)
      (hqueue : u.after.queue =
        { u.before.queue with items := u.before.queue.items ++ [item] })
  | popped {item : α} {items : List α} (haccepted : acceptedBy u = none)
      (hpopped : poppedBy u = some item) (hitems : u.before.queue.items = item :: items)
      (hqueue : u.after.queue = { u.before.queue with items })
  | neither (haccepted : acceptedBy u = none) (hpopped : poppedBy u = none)
      (hqueue : u.after.queue = u.before.queue ∨ u.after.queue = u.before.queue.close)

/-- **One step** accepts an item, pops one, or leaves the items alone. -/
theorem moves_of_step {s s' : SharedQueue ι α} {a : QueueStep ι α} (h : s.step a = some s') :
    Moves ⟨s, a, s'⟩ := by
  obtain ⟨timedOut, c, rfl, -⟩ := step_cases h
  have hthread := threads_run_self s a.thread timedOut c
  have houtcome := s.queue.attempt_cases timedOut c
  have hqueue : (s.run a.thread timedOut c).queue = (s.queue.attempt timedOut c).1 := rfl
  generalize s.queue.attempt timedOut c = r at hthread houtcome hqueue
  have haccepted : acceptedBy ⟨s, a, s.run a.thread timedOut c⟩ =
      match r.2.phase with
      | .returned c true => c.item?
      | .returned _ false | .waiting _ | .outside => none := by
    rw [← hthread]
    rfl
  have hpopped : poppedBy ⟨s, a, s.run a.thread timedOut c⟩ =
      match r.2.phase with
      | .returned c true => if c.isPop then r.2.hand else none
      | .returned _ false | .waiting _ | .outside => none := by
    rw [← hthread]
    rfl
  cases houtcome with
  | accepted hitem hopen hroom =>
    refine .accepted (haccepted.trans hitem) (hpopped.trans ?_) hopen hroom hqueue
    exact if_neg (by rw [isPop_of_item? hitem]; exact Bool.false_ne_true)
  | refused hitem => exact .neither haccepted hpopped (.inl hqueue)
  | took hpop hitems =>
    exact .popped (haccepted.trans (item?_of_isPop hpop)) (hpopped.trans (if_pos hpop)) hitems hqueue
  | ended => exact .neither haccepted hpopped (.inl hqueue)
  | waits => exact .neither haccepted hpopped (.inl hqueue)
  | closed hclose =>
    subst hclose
    exact .neither haccepted hpopped (.inr hqueue)

/-- A queue that is closed stays closed. -/
theorem closed_step {s s' : SharedQueue ι α} {a : QueueStep ι α} (h : s.step a = some s')
    (hclosed : s.queue.closed = true) : s'.queue.closed = true := by
  cases moves_of_step h with
  | accepted _ _ _ _ hqueue =>
    rw [hqueue]
    exact hclosed
  | popped _ _ _ hqueue =>
    rw [hqueue]
    exact hclosed
  | neither _ _ hqueue =>
    obtain hqueue | hqueue := hqueue
    · rw [hqueue]
      exact hclosed
    · rw [hqueue]
      rfl

/-- A call of `close` closes. -/
theorem closed_of_closes {s s' : SharedQueue ι α} {a : QueueStep ι α} (h : s.step a = some s')
    (hcloses : Closes ⟨s, a, s'⟩) : s'.queue.closed = true := by
  obtain ⟨t, rfl⟩ := hcloses
  unfold step at h
  dsimp only at h
  split at h
  · exact nomatch h
  all_goals
    rw [← Option.some.inj h]
    rfl

/-- Every thread's item is where its call says. -/
theorem handOk_step {s s' : SharedQueue ι α} {a : QueueStep ι α} (h : s.step a = some s')
    (hhand : ∀ t, HandOk (s.threads t)) (t : ι) : HandOk (s'.threads t) := by
  obtain ⟨timedOut, c, rfl, -⟩ := step_cases h
  by_cases ht : t = a.thread
  · subst ht
    rw [threads_run_self]
    have houtcome := s.queue.attempt_cases timedOut c
    generalize s.queue.attempt timedOut c = r at houtcome
    cases houtcome with
    | accepted => exact fun _ => rfl
    | refused hitem => exact hitem.symm
    | took hpop =>
      intro hsome
      rw [item?_of_isPop hpop] at hsome
      exact nomatch hsome
    | ended hpop => exact (item?_of_isPop hpop).symm
    | waits => exact rfl
    | closed => exact fun _ => rfl
  · rw [threads_run_of_ne ht]
    exact hhand t

/-- A blocking pop that ends without an item has found the queue closed and empty. -/
theorem ended_of_pop {s s' : SharedQueue ι α} {a : QueueStep ι α} (h : s.step a = some s')
    (hended : (s'.threads a.thread).phase = .returned .pop false) :
    s.queue.closed = true ∧ s.queue.items = [] := by
  obtain ⟨timedOut, c, rfl, -⟩ := step_cases h
  rw [threads_run_self] at hended
  have houtcome := s.queue.attempt_cases timedOut c
  generalize s.queue.attempt timedOut c = r at houtcome hended
  cases houtcome with
  | accepted => exact nomatch hended
  | refused hitem =>
    obtain rfl : c = .pop := (QueuePhase.returned.inj hended).1
    exact nomatch hitem
  | took => exact nomatch hended
  | ended hpop hempty hclosed => exact ⟨hclosed (QueuePhase.returned.inj hended).1, hempty⟩
  | waits => exact nomatch hended
  | closed => exact nomatch hended

/-! ## Every interleaving -/

omit [DecidableEq ι] in
theorem accepted_cons (u : Taken (SharedQueue ι α) (QueueStep ι α))
    (history : List (Taken (SharedQueue ι α) (QueueStep ι α))) :
    accepted (u :: history) = accepted history ++ (acceptedBy u).toList := by
  unfold accepted
  rw [List.reverse_cons, List.filterMap_append]
  cases h : acceptedBy u <;> simp [h]

omit [DecidableEq ι] in
theorem popped_cons (u : Taken (SharedQueue ι α) (QueueStep ι α))
    (history : List (Taken (SharedQueue ι α) (QueueStep ι α))) :
    popped (u :: history) = popped history ++ (poppedBy u).toList := by
  unfold popped
  rw [List.reverse_cons, List.filterMap_append]
  cases h : poppedBy u <;> simp [h]

/-- What holds of a queue and of the steps that were taken. -/
structure Linear (s : SharedQueue ι α × List (Taken (SharedQueue ι α) (QueueStep ι α))) : Prop where
  fifo : accepted s.2 = popped s.2 ++ s.1.queue.items
  bounded : s.1.queue.items.length ≤ s.1.queue.capacity
  hand : ∀ t, HandOk (s.1.threads t)
  closed : ∀ u ∈ s.2, Closes u → s.1.queue.closed = true
  none_after_close : ∀ newer u older, s.2 = newer ++ u :: older → (∃ v ∈ older, Closes v) →
    acceptedBy u = none
  ended : ∀ u ∈ s.2, (u.after.threads u.action.thread).phase = .returned .pop false →
    u.before.queue.closed = true ∧ u.before.queue.items = []

/-- What was popped and what is queued is what was accepted, after one step more. -/
theorem fifo_step {s s' : SharedQueue ι α} {a : QueueStep ι α}
    {history : List (Taken (SharedQueue ι α) (QueueStep ι α))} (h : s.step a = some s')
    (hfifo : accepted history = popped history ++ s.queue.items) :
    accepted (⟨s, a, s'⟩ :: history) = popped (⟨s, a, s'⟩ :: history) ++ s'.queue.items := by
  rw [accepted_cons, popped_cons, hfifo]
  cases moves_of_step h with
  | accepted haccepted hpopped _ _ hqueue =>
    rw [haccepted, hpopped, show s'.queue = _ from hqueue]
    simp
  | popped haccepted hpopped hitems hqueue =>
    rw [haccepted, hpopped, show s'.queue = _ from hqueue, show s.queue.items = _ from hitems]
    simp
  | neither haccepted hpopped hqueue =>
    rw [haccepted, hpopped]
    obtain hqueue | hqueue := hqueue
    · rw [show s'.queue = _ from hqueue]
      simp
    · rw [show s'.queue = _ from hqueue]
      simp

theorem bounded_step {s s' : SharedQueue ι α} {a : QueueStep ι α} (h : s.step a = some s')
    (hbounded : s.queue.items.length ≤ s.queue.capacity) :
    s'.queue.items.length ≤ s'.queue.capacity := by
  cases moves_of_step h with
  | accepted _ _ _ hroom hqueue =>
    rw [show s'.queue = _ from hqueue]
    show (s.queue.items ++ [_]).length ≤ s.queue.capacity
    rw [List.length_append]
    exact hroom
  | popped _ _ hitems hqueue =>
    rw [show s.queue.items = _ from hitems, List.length_cons] at hbounded
    rw [show s'.queue = _ from hqueue]
    exact Nat.le_of_succ_le hbounded
  | neither _ _ hqueue =>
    obtain hqueue | hqueue := hqueue
    · rw [show s'.queue = _ from hqueue]
      exact hbounded
    · rw [show s'.queue = _ from hqueue]
      exact hbounded

/-- A closed queue accepts nothing. -/
theorem acceptedBy_of_closed {s s' : SharedQueue ι α} {a : QueueStep ι α} (h : s.step a = some s')
    (hclosed : s.queue.closed = true) : acceptedBy ⟨s, a, s'⟩ = none := by
  cases moves_of_step h with
  | accepted _ _ hopen => exact nomatch hclosed.symm.trans hopen
  | popped haccepted => exact haccepted
  | neither haccepted => exact haccepted

theorem linear_of_reachable
    {s : SharedQueue ι α × List (Taken (SharedQueue ι α) (QueueStep ι α))}
    (h : (system (ι := ι) (α := α)).recorded.Reachable s) : Linear s := by
  refine h.invariant ?_ ?_
  · rintro ⟨_, _⟩ ⟨⟨capacity, rfl⟩, rfl⟩
    exact
      { fifo := rfl
        bounded := Nat.zero_le _
        hand := fun _ => trivial
        closed := nofun
        none_after_close := fun newer u older h => absurd h.symm (by simp)
        ended := nofun }
  · rintro ⟨s, history⟩ a ⟨s', history'⟩ hlinear hstep
    obtain ⟨hstep, hhistory⟩ := StepSystem.recorded_step hstep
    have hstep : s.step a = some s' := hstep
    have hhistory : history' = ⟨s, a, s'⟩ :: history := hhistory
    subst hhistory
    refine
      { fifo := fifo_step hstep hlinear.fifo
        bounded := bounded_step hstep hlinear.bounded
        hand := handOk_step hstep hlinear.hand
        closed := ?_
        none_after_close := ?_
        ended := ?_ }
    · intro u hu hcloses
      obtain rfl | hu := List.mem_cons.mp hu
      · exact closed_of_closes hstep hcloses
      · exact closed_step hstep (hlinear.closed u hu hcloses)
    · intro newer u older hsplit hclose
      cases newer with
      | nil =>
        obtain ⟨rfl, rfl⟩ := List.cons.inj hsplit
        obtain ⟨v, hv, hcloses⟩ := hclose
        exact acceptedBy_of_closed hstep (hlinear.closed v hv hcloses)
      | cons w newer =>
        exact hlinear.none_after_close newer u older (List.cons.inj hsplit).2 hclose
    · intro u hu hended
      obtain rfl | hu := List.mem_cons.mp hu
      · exact ended_of_pop hstep hended
      · exact hlinear.ended u hu hended

/-- **A bounded queue is a queue.**  Whatever the threads do in whatever order: what was popped is
a prefix of what was accepted, and the rest is queued; the queue never holds more than its
capacity; a push that returns false leaves its item where it was; nothing is accepted after a
close; and a blocking pop ends without an item only at a queue that is closed and empty. -/
theorem queue_linear {s : SharedQueue ι α}
    {history : List (Taken (SharedQueue ι α) (QueueStep ι α))}
    (h : (system (ι := ι) (α := α)).recorded.Reachable (s, history)) :
    popped history <+: accepted history ∧
    accepted history = popped history ++ s.queue.items ∧
    s.queue.size ≤ s.queue.capacity ∧
    (∀ t c item, (s.threads t).phase = .returned c false → c.item? = some item →
      (s.threads t).hand = some item) ∧
    (∀ newer u older, history = newer ++ u :: older → (∃ v ∈ older, Closes v) →
      acceptedBy u = none) ∧
    (∀ u ∈ history, (u.after.threads u.action.thread).phase = .returned .pop false →
      u.before.queue.closed = true ∧ u.before.queue.items = []) := by
  have hlinear := linear_of_reachable h
  refine ⟨⟨s.queue.items, hlinear.fifo.symm⟩, hlinear.fifo, hlinear.bounded, ?_,
    hlinear.none_after_close, hlinear.ended⟩
  intro t c item hphase hitem
  have hhand : HandOk (s.threads t) := hlinear.hand t
  unfold HandOk at hhand
  rw [hphase] at hhand
  exact hhand.trans hitem

/-- Two producers and a consumer at a queue of one item: a wait that runs out, one that ends with
a close, and a pop that drains. -/
def busy : List (QueueStep (Fin 3) Nat) :=
  [.call 2 .pop, .call 0 (.pushBlocking 10), .call 1 (.pushWaitFor 20), .wake 1, .timeout 1,
    .wake 2, .call 1 (.tryPush 30), .call 0 (.pushBlocking 40), .call 1 .close, .wake 0,
    .call 2 .pop, .call 2 .pop]

theorem queue_linear_of_busy :
    ∃ s history, (system (ι := Fin 3) (α := Nat)).recorded.exec
        (⟨.new 1, fun _ => {}⟩, []) busy = some (s, history) ∧
      accepted history = [10, 30] ∧ (s.threads 0).phase = .returned (.pushBlocking 40) false ∧
      (s.threads 2).phase = .returned .pop false ∧
      popped history <+: accepted history ∧ (s.threads 0).hand = some 40 ∧
      s.queue.closed = true ∧ s.queue.items = [] := by
  have hexec : (system (ι := Fin 3) (α := Nat)).recorded.exec
      (⟨.new 1, fun _ => {}⟩, []) busy = some _ := rfl
  have h := queue_linear (StepSystem.reachable_of_exec (.init ⟨⟨1, rfl⟩, rfl⟩) hexec)
  refine ⟨_, _, hexec, rfl, rfl, rfl, h.1, h.2.2.2.1 0 _ 40 rfl rfl, ?_⟩
  exact h.2.2.2.2.2 _ List.mem_cons_self rfl

end SharedQueue
end AmigaDrivers
