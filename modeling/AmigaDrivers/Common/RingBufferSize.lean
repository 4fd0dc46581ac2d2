import AmigaDrivers.Common.RingBuffer

/-!
# The size of the ring buffer, read by a third thread

`size` loads the index of the producer and then that of the consumer, and the other two threads go
on in between.  `empty` compares what `size` returns with zero.

* `watched`: the three threads.
* `size_in_range`: **a size is in range as long as no more is popped between the two loads than was
  there at the first**, and is far out of range otherwise.
* `size_wraps`: a run in which it is not in range.
-/

namespace AmigaDrivers
namespace RingBuffer

variable {α : Type}

/-- Where the third thread is in `size`, with its local variable.  `held` and `popped` are for the
record: how much was in the buffer at the first load, and how much had been popped. -/
inductive Monitor
  | idle
  | loadTail (h : UInt64) (held popped : Nat)

/-- A call of `size`: what it returned, how much was in the buffer at the first load, and how much
was popped between the two. -/
structure Reading where
  value : UInt64
  held : Nat
  popped : Nat
  deriving DecidableEq

/-- `empty`. -/
def Reading.empty (r : Reading) : Bool := r.value == 0

/-- The three threads, and the calls of `size` so far. -/
structure Watched (α : Type) where
  threads : Threads α
  monitor : Monitor := .idle
  readings : List Reading := []

/-- The two threads go on, the third one begins a call, or goes on. -/
inductive WatchedAction (α : Type)
  | inner (action : Action α)
  | size
  | monitor

/-- The interleavings of the three threads. -/
def watched (minCapacity : UInt64) : StepSystem (Watched α) (WatchedAction α) where
  Init s := s = { threads := { buffer := new minCapacity } }
  step s
    | .inner action =>
      ((RingBuffer.threads minCapacity).step s.threads action).map fun threads =>
        { s with threads }
    | .size =>
      match s.monitor with
      | .idle => some { s with
          monitor := .loadTail s.threads.buffer.head
            (s.threads.pushed.length - s.threads.popped.length) s.threads.popped.length }
      | .loadTail _ _ _ => none
    | .monitor =>
      match s.monitor with
      | .idle => none
      | .loadTail h held popped => some { s with
          monitor := .idle
          readings := s.readings ++
            [⟨h - s.threads.buffer.tail, held, s.threads.popped.length - popped⟩] }

/-! ## The two threads do not notice the third -/

theorem threads_reachable {minCapacity : UInt64} {s : Watched α}
    (h : (watched minCapacity).Reachable s) :
    (RingBuffer.threads minCapacity).Reachable s.threads := by
  induction h with
  | init h =>
    obtain rfl := h
    exact .init rfl
  | @step s s' a _ hstep ih =>
    unfold watched at hstep
    dsimp only at hstep
    cases a with
    | inner action =>
      obtain ⟨threads, hthreads, rfl⟩ := Option.map_eq_some_iff.mp hstep
      exact .step ih hthreads
    | size =>
      dsimp only at hstep
      split at hstep
      · exact Option.some.inj hstep ▸ ih
      · exact nomatch hstep
    | monitor =>
      dsimp only at hstep
      split at hstep
      · exact nomatch hstep
      · exact Option.some.inj hstep ▸ ih

theorem popped_producerStep {s s' : Threads α} (hstep : producerStep s = some s') :
    s'.popped = s.popped := by
  unfold producerStep at hstep
  split at hstep
  · exact nomatch hstep
  · split_ifs at hstep <;> exact Option.some.inj hstep ▸ rfl
  · exact Option.some.inj hstep ▸ rfl
  · exact Option.some.inj hstep ▸ rfl

theorem popped_consumerStep {s s' : Threads α} (hstep : consumerStep s = some s') :
    s.popped <+: s'.popped := by
  have happend (result : Option α) : s.pops.filterMap id <+: (s.pops ++ [result]).filterMap id := by
    rw [List.filterMap_append]
    exact List.prefix_append _ _
  unfold consumerStep at hstep
  split at hstep
  · exact nomatch hstep
  · split_ifs at hstep
    · exact Option.some.inj hstep ▸ happend none
    · exact Option.some.inj hstep ▸ List.prefix_refl _
  · split at hstep
    · exact nomatch hstep
    · exact Option.some.inj hstep ▸ List.prefix_refl _
  · rename_i item t _
    exact Option.some.inj hstep ▸ happend (some item)

/-- What has been popped stays popped. -/
theorem popped_step {minCapacity : UInt64} {s s' : Threads α} {a : Action α}
    (hstep : (RingBuffer.threads minCapacity).step s a = some s') : s.popped <+: s'.popped := by
  unfold RingBuffer.threads at hstep
  dsimp only at hstep
  cases a with
  | push item =>
    dsimp only at hstep
    split at hstep
    · exact Option.some.inj hstep ▸ List.prefix_refl _
    · exact nomatch hstep
  | producer => exact popped_producerStep hstep ▸ List.prefix_refl _
  | pop =>
    dsimp only at hstep
    split at hstep
    · exact Option.some.inj hstep ▸ List.prefix_refl _
    · exact nomatch hstep
  | consumer => exact popped_consumerStep hstep

/-! ## What the third thread knows -/

/-- A reading, counted past the range of a word. -/
structure Reading.Exact (capacity : Nat) (r : Reading) : Prop where
  held : r.held ≤ capacity
  within : r.popped ≤ r.held → r.value.toNat = r.held - r.popped
  beyond : r.held < r.popped → r.popped < r.held + 2 ^ 64 →
    r.value.toNat = 2 ^ 64 - (r.popped - r.held)

/-- Between the two loads, the index of the producer is the one that the buffer had. -/
def MonitorKnows (s : Watched α) : Prop :=
  match s.monitor with
  | .idle => True
  | .loadTail h held popped => h = .ofNat (popped + held) ∧
      held ≤ s.threads.buffer.capacity.toNat ∧ popped ≤ s.threads.popped.length

theorem exact_reading {capacity held popped now : Nat} (hword : capacity < 2 ^ 64)
    (hheld : held ≤ capacity) (hpopped : popped ≤ now) :
    Reading.Exact capacity ⟨.ofNat (popped + held) - .ofNat now, held, now - popped⟩ := by
  refine ⟨hheld, fun hle => ?_, fun hlt hfew => ?_⟩
  · change now - popped ≤ held at hle
    show (UInt64.ofNat (popped + held) - UInt64.ofNat now).toNat = held - (now - popped)
    rw [UInt64.toNat_sub, UInt64.toNat_ofNat', UInt64.toNat_ofNat']
    omega
  · change held < now - popped at hlt
    change now - popped < held + 2 ^ 64 at hfew
    show (UInt64.ofNat (popped + held) - UInt64.ofNat now).toNat = 2 ^ 64 - (now - popped - held)
    rw [UInt64.toNat_sub, UInt64.toNat_ofNat', UInt64.toNat_ofNat']
    omega

/-- What always holds of the third thread. -/
structure WatchedInvariant (s : Watched α) : Prop where
  monitor : MonitorKnows s
  readings : ∀ r ∈ s.readings, r.Exact s.threads.buffer.capacity.toNat

theorem capacity_step {minCapacity : UInt64} {s s' : Threads α} {a : Action α}
    (h : (RingBuffer.threads minCapacity).Reachable s)
    (hstep : (RingBuffer.threads minCapacity).step s a = some s') :
    s'.buffer.capacity = s.buffer.capacity :=
  (capacity_of_reachable (h.step hstep)).trans (capacity_of_reachable h).symm

theorem watchedInvariant {minCapacity : UInt64} {s : Watched α}
    (h : (watched minCapacity).Reachable s) : WatchedInvariant s := by
  refine h.invariant_of (fun _ => threads_reachable) ?_ ?_
  · rintro s rfl
    exact ⟨trivial, fun r hr => absurd hr List.not_mem_nil⟩
  · intro s a s' hreach hs hstep
    have hinv := invariant_of_reachable hreach
    unfold watched at hstep
    dsimp only at hstep
    cases a with
    | inner action =>
      obtain ⟨threads, hthreads, rfl⟩ := Option.map_eq_some_iff.mp hstep
      have hcapacity := capacity_step hreach hthreads
      refine ⟨?_, ?_⟩
      · have hknows := hs.monitor
        unfold MonitorKnows at hknows ⊢
        cases hpc : s.monitor with
        | idle => trivial
        | loadTail index held popped =>
          rw [hpc] at hknows
          obtain ⟨hindex, hheld, hpopped⟩ := hknows
          refine ⟨hindex, ?_, hpopped.trans (popped_step hthreads).length_le⟩
          show held ≤ threads.buffer.capacity.toNat
          rw [hcapacity]
          exact hheld
      · show ∀ r ∈ s.readings, r.Exact threads.buffer.capacity.toNat
        rw [hcapacity]
        exact hs.readings
    | size =>
      dsimp only at hstep
      split at hstep
      · obtain rfl := Option.some.inj hstep
        have hle := hinv.le
        have hroom := hinv.room
        refine ⟨⟨?_, ?_, le_rfl⟩, hs.readings⟩
        · rw [hinv.head]
          congr 1
          omega
        · show _ ≤ s.threads.buffer.capacity.toNat
          omega
      · exact nomatch hstep
    | monitor =>
      have hknows := hs.monitor
      unfold MonitorKnows at hknows
      dsimp only at hstep
      cases hpc : s.monitor with
      | idle =>
        rw [hpc] at hstep
        exact nomatch hstep
      | loadTail index held popped =>
        rw [hpc] at hstep hknows
        obtain rfl := Option.some.inj hstep
        obtain ⟨rfl, hheld, hpopped⟩ := hknows
        refine ⟨trivial, fun r hr => ?_⟩
        rcases List.mem_append.mp hr with hr | hr
        · exact hs.readings r hr
        · rw [List.mem_singleton.mp hr, hinv.tail]
          exact exact_reading s.threads.buffer.capacity.toNat_lt hheld hpopped

/-! ## The size -/

/-- **A size is in range as long as no more is popped between the two loads than was there at the
first.**  Otherwise it is not, unless the pops run through all the indices in the meantime. -/
theorem size_in_range {minCapacity : UInt64} {s : Watched α}
    (h : (watched minCapacity).Reachable s) :
    (∀ r ∈ s.readings, r.popped ≤ r.held → r.value ≤ s.threads.buffer.capacity) ∧
    ∀ r ∈ s.readings, r.held < r.popped →
      r.popped < r.held + (2 ^ 64 - s.threads.buffer.capacity.toNat) →
      s.threads.buffer.capacity < r.value := by
  have hinv := watchedInvariant h
  refine ⟨fun r hr hle => ?_, fun r hr hlt hfew => ?_⟩
  · have hexact := hinv.readings r hr
    have hheld := hexact.held
    rw [UInt64.le_iff_toNat_le, hexact.within hle]
    omega
  · have hexact := hinv.readings r hr
    have hword := s.threads.buffer.capacity.toNat_lt
    rw [UInt64.lt_iff_toNat_lt, hexact.beyond hlt (by omega)]
    omega

/-- An element is pushed, and the size is read while nothing else happens. -/
def quietRun : List (WatchedAction Nat) :=
  [.inner (.push 7), .inner .producer, .inner .producer, .inner .producer, .size, .monitor]

/-- The size is read of a buffer that is empty; before the second load an element is pushed and
popped. -/
def busyRun : List (WatchedAction Nat) :=
  [.size, .inner (.push 7), .inner .producer, .inner .producer, .inner .producer, .inner .pop,
    .inner .consumer, .inner .consumer, .inner .consumer, .monitor]

/-- The size of a quiet buffer. -/
theorem size_in_range_of_quiet : ∃ s : Watched Nat, s.readings = [⟨1, 1, 0⟩] ∧
    ∀ r ∈ s.readings, r.popped ≤ r.held → r.value ≤ s.threads.buffer.capacity := by
  refine ⟨((watched 1).exec { threads := { buffer := new 1 } } quietRun).get (by decide),
    by decide, ?_⟩
  exact (@size_in_range _ 1 _ (StepSystem.reachable_of_exec (.init rfl)
    (Option.some_get _).symm)).1

theorem busyRun_goes_through :
    ((watched 1).exec { threads := { buffer := new 1 } } busyRun).isSome := by decide

/-- **The size of an empty buffer may be read as the largest number there is.** -/
theorem size_wraps : ¬∀ (minCapacity : UInt64) (s : Watched Nat),
    (watched minCapacity).Reachable s →
      ∀ r ∈ s.readings, r.value ≤ s.threads.buffer.capacity := by
  intro hall
  have hle := hall 1 _
    (StepSystem.reachable_of_exec (.init rfl) (Option.some_get busyRun_goes_through).symm)
    ⟨0xFFFFFFFFFFFFFFFF, 0, 1⟩ (by decide)
  exact absurd hle (by decide)

end RingBuffer
end AmigaDrivers
