import AmigaDrivers.Foundation.PowerOfTwo
import AmigaDrivers.Foundation.StepSystem

/-!
# The ring buffer between one producer and one consumer

`common::RingBuffer`: the producer and the consumer each own one free-running index and read the
other's.  A call is a sequence of accesses to what they share, and the two threads' accesses
interleave in any way; a step is one access.

The slots hold what has been constructed in them, so a step that would read a slot that holds
nothing is not enabled.

* `toNat_nextPowerOf2`: the capacity is the least power of two that is large enough.
* `Invariant`: what the two indices say of the slots, counted past the range of a word.
* `fifo`: **what is popped is what was pushed, in order, and a call fails only on a full or an
  empty buffer.**
-/

namespace AmigaDrivers

open PowerOfTwo

/-- `RingBuffer`. -/
structure RingBuffer (α : Type) where
  capacity : UInt64
  mask : UInt64
  storage : UInt64 → Option α := fun _ => none
  head : UInt64 := 0
  tail : UInt64 := 0

namespace RingBuffer

variable {α : Type}

/-- `NextPowerOf2`. -/
def nextPowerOf2 (n : UInt64) : UInt64 :=
  let n := n - 1
  let n := n ||| (n >>> 1)
  let n := n ||| (n >>> 2)
  let n := n ||| (n >>> 4)
  let n := n ||| (n >>> 8)
  let n := n ||| (n >>> 16)
  let n := n ||| (n >>> 32)
  n + 1

/-- The constructor. -/
def new (minCapacity : UInt64) : RingBuffer α :=
  let capacity := nextPowerOf2 (if minCapacity < 1 then 1 else minCapacity)
  { capacity, mask := capacity - 1 }

/-- The slot of an index, of which `ElementAt` gives the address. -/
def elementAt (b : RingBuffer α) (index : UInt64) : UInt64 := index &&& b.mask

/-- The construction or the destruction of an element. -/
def put (b : RingBuffer α) (index : UInt64) (x : Option α) : RingBuffer α :=
  { b with storage := Function.update b.storage (b.elementAt index) x }

/-- `size`, the two loads taken together. -/
def size (b : RingBuffer α) : UInt64 := b.head - b.tail

/-! ## The two threads -/

/-- Where the producer is in `try_push`, with its local variables. -/
inductive Producer (α : Type)
  | idle
  | loadTail (item : α) (h : UInt64)
  | construct (item : α) (h : UInt64)
  | storeHead (item : α) (h : UInt64)

/-- Where the consumer is in `try_pop`, with its local variables. -/
inductive Consumer (α : Type)
  | idle
  | loadHead (t : UInt64)
  | move (t : UInt64)
  | storeTail (item : α) (t : UInt64)

/-- The buffer, the threads, and how their calls have ended: the pushed items with the result of
each call, and what the pops returned. -/
structure Threads (α : Type) where
  buffer : RingBuffer α
  producer : Producer α := .idle
  consumer : Consumer α := .idle
  pushes : List (α × Bool) := []
  pops : List (Option α) := []

/-- The producer begins a call, a thread goes on. -/
inductive Action (α : Type)
  | push (item : α)
  | producer
  | pop
  | consumer

/-- One access of the producer. -/
def producerStep (s : Threads α) : Option (Threads α) :=
  match s.producer with
  | .idle => none
  | .loadTail item h =>
    if h - s.buffer.tail = s.buffer.capacity then
      some { s with producer := .idle, pushes := s.pushes ++ [(item, false)] }
    else some { s with producer := .construct item h }
  | .construct item h =>
    some { s with producer := .storeHead item h, buffer := s.buffer.put h (some item) }
  | .storeHead item h =>
    some { s with
      producer := .idle
      buffer := { s.buffer with head := h + 1 }
      pushes := s.pushes ++ [(item, true)] }

/-- One access of the consumer. -/
def consumerStep (s : Threads α) : Option (Threads α) :=
  match s.consumer with
  | .idle => none
  | .loadHead t =>
    if t = s.buffer.head then some { s with consumer := .idle, pops := s.pops ++ [none] }
    else some { s with consumer := .move t }
  | .move t =>
    match s.buffer.storage (s.buffer.elementAt t) with
    | none => none
    | some item =>
      some { s with consumer := .storeTail item t, buffer := s.buffer.put t none }
  | .storeTail item t =>
    some { s with
      consumer := .idle
      buffer := { s.buffer with tail := t + 1 }
      pops := s.pops ++ [some item] }

/-- The interleavings: each thread calls when it is idle, which reads its own index. -/
def threads (minCapacity : UInt64) : StepSystem (Threads α) (Action α) where
  Init s := s = { buffer := new minCapacity }
  step s
    | .push item =>
      match s.producer with
      | .idle => some { s with producer := .loadTail item s.buffer.head }
      | _ => none
    | .producer => producerStep s
    | .pop =>
      match s.consumer with
      | .idle => some { s with consumer := .loadHead s.buffer.tail }
      | _ => none
    | .consumer => consumerStep s

/-- The items of the pushes that were accepted. -/
def Threads.pushed (s : Threads α) : List α :=
  s.pushes.filterMap fun p => if p.2 then some p.1 else none

/-- The items that were popped. -/
def Threads.popped (s : Threads α) : List α := s.pops.filterMap id

/-! ## The capacity -/

theorem spreads_nextPowerOf2 (m : UInt64) :
    let n := m ||| (m >>> 1)
    let n := n ||| (n >>> 2)
    let n := n ||| (n >>> 4)
    let n := n ||| (n >>> 8)
    let n := n ||| (n >>> 16)
    let n := n ||| (n >>> 32)
    n.toNat = 2 ^ m.toNat.size - 1 := by
  have round {w : Nat} {n s : UInt64} (hs : s.toNat = w) (hw : w < 64)
      (h : Spreads m.toNat w n.toNat) : Spreads m.toNat (w + w) (n ||| (n >>> s)).toNat := by
    rw [UInt64.toNat_or, UInt64.toNat_shiftRight, hs, Nat.mod_eq_of_lt hw]
    exact h.double
  have h1 := spreads_self m.toNat
  have h2 := round (s := 1) rfl (by decide) h1
  have h4 := round (s := 2) rfl (by decide) h2
  have h8 := round (s := 4) rfl (by decide) h4
  have h16 := round (s := 8) rfl (by decide) h8
  have h32 := round (s := 16) rfl (by decide) h16
  exact (round (s := 32) rfl (by decide) h32).eq m.toNat_lt

/-- Rounding up gives a power of two, or zero where the power does not fit a word. -/
theorem toNat_nextPowerOf2 {n : UInt64} (h : 1 ≤ n) :
    (nextPowerOf2 n).toNat = 2 ^ (n.toNat - 1).size % 2 ^ 64 := by
  have hpred : (n - 1).toNat = n.toNat - 1 := UInt64.toNat_sub_of_le _ _ h
  have hfull := spreads_nextPowerOf2 (n - 1)
  have hpos := Nat.two_pow_pos (n.toNat - 1).size
  unfold nextPowerOf2
  dsimp only at hfull ⊢
  rw [UInt64.toNat_add, hfull, hpred]
  show (_ - 1 + 1) % 2 ^ 64 = _
  rw [Nat.sub_add_cancel hpos]

/-- **The least power of two that is not below.** -/
theorem nextPowerOf2_least {n : UInt64} (h : 1 ≤ n) (hn : n.toNat ≤ 2 ^ 63) :
    ∃ k, (nextPowerOf2 n).toNat = 2 ^ k ∧ n.toNat ≤ 2 ^ k ∧
      ∀ j, n.toNat ≤ 2 ^ j → 2 ^ k ≤ 2 ^ j := by
  have hpos : 1 ≤ n.toNat := UInt64.le_iff_toNat_le.mp h
  have hsize : (n.toNat - 1).size ≤ 63 := Nat.size_le.mpr (by omega)
  refine ⟨(n.toNat - 1).size, ?_, ?_, ?_⟩
  · rw [toNat_nextPowerOf2 h, Nat.mod_eq_of_lt]
    exact Nat.pow_lt_pow_right (by decide) (Nat.lt_succ_of_le hsize)
  · have hlt := Nat.lt_size_self (n.toNat - 1)
    omega
  · intro j hj
    exact Nat.pow_le_pow_right (by decide) (Nat.size_le.mpr (by omega))

/-- The capacity is zero or divides the range of the indices, and the mask belongs to it. -/
def Sized (b : RingBuffer α) : Prop :=
  b.capacity = 0 ∨ ∃ k ≤ 63, b.capacity.toNat = 2 ^ k ∧ b.mask.toNat = 2 ^ k - 1

theorem sized_new (minCapacity : UInt64) : (new (α := α) minCapacity).Sized := by
  unfold new Sized
  dsimp only
  have hpos : 1 ≤ (if minCapacity < 1 then 1 else minCapacity) := by
    split_ifs with h
    · exact UInt64.le_refl 1
    · exact UInt64.not_lt.mp h
  generalize (if minCapacity < 1 then 1 else minCapacity) = n at hpos
  have hcap := toNat_nextPowerOf2 hpos
  obtain hsmall | hlarge := Nat.lt_or_ge (n.toNat - 1).size 64
  · right
    have hlt : 2 ^ (n.toNat - 1).size < 2 ^ 64 := Nat.pow_lt_pow_right (by decide) hsmall
    rw [Nat.mod_eq_of_lt hlt] at hcap
    refine ⟨_, Nat.le_of_lt_succ hsmall, hcap, ?_⟩
    have hone : (1 : UInt64) ≤ nextPowerOf2 n :=
      UInt64.le_iff_toNat_le.mpr (hcap ▸ Nat.two_pow_pos _)
    rw [UInt64.toNat_sub_of_le _ _ hone, hcap]
    rfl
  · left
    rw [Nat.mod_eq_zero_of_dvd (Nat.pow_dvd_pow 2 hlarge)] at hcap
    exact UInt64.toNat_inj.mp hcap

/-! ## The slots of the indices -/

section Slots

variable {b : RingBuffer α} {i j : Nat}

theorem toNat_elementAt {k : Nat} (hk : k ≤ 63) (hmask : b.mask.toNat = 2 ^ k - 1) (i : Nat) :
    (b.elementAt (.ofNat i)).toNat = i % 2 ^ k := by
  unfold elementAt
  rw [toNat_and_mask hmask, UInt64.toNat_ofNat',
    Nat.mod_mod_of_dvd _ (Nat.pow_dvd_pow 2 (hk.trans (by decide)))]

/-- Elements that are in the buffer together have slots of their own. -/
theorem elementAt_ne (h : b.Sized) (hij : i < j) (hj : j < i + b.capacity.toNat) :
    b.elementAt (.ofNat i) ≠ b.elementAt (.ofNat j) := by
  intro heq
  obtain hzero | ⟨k, hk, hcap, hmask⟩ := h
  · rw [hzero, UInt64.toNat_zero] at hj
    omega
  · have hmod := congrArg UInt64.toNat heq
    rw [toNat_elementAt hk hmask, toNat_elementAt hk hmask] at hmod
    rw [hcap] at hj
    exact mod_ne_mod hij hj hmod

/-- One turn of the ring further is the same slot. -/
theorem elementAt_turn (h : b.Sized) (i : Nat) :
    b.elementAt (.ofNat (i + b.capacity.toNat)) = b.elementAt (.ofNat i) := by
  obtain hzero | ⟨k, hk, hcap, hmask⟩ := h
  · rw [hzero, UInt64.toNat_zero, Nat.add_zero]
  · apply UInt64.toNat_inj.mp
    rw [toNat_elementAt hk hmask, toNat_elementAt hk hmask, hcap, Nat.add_mod_right]

theorem ofNat_succ (i : Nat) : (UInt64.ofNat i + 1 : UInt64) = .ofNat (i + 1) := by
  apply UInt64.toNat_inj.mp
  rw [UInt64.toNat_add, UInt64.toNat_ofNat', UInt64.toNat_ofNat']
  show (i % 2 ^ 64 + 1) % 2 ^ 64 = (i + 1) % 2 ^ 64
  omega

/-- The difference of two indices, counted past the range of a word. -/
theorem toNat_ofNat_sub (hle : i ≤ j) (hlt : j - i < 2 ^ 64) :
    (UInt64.ofNat j - UInt64.ofNat i).toNat = j - i := by
  rw [UInt64.toNat_sub, UInt64.toNat_ofNat', UInt64.toNat_ofNat']
  omega

@[simp] theorem storage_put (index : UInt64) (x : Option α) :
    (b.put index x).storage (b.elementAt index) = x := Function.update_self ..

theorem storage_put_of_ne {index : UInt64} {slot : UInt64} (h : b.elementAt index ≠ slot)
    (x : Option α) : (b.put index x).storage slot = b.storage slot :=
  Function.update_of_ne (Ne.symm h) ..

end Slots

/-! ## What always holds -/

/-- The element the consumer has moved out and not given up the slot of. -/
def Threads.taken (s : Threads α) : Nat :=
  match s.consumer with
  | .storeTail _ _ => 1
  | _ => 0

/-- The element the producer has constructed and not handed over. -/
def Threads.made (s : Threads α) : Nat :=
  match s.producer with
  | .storeHead _ _ => 1
  | _ => 0

/-- What the producer knows. -/
def ProducerKnows (s : Threads α) : Prop :=
  match s.producer with
  | .idle => True
  | .loadTail _ h => h = s.buffer.head
  | .construct _ h =>
    h = s.buffer.head ∧ s.pushed.length < s.popped.length + s.buffer.capacity.toNat
  | .storeHead item h =>
    h = s.buffer.head ∧ s.pushed.length < s.popped.length + s.buffer.capacity.toNat ∧
      s.buffer.storage (s.buffer.elementAt h) = some item

/-- What the consumer knows. -/
def ConsumerKnows (s : Threads α) : Prop :=
  match s.consumer with
  | .idle => True
  | .loadHead t => t = s.buffer.tail
  | .move t => t = s.buffer.tail ∧ s.popped.length < s.pushed.length
  | .storeTail item t =>
    t = s.buffer.tail ∧ s.pushed[s.popped.length]? = some item ∧
      s.buffer.storage (s.buffer.elementAt t) = none

/-- The indices count what was pushed and popped, and the slots hold what is in between. -/
structure Invariant (s : Threads α) : Prop where
  sized : s.buffer.Sized
  head : s.buffer.head = .ofNat s.pushed.length
  tail : s.buffer.tail = .ofNat s.popped.length
  order : s.popped <+: s.pushed
  room : s.pushed.length ≤ s.popped.length + s.buffer.capacity.toNat
  held : ∀ i, s.popped.length + s.taken ≤ i → i < s.pushed.length →
    s.buffer.storage (s.buffer.elementAt (.ofNat i)) = s.pushed[i]?
  empty : ∀ i, s.pushed.length + s.made ≤ i → i < s.popped.length + s.buffer.capacity.toNat →
    s.buffer.storage (s.buffer.elementAt (.ofNat i)) = none
  producer : ProducerKnows s
  consumer : ConsumerKnows s

/-- What the consumer knows does not suffer from the producer. -/
theorem ConsumerKnows.of_producer {s s' : Threads α} (h : ConsumerKnows s)
    (hconsumer : s'.consumer = s.consumer) (htail : s'.buffer.tail = s.buffer.tail)
    (hpopped : s'.popped = s.popped) (hpushed : s.pushed <+: s'.pushed)
    (hslot : s.popped.length < s.pushed.length →
      s.buffer.storage (s.buffer.elementAt s.buffer.tail) = none →
      s'.buffer.storage (s'.buffer.elementAt s.buffer.tail) = none) : ConsumerKnows s' := by
  unfold ConsumerKnows at h ⊢
  rw [hconsumer, htail, hpopped]
  cases hpc : s.consumer with
  | idle => trivial
  | loadHead t => rw [hpc] at h; exact h
  | move t =>
    rw [hpc] at h
    exact ⟨h.1, h.2.trans_le hpushed.length_le⟩
  | storeTail item t =>
    rw [hpc] at h
    obtain ⟨rfl, hitem, hgone⟩ := h
    have hlt := (List.getElem?_eq_some_iff.mp hitem).1
    obtain ⟨more, hmore⟩ := hpushed
    refine ⟨rfl, ?_, hslot hlt hgone⟩
    rw [← hmore, List.getElem?_append_left hlt]
    exact hitem

/-- What the producer knows does not suffer from the consumer. -/
theorem ProducerKnows.of_consumer {s s' : Threads α} (h : ProducerKnows s)
    (hproducer : s'.producer = s.producer) (hhead : s'.buffer.head = s.buffer.head)
    (hcapacity : s'.buffer.capacity = s.buffer.capacity)
    (hpushed : s'.pushed = s.pushed) (hpopped : s.popped.length ≤ s'.popped.length)
    (hslot : ∀ item, s.pushed.length < s.popped.length + s.buffer.capacity.toNat →
      s.buffer.storage (s.buffer.elementAt s.buffer.head) = some item →
      s'.buffer.storage (s'.buffer.elementAt s.buffer.head) = some item) : ProducerKnows s' := by
  unfold ProducerKnows at h ⊢
  rw [hproducer, hhead, hcapacity, hpushed]
  cases hpc : s.producer with
  | idle => trivial
  | loadTail item index => rw [hpc] at h; exact h
  | construct item index =>
    rw [hpc] at h
    exact ⟨h.1, h.2.trans_le (Nat.add_le_add_right hpopped _)⟩
  | storeHead item index =>
    rw [hpc] at h
    obtain ⟨rfl, hspace, hmade⟩ := h
    exact ⟨rfl, hspace.trans_le (Nat.add_le_add_right hpopped _), hslot item hspace hmade⟩

namespace Invariant

variable {s : Threads α}

theorem le (h : Invariant s) : s.popped.length ≤ s.pushed.length := h.order.length_le

theorem toNat_size (h : Invariant s) :
    s.buffer.size.toNat = s.pushed.length - s.popped.length := by
  have hcap := s.buffer.capacity.toNat_lt
  have hroom := h.room
  unfold size
  rw [h.head, h.tail]
  exact toNat_ofNat_sub h.le (by omega)

theorem size_le (h : Invariant s) : s.buffer.size ≤ s.buffer.capacity := by
  rw [UInt64.le_iff_toNat_le, h.toNat_size]
  have hroom := h.room
  omega

/-- The buffer is full when the sizes agree. -/
theorem size_eq_capacity_iff (h : Invariant s) :
    s.buffer.size = s.buffer.capacity ↔
      s.pushed.length = s.popped.length + s.buffer.capacity.toNat := by
  rw [← UInt64.toNat_inj, h.toNat_size]
  have hle := h.le
  omega

/-- The buffer is empty when the indices agree. -/
theorem head_eq_tail_iff (h : Invariant s) :
    s.buffer.tail = s.buffer.head ↔ s.popped.length = s.pushed.length := by
  have hcap := s.buffer.capacity.toNat_lt
  have hroom := h.room
  have hle := h.le
  rw [h.head, h.tail, ← UInt64.toNat_inj, UInt64.toNat_ofNat', UInt64.toNat_ofNat']
  omega

theorem new (minCapacity : UInt64) : Invariant (α := α) { buffer := .new minCapacity } where
  sized := sized_new minCapacity
  head := rfl
  tail := rfl
  order := List.prefix_refl _
  room := Nat.zero_le _
  held _ _ h := absurd h (Nat.not_lt_zero _)
  empty _ _ _ := rfl
  producer := trivial
  consumer := trivial

/-- The producer begins a call. -/
theorem push (h : Invariant s) (hidle : s.producer = .idle) (item : α) :
    Invariant { s with producer := .loadTail item s.buffer.head } where
  sized := h.sized
  head := h.head
  tail := h.tail
  order := h.order
  room := h.room
  held := h.held
  empty := by
    have hempty := h.empty
    unfold Threads.made at hempty
    rw [hidle] at hempty
    exact hempty
  producer := rfl
  consumer := h.consumer

/-- The consumer begins a call. -/
theorem pop (h : Invariant s) (hidle : s.consumer = .idle) :
    Invariant { s with consumer := .loadHead s.buffer.tail } where
  sized := h.sized
  head := h.head
  tail := h.tail
  order := h.order
  room := h.room
  held := by
    have hheld := h.held
    unfold Threads.taken at hheld
    rw [hidle] at hheld
    exact hheld
  empty := h.empty
  producer := h.producer
  consumer := rfl

/-- A step of the producer: what it does, one access after another. -/
theorem producerStep (h : Invariant s) {s' : Threads α}
    (hstep : RingBuffer.producerStep s = some s') : Invariant s' := by
  have hknows := h.producer
  have hempty := h.empty
  unfold RingBuffer.producerStep at hstep
  unfold ProducerKnows at hknows
  unfold Threads.made at hempty
  cases hpc : s.producer with
  | idle => rw [hpc] at hstep; exact nomatch hstep
  | loadTail item index =>
    rw [hpc] at hstep hknows hempty
    dsimp only at hstep hknows hempty
    obtain rfl := hknows
    split_ifs at hstep with hfull
    · obtain rfl := Option.some.inj hstep
      -- the refused item is in no list of accepted ones
      have hpushed : Threads.pushed { s with
          producer := .idle, pushes := s.pushes ++ [(item, false)] } = s.pushed := by
        unfold Threads.pushed
        rw [List.filterMap_append]
        exact List.append_nil _
      refine ⟨h.sized, hpushed ▸ h.head, h.tail, hpushed ▸ h.order, hpushed ▸ h.room,
        hpushed ▸ h.held, hpushed ▸ hempty, trivial, ?_⟩
      exact h.consumer.of_producer rfl rfl rfl (hpushed ▸ List.prefix_refl _) fun _ hgone => hgone
    · obtain rfl := Option.some.inj hstep
      have hsize : s.buffer.size ≠ s.buffer.capacity := hfull
      refine ⟨h.sized, h.head, h.tail, h.order, h.room, h.held, hempty, ⟨rfl, ?_⟩, h.consumer⟩
      exact Nat.lt_of_le_of_ne h.room (mt h.size_eq_capacity_iff.mpr hsize)
  | construct item index =>
    rw [hpc] at hstep hknows hempty
    dsimp only at hstep hknows hempty
    obtain ⟨rfl, hspace⟩ := hknows
    obtain rfl := Option.some.inj hstep
    have hslot : s.buffer.elementAt s.buffer.head = s.buffer.elementAt (.ofNat s.pushed.length) :=
      congrArg _ h.head
    have hle := h.le
    refine ⟨h.sized, h.head, h.tail, h.order, h.room, ?_, ?_, ⟨rfl, hspace, ?_⟩, ?_⟩
    · intro i hi hlt
      have hi' : s.popped.length ≤ i := (Nat.le_add_right _ _).trans hi
      have hne := elementAt_ne h.sized (i := i) (j := s.pushed.length) hlt (by omega)
      exact (storage_put_of_ne (hslot ▸ hne.symm) _).trans (h.held i hi hlt)
    · intro i hi hlt
      have hi' : s.pushed.length < i := hi
      have hlt' : i < s.popped.length + s.buffer.capacity.toNat := hlt
      have hne := elementAt_ne h.sized hi' (by omega)
      exact (storage_put_of_ne (hslot ▸ hne) _).trans (hempty i hi'.le hlt)
    · exact storage_put _ _
    · refine h.consumer.of_producer rfl rfl rfl (List.prefix_refl _) fun hlt hgone => ?_
      have hne := elementAt_ne h.sized hlt hspace
      rw [← h.tail, ← h.head] at hne
      exact (storage_put_of_ne hne.symm _).trans hgone
  | storeHead item index =>
    rw [hpc] at hstep hknows hempty
    dsimp only at hstep hknows hempty
    obtain ⟨rfl, hspace, hmade⟩ := hknows
    obtain rfl := Option.some.inj hstep
    have hpushed : Threads.pushed { s with
        producer := .idle
        buffer := { s.buffer with head := s.buffer.head + 1 }
        pushes := s.pushes ++ [(item, true)] } = s.pushed ++ [item] := by
      unfold Threads.pushed
      rw [List.filterMap_append]
      rfl
    refine ⟨h.sized, ?_, h.tail, ?_, ?_, ?_, ?_, trivial, ?_⟩
    · rw [hpushed, List.length_append, List.length_singleton, ← ofNat_succ, ← h.head]
    · rw [hpushed]
      exact h.order.trans (List.prefix_append _ _)
    · rw [hpushed, List.length_append]
      exact hspace
    · intro i hi hlt
      rw [hpushed, List.length_append, List.length_singleton] at hlt
      rw [hpushed]
      obtain hold | rfl := Nat.lt_succ_iff_lt_or_eq.mp hlt
      · rw [List.getElem?_append_left hold]
        exact h.held i hi hold
      · rw [List.getElem?_concat_length]
        exact (congrArg _ (congrArg _ h.head.symm)).trans hmade
    · intro i hi hlt
      rw [hpushed, List.length_append] at hi
      exact hempty i hi hlt
    · exact h.consumer.of_producer rfl rfl rfl (hpushed ▸ List.prefix_append _ _)
        fun _ hgone => hgone

/-- Where the consumer is about to move an element, the element is there. -/
theorem element (h : Invariant s) {t : UInt64} (hpc : s.consumer = .move t) :
    ∃ item, s.pushed[s.popped.length]? = some item ∧
      s.buffer.storage (s.buffer.elementAt t) = some item := by
  have hknows := h.consumer
  have hheld := h.held
  unfold ConsumerKnows at hknows
  unfold Threads.taken at hheld
  rw [hpc] at hknows hheld
  obtain ⟨rfl, hlt⟩ := hknows
  have hitem := List.getElem?_eq_getElem hlt
  exact ⟨_, hitem, (congrArg _ (congrArg _ h.tail)).trans ((hheld _ le_rfl hlt).trans hitem)⟩

/-- A step of the consumer. -/
theorem consumerStep (h : Invariant s) {s' : Threads α}
    (hstep : RingBuffer.consumerStep s = some s') : Invariant s' := by
  have hknows := h.consumer
  have hheld := h.held
  have hle := h.le
  unfold RingBuffer.consumerStep at hstep
  unfold ConsumerKnows at hknows
  unfold Threads.taken at hheld
  cases hpc : s.consumer with
  | idle => rw [hpc] at hstep; exact nomatch hstep
  | loadHead t =>
    rw [hpc] at hstep hknows hheld
    dsimp only at hstep hknows hheld
    obtain rfl := hknows
    split_ifs at hstep with hnone
    · obtain rfl := Option.some.inj hstep
      have hpopped : Threads.popped { s with consumer := .idle, pops := s.pops ++ [none] } =
          s.popped := by
        unfold Threads.popped
        rw [List.filterMap_append]
        exact List.append_nil _
      refine ⟨h.sized, h.head, hpopped ▸ h.tail, hpopped ▸ h.order, hpopped ▸ h.room,
        hpopped ▸ hheld, hpopped ▸ h.empty, ?_, trivial⟩
      exact h.producer.of_consumer rfl rfl rfl rfl (hpopped ▸ le_rfl) fun _ _ hmade => hmade
    · obtain rfl := Option.some.inj hstep
      refine ⟨h.sized, h.head, h.tail, h.order, h.room, hheld, h.empty, h.producer, ⟨rfl, ?_⟩⟩
      exact Nat.lt_of_le_of_ne hle (mt h.head_eq_tail_iff.mpr hnone)
  | move t =>
    obtain ⟨item, hitem, hslot⟩ := h.element hpc
    rw [hpc] at hstep hknows hheld
    dsimp only at hstep hknows hheld
    rw [hslot] at hstep
    obtain ⟨rfl, hlt⟩ := hknows
    obtain rfl := Option.some.inj hstep
    have hroom := h.room
    have hplace : s.buffer.elementAt s.buffer.tail = s.buffer.elementAt (.ofNat s.popped.length) :=
      congrArg _ h.tail
    refine ⟨h.sized, h.head, h.tail, h.order, h.room, ?_, ?_, ?_, ⟨rfl, hitem, ?_⟩⟩
    · intro i hi hi'
      have hnext : s.popped.length < i := hi
      have hlast : i < s.pushed.length := hi'
      have hne := elementAt_ne h.sized hnext (by omega)
      exact (storage_put_of_ne (hplace ▸ hne) _).trans (hheld i hnext.le hi')
    · intro i hi hi'
      by_cases hsame : s.buffer.elementAt s.buffer.tail = s.buffer.elementAt (.ofNat i)
      · exact (congrArg _ hsame.symm).trans (storage_put _ _)
      · exact (storage_put_of_ne hsame _).trans (h.empty i hi hi')
    · refine h.producer.of_consumer rfl rfl rfl rfl le_rfl fun _ hspace hmade => ?_
      have hne := elementAt_ne h.sized hlt hspace
      rw [← h.tail, ← h.head] at hne
      exact (storage_put_of_ne hne _).trans hmade
    · exact storage_put _ _
  | storeTail item t =>
    rw [hpc] at hstep hknows hheld
    dsimp only at hstep hknows hheld
    obtain ⟨rfl, hitem, hgone⟩ := hknows
    obtain rfl := Option.some.inj hstep
    have hlt := (List.getElem?_eq_some_iff.mp hitem).1
    have hroom := h.room
    have hpopped : Threads.popped { s with
        consumer := .idle
        buffer := { s.buffer with tail := s.buffer.tail + 1 }
        pops := s.pops ++ [some item] } = s.popped ++ [item] := by
      unfold Threads.popped
      rw [List.filterMap_append]
      rfl
    refine ⟨h.sized, h.head, ?_, ?_, ?_, ?_, ?_, ?_, trivial⟩
    · rw [hpopped, List.length_append, List.length_singleton, ← ofNat_succ, ← h.tail]
    · obtain ⟨rest, hrest⟩ := h.order
      show Threads.popped _ <+: s.pushed
      rw [hpopped, ← hrest]
      rw [← hrest, List.getElem?_append_right le_rfl, Nat.sub_self] at hitem
      obtain ⟨more, rfl⟩ : ∃ more, rest = item :: more := by
        cases rest with
        | nil => exact nomatch hitem
        | cons first more => exact ⟨more, congrArg (· :: more) (Option.some.inj hitem)⟩
      exact ⟨more, by rw [List.append_assoc]; rfl⟩
    · rw [hpopped, List.length_append, List.length_singleton]
      show s.pushed.length ≤ _ + s.buffer.capacity.toNat
      omega
    · intro i hi hi'
      rw [hpopped, List.length_append] at hi
      exact hheld i hi hi'
    · intro i hi hi'
      rw [hpopped, List.length_append, List.length_singleton] at hi'
      obtain hold | hturn := Nat.lt_or_ge i (s.popped.length + s.buffer.capacity.toNat)
      · exact h.empty i hi hold
      · have hi : i = s.popped.length + s.buffer.capacity.toNat :=
          Nat.le_antisymm (by change i < _ + s.buffer.capacity.toNat at hi'; omega) hturn
        have hplace : s.buffer.elementAt (.ofNat i) = s.buffer.elementAt s.buffer.tail := by
          rw [hi, elementAt_turn h.sized, ← h.tail]
        exact (congrArg _ hplace).trans hgone
    · refine h.producer.of_consumer rfl rfl rfl rfl ?_ fun _ _ hmade => hmade
      rw [hpopped]
      exact (List.prefix_append _ _).length_le

end Invariant

/-! ## Runs -/

theorem invariant_of_reachable {minCapacity : UInt64} {s : Threads α}
    (h : (threads minCapacity).Reachable s) : Invariant s := by
  refine h.invariant ?_ ?_
  · rintro s rfl
    exact .new minCapacity
  · intro s a s' hs hstep
    unfold threads at hstep
    dsimp only at hstep
    cases a with
    | push item =>
      dsimp only at hstep
      split at hstep
      · rename_i hidle
        exact Option.some.inj hstep ▸ hs.push hidle item
      · exact nomatch hstep
    | producer => exact hs.producerStep hstep
    | pop =>
      dsimp only at hstep
      split at hstep
      · rename_i hidle
        exact Option.some.inj hstep ▸ hs.pop hidle
      · exact nomatch hstep
    | consumer => exact hs.consumerStep hstep

theorem capacity_producerStep {s s' : Threads α} (hstep : producerStep s = some s') :
    s'.buffer.capacity = s.buffer.capacity := by
  unfold producerStep at hstep
  split at hstep
  · exact nomatch hstep
  · split_ifs at hstep <;> exact Option.some.inj hstep ▸ rfl
  · exact Option.some.inj hstep ▸ rfl
  · exact Option.some.inj hstep ▸ rfl

theorem capacity_consumerStep {s s' : Threads α} (hstep : consumerStep s = some s') :
    s'.buffer.capacity = s.buffer.capacity := by
  unfold consumerStep at hstep
  split at hstep
  · exact nomatch hstep
  · split_ifs at hstep <;> exact Option.some.inj hstep ▸ rfl
  · split at hstep
    · exact nomatch hstep
    · exact Option.some.inj hstep ▸ rfl
  · exact Option.some.inj hstep ▸ rfl

/-- The capacity does not change. -/
theorem capacity_of_reachable {minCapacity : UInt64} {s : Threads α}
    (h : (threads minCapacity).Reachable s) :
    s.buffer.capacity = nextPowerOf2 (if minCapacity < 1 then 1 else minCapacity) := by
  refine h.invariant (P := fun s => s.buffer.capacity = _) ?_ ?_
  · rintro s rfl
    rfl
  · intro s a s' hs hstep
    unfold threads at hstep
    dsimp only at hstep
    cases a with
    | push item =>
      dsimp only at hstep
      split at hstep
      · exact Option.some.inj hstep ▸ hs
      · exact nomatch hstep
    | producer => exact (capacity_producerStep hstep).trans hs
    | pop =>
      dsimp only at hstep
      split at hstep
      · exact Option.some.inj hstep ▸ hs
      · exact nomatch hstep
    | consumer => exact (capacity_consumerStep hstep).trans hs

/-- A push that is refused finds the buffer full. -/
theorem full_of_refused {s s' : Threads α} {item : α} (h : Invariant s)
    (hstep : producerStep s = some s') (hrefused : s'.pushes = s.pushes ++ [(item, false)]) :
    s.buffer.size = s.buffer.capacity := by
  have hknows := h.producer
  unfold ProducerKnows at hknows
  unfold producerStep at hstep
  cases hpc : s.producer with
  | idle => rw [hpc] at hstep; exact nomatch hstep
  | loadTail item' index =>
    rw [hpc] at hstep hknows
    dsimp only at hstep hknows
    obtain rfl := hknows
    split_ifs at hstep with hfull
    · exact hfull
    · obtain rfl := Option.some.inj hstep
      exact absurd hrefused (by simp)
  | construct item' index =>
    rw [hpc] at hstep
    obtain rfl := Option.some.inj hstep
    exact absurd hrefused (by simp)
  | storeHead item' index =>
    rw [hpc] at hstep
    obtain rfl := Option.some.inj hstep
    exact absurd hrefused (by simp)

/-- A pop that returns nothing finds the buffer empty. -/
theorem empty_of_nothing {s s' : Threads α} (h : Invariant s)
    (hstep : consumerStep s = some s') (hnone : s'.pops = s.pops ++ [none]) :
    s.popped = s.pushed := by
  have hknows := h.consumer
  unfold ConsumerKnows at hknows
  unfold consumerStep at hstep
  cases hpc : s.consumer with
  | idle => rw [hpc] at hstep; exact nomatch hstep
  | loadHead t =>
    rw [hpc] at hstep hknows
    dsimp only at hstep hknows
    obtain rfl := hknows
    split_ifs at hstep with hempty
    · exact h.order.eq_of_length (h.head_eq_tail_iff.mp hempty)
    · obtain rfl := Option.some.inj hstep
      exact absurd hnone (by simp)
  | move t =>
    obtain ⟨item, -, hslot⟩ := h.element hpc
    rw [hpc] at hstep
    dsimp only at hstep
    rw [hslot] at hstep
    obtain rfl := Option.some.inj hstep
    exact absurd hnone (by simp)
  | storeTail item t =>
    rw [hpc] at hstep
    obtain rfl := Option.some.inj hstep
    exact absurd hnone (by simp)

/-- A thread in a call is not stuck: the consumer never reads a slot that holds nothing. -/
theorem consumer_goes_on {s : Threads α} (h : Invariant s) (hbusy : s.consumer ≠ .idle) :
    (consumerStep s).isSome = true := by
  unfold consumerStep
  cases hpc : s.consumer with
  | idle => exact absurd hpc hbusy
  | loadHead t =>
    dsimp only
    split_ifs <;> rfl
  | move t =>
    obtain ⟨item, -, hslot⟩ := h.element hpc
    dsimp only
    rw [hslot]
    rfl
  | storeTail item t => rfl

/-- The producer constructs its element where there is none. -/
theorem slot_empty {s : Threads α} {item : α} {index : UInt64} (h : Invariant s)
    (hpc : s.producer = .construct item index) :
    s.buffer.storage (s.buffer.elementAt index) = none := by
  have hknows := h.producer
  have hempty := h.empty
  unfold ProducerKnows at hknows
  unfold Threads.made at hempty
  rw [hpc] at hknows hempty
  obtain ⟨rfl, hspace⟩ := hknows
  exact (congrArg _ (congrArg _ h.head)).trans (hempty _ le_rfl hspace)

/-- **The ring buffer is a queue under every interleaving.**  What was popped is the beginning of
what was pushed; the stored elements are the rest and fit the capacity; a push is refused only by
a full buffer, a pop only by an empty one; no access goes to a slot in the wrong state; and the
capacity is the least power of two that suffices. -/
theorem fifo (minCapacity : UInt64) :
    (∀ s : Threads α, (threads minCapacity).Reachable s →
      s.popped <+: s.pushed ∧
      s.buffer.size.toNat = s.pushed.length - s.popped.length ∧
      s.buffer.size ≤ s.buffer.capacity ∧
      (∀ s' item, (threads minCapacity).step s .producer = some s' →
        s'.pushes = s.pushes ++ [(item, false)] → s.buffer.size = s.buffer.capacity) ∧
      (∀ s', (threads minCapacity).step s .consumer = some s' →
        s'.pops = s.pops ++ [none] → s.popped = s.pushed ∧ s.buffer.size = 0) ∧
      (∀ item index, s.producer = .construct item index →
        s.buffer.storage (s.buffer.elementAt index) = none) ∧
      (s.consumer ≠ .idle → ((threads minCapacity).step s .consumer).isSome = true) ∧
      s.buffer.capacity = nextPowerOf2 (if minCapacity < 1 then 1 else minCapacity)) ∧
    ∀ n : UInt64, 1 ≤ n → n.toNat ≤ 2 ^ 63 →
      ∃ k, (nextPowerOf2 n).toNat = 2 ^ k ∧ n.toNat ≤ 2 ^ k ∧
        ∀ j, n.toNat ≤ 2 ^ j → 2 ^ k ≤ 2 ^ j := by
  refine ⟨fun s hs => ?_, fun n h hn => nextPowerOf2_least h hn⟩
  have h := invariant_of_reachable hs
  refine ⟨h.order, h.toNat_size, h.size_le, fun s' item => full_of_refused h, ?_,
    fun item index => slot_empty h, consumer_goes_on h, capacity_of_reachable hs⟩
  intro s' hstep hnone
  have hsame := empty_of_nothing h hstep hnone
  refine ⟨hsame, UInt64.toNat_inj.mp ?_⟩
  rw [h.toNat_size, hsame, Nat.sub_self]
  rfl

end RingBuffer
end AmigaDrivers
