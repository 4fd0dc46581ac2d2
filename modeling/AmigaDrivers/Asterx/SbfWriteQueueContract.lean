import AmigaDrivers.Asterx.SbfWriteQueueSteps

/-!
# The contract of the write queue

The invariants of `SbfWriteQueue`, each derived from the list of steps, and what they
add up to.

* `Discipline`: who may stand where; after the join nothing is queued.
* `Flow`: an accepted block is written, lost behind a failed write, in flight or queued,
  in this order.
* `Budget`: the pending bytes are those queued and those in flight.
* `Latches`: what each of the two latches and the callback stand for.
* `Stored`: what the files hold while nothing has failed.
* `contract`: the queue as its owner relies on it.
-/

namespace AmigaDrivers
namespace Asterx

/-- The owner is inside `Close`, behind its first section. -/
def OwnerPc.inClose : OwnerPc → Bool
  | .idle | .spawning | .enqueueing _ | .refusing _ _ => false
  | .joining | .draining _ | .drainFailing _ | .drainNotifying _ | .closing | .closeFailing
  | .sealing | .answering => true

/-- The owner is inside `Close`, and the writer thread has been joined or never ran. -/
def OwnerPc.pastJoin : OwnerPc → Bool
  | .idle | .spawning | .enqueueing _ | .refusing _ _ | .joining => false
  | .draining _ | .drainFailing _ | .drainNotifying _ | .closing | .closeFailing
  | .sealing | .answering => true

/-- Where the owner can stand once the queue is closed. -/
def OwnerPc.mayBeClosed : OwnerPc → Bool
  | .idle | .enqueueing _ | .answering => true
  | .spawning | .refusing _ _ | .joining | .draining _ | .drainFailing _ | .drainNotifying _
  | .closing | .closeFailing | .sealing => false

/-- The file has been closed. -/
def OwnerPc.pastClose : OwnerPc → Bool
  | .sealing | .answering => true
  | .idle | .enqueueing _ | .spawning | .refusing _ _ | .joining | .draining _ | .drainFailing _
  | .drainNotifying _ | .closing | .closeFailing => false

/-- The blocks `Close` still has to write itself. -/
def OwnerPc.rest : OwnerPc → List QByteArray
  | .draining rest | .drainFailing rest | .drainNotifying rest => rest
  | .idle | .spawning | .enqueueing _ | .refusing _ _ | .joining | .closing | .closeFailing
  | .sealing | .answering => []

/-- Callbacks the owner is about to make. -/
def OwnerPc.callbacksDue : OwnerPc → Nat
  | .drainNotifying _ => 1
  | .idle | .spawning | .enqueueing _ | .refusing _ _ | .joining | .draining _ | .drainFailing _
  | .closing | .closeFailing | .sealing | .answering => 0

/-- The block the writer thread has taken and not yet handed on. -/
def WriterPc.unwritten : WriterPc → List QByteArray
  | .writing block => [block]
  | .none | .waiting | .failing _ | .notifying _ | .releasing _ | .done => []

/-- The block in flight: taken from the queue, its bytes not yet released. -/
def WriterPc.inFlight : WriterPc → List QByteArray
  | .writing block | .failing block | .notifying block | .releasing block => [block]
  | .none | .waiting | .done => []

/-- Callbacks the writer thread is about to make. -/
def WriterPc.callbacksDue : WriterPc → Nat
  | .notifying _ => 1
  | .none | .waiting | .writing _ | .failing _ | .releasing _ | .done => 0

theorem OwnerPc.pastJoin_of_pastClose {pc : OwnerPc} (h : pc.pastClose = true) :
    pc.pastJoin = true := by
  cases pc <;> first | rfl | exact absurd h (by simp [OwnerPc.pastClose])

theorem OwnerPc.rest_of_mayBeClosed {pc : OwnerPc} (h : pc.mayBeClosed = true) : pc.rest = [] := by
  cases pc <;> first | rfl | exact absurd h (by simp [OwnerPc.mayBeClosed])

/-- The bytes of a list of blocks. -/
def totalSize (blocks : List QByteArray) : Nat := (blocks.map QByteArray.size).sum

@[simp] theorem totalSize_nil : totalSize [] = 0 := rfl

@[simp] theorem totalSize_cons (block : QByteArray) (blocks : List QByteArray) :
    totalSize (block :: blocks) = block.size + totalSize blocks := rfl

@[simp] theorem totalSize_append (blocks more : List QByteArray) :
    totalSize (blocks ++ more) = totalSize blocks + totalSize more := by
  rw [totalSize, totalSize, totalSize, List.map_append, List.sum_append]

/-- The blocks' bytes, one after another. -/
def payload (blocks : List QByteArray) : List UInt8 := blocks.flatMap QByteArray.bytes

theorem payload_append_singleton (blocks : List QByteArray) (block : QByteArray) :
    payload (blocks ++ [block]) = payload blocks ++ block.bytes := by
  rw [payload, List.flatMap_append, List.flatMap_singleton, payload]

namespace SbfWriteQueue

/-! ## Who stands where -/

/-- The order of `Close`, and what nobody does at the same time. -/
structure Discipline (q : SbfWriteQueue) : Prop where
  stop_eq : q.stop = (q.closed || q.ownerPc.inClose)
  joined : q.ownerPc.pastJoin = true ∨ q.closed = true → q.writerPc = .none ∧ q.queue = []
  done : q.writerPc = .done → q.queue = [] ∧ q.stop = true
  spawning : q.ownerPc = .spawning → q.writerPc = .none
  closed : q.closed = true → q.ownerPc.mayBeClosed = true
  answering : q.ownerPc = .answering → q.closed = true

theorem discipline_new (cfg : Config) : Discipline (new cfg) := by
  constructor <;> simp [new, OwnerPc.inClose, OwnerPc.pastJoin]

/-- Steps of the owner that leave the writer thread and the queue alone. -/
theorem Discipline.of_owner {q q' : SbfWriteQueue} (hq : Discipline q)
    (hsame : (q'.stop, q'.closed, q'.queue, q'.writerPc) = (q.stop, q.closed, q.queue, q.writerPc))
    (hin : q'.ownerPc.inClose = q.ownerPc.inClose)
    (hpast : q'.ownerPc.pastJoin = true → q.ownerPc.pastJoin = true)
    (hspawning : q'.ownerPc ≠ .spawning)
    (hclosed : q.closed = true → q'.ownerPc.mayBeClosed = true)
    (hanswering : q'.ownerPc ≠ .answering) : Discipline q' := by
  simp only [Prod.mk.injEq] at hsame
  obtain ⟨hstop', hclosed', hqueue', hwriter'⟩ := hsame
  refine ⟨?_, ?_, ?_, fun h => absurd h hspawning, ?_, fun h => absurd h hanswering⟩
  · rw [hstop', hclosed', hin, hq.stop_eq]
  · rw [hclosed', hqueue', hwriter']
    exact fun h => hq.joined (h.imp_left hpast)
  · rw [hwriter', hqueue', hstop']
    exact hq.done
  · rw [hclosed']
    exact hclosed

/-- Steps of the writer thread. -/
theorem Discipline.of_writer {q q' : SbfWriteQueue} (hq : Discipline q) (hrun : q.writerPc ≠ .none)
    (hsame : (q'.stop, q'.closed, q'.ownerPc) = (q.stop, q.closed, q.ownerPc))
    (hdone : q'.writerPc = .done → q'.queue = [] ∧ q.stop = true) : Discipline q' := by
  simp only [Prod.mk.injEq] at hsame
  obtain ⟨hstop', hclosed', howner'⟩ := hsame
  refine ⟨?_, ?_, ?_, ?_, ?_, ?_⟩
  · rw [hstop', hclosed', howner', hq.stop_eq]
  · rw [hclosed', howner']
    exact fun h => absurd (hq.joined h).1 hrun
  · rw [hstop']
    exact hdone
  · rw [howner']
    exact fun h => absurd (hq.spawning h) hrun
  · rw [hclosed', howner']
    exact hq.closed
  · rw [hclosed', howner']
    exact hq.answering

theorem Discipline.step {q q' : SbfWriteQueue} (hq : Discipline q) (h : Step q q') :
    Discipline q' := by
  -- where the owner is in `Close` but not done with it, the queue is not closed yet
  have hopen : q.ownerPc.mayBeClosed = false → q.closed = false := fun hpc =>
    eq_false_of_ne_true fun hshut => nomatch hpc.symm.trans (hq.closed hshut)
  cases h with
  | startAgain hidle => exact hq
  | startCall hidle hnone hshut =>
    refine ⟨?_, fun h => ?_, fun h => ?_, fun _ => hnone, fun h => ?_, nofun⟩
    · rw [hshut]
      rfl
    · rw [hshut] at h
      exact h.elim nofun nofun
    · rw [hnone] at h
      exact nomatch h
    · exact nomatch hshut.symm.trans h
  | spawn hpc =>
    have hshut := hopen (by rw [hpc]; rfl)
    refine ⟨?_, fun h => ?_, nofun, nofun, fun _ => rfl, nofun⟩
    · rw [hq.stop_eq, hpc]
      rfl
    · rw [hshut] at h
      exact h.elim nofun nofun
  | enqueueEmpty hpc | enqueueFailed hpc _ | closeAgain hpc _ =>
    exact hq.of_owner rfl (by rw [hpc]) nofun nofun (fun _ => rfl) nofun
  | enqueueCall hpc _ _ | enqueueShut hpc _ | refuse hpc =>
    exact hq.of_owner rfl (by rw [hpc]; rfl) nofun nofun (fun _ => rfl) nofun
  | enqueueOver hpc _ hshut =>
    exact hq.of_owner rfl (by rw [hpc]; rfl) nofun nofun (fun h => nomatch hshut.symm.trans h) nofun
  | enqueueAccept hpc hstop hshut _ =>
    refine ⟨?_, fun h => ?_, fun h => ?_, nofun, fun _ => rfl, nofun⟩
    · rw [hq.stop_eq, hpc]
      rfl
    · rw [hshut] at h
      exact h.elim nofun nofun
    · exact nomatch hstop.symm.trans (hq.done h).2
  | closeCall hpc hshut =>
    refine ⟨?_, fun h => ?_, fun h => ⟨(hq.done h).1, rfl⟩, nofun, fun h => ?_, nofun⟩
    · rw [hshut]
      rfl
    · rw [hshut] at h
      exact h.elim nofun nofun
    · exact nomatch hshut.symm.trans h
  | takeQueue hpc hnone =>
    have hshut := hopen (by rw [hpc]; rfl)
    refine ⟨?_, fun _ => ⟨hnone, rfl⟩, fun h => ?_, nofun, fun h => ?_, nofun⟩
    · rw [hq.stop_eq, hpc]
      rfl
    · rw [hnone] at h
      exact nomatch h
    · exact nomatch hshut.symm.trans h
  | join hpc hdone =>
    have hshut := hopen (by rw [hpc]; rfl)
    refine ⟨?_, fun _ => ⟨rfl, (hq.done hdone).1⟩, nofun, nofun, fun h => ?_, nofun⟩
    · rw [hq.stop_eq, hpc]
      rfl
    · exact nomatch hshut.symm.trans h
  | drained hpc | drainDiscard hpc _ | drainFail hpc _ _ | drainWrite hpc _ _ | drainLatch hpc _
  | drainLatched hpc _ | drainNotify hpc | closeDone hpc _ | closeFail hpc _ | closeLatch hpc =>
    have hshut := hopen (by rw [hpc]; rfl)
    exact hq.of_owner rfl (by rw [hpc]; rfl) (by rw [hpc]; exact fun _ => rfl) nofun
      (fun h => nomatch hshut.symm.trans h) nofun
  | markClosed hpc =>
    have hall := hq.joined (.inl (by rw [hpc]; rfl))
    refine ⟨?_, fun _ => hall, hq.done, nofun, fun _ => rfl, fun _ => rfl⟩
    rw [hq.stop_eq, hpc, OwnerPc.inClose, Bool.or_true]
    rfl
  | answer hpc =>
    have hshut := hq.answering hpc
    refine ⟨?_, fun _ => hq.joined (.inr hshut), hq.done, nofun, fun _ => rfl, nofun⟩
    rw [hq.stop_eq, hshut]
    rfl
  | finish hpc hqueue hstop =>
    exact hq.of_writer (by rw [hpc]; exact nofun) rfl fun _ => ⟨hqueue, hstop⟩
  | pop hpc _ | discard hpc _ | writeFail hpc _ _ | write hpc _ _ | latch hpc _ | latched hpc _
  | notify hpc | release hpc =>
    exact hq.of_writer (by rw [hpc]; exact nofun) rfl nofun

/-- Only `Close`, behind the join, has blocks of its own to write. -/
theorem Discipline.rest_eq_nil {q : SbfWriteQueue} (h : Discipline q) (hrun : q.writerPc ≠ .none) :
    q.ownerPc.rest = [] := by
  have hjoined := h.joined
  cases hpc : q.ownerPc <;> first
    | rfl
    | exact absurd (hjoined (.inl (by rw [hpc]; rfl))).1 hrun

/-! ## Where the blocks are -/

/-- An accepted block is written, lost behind a failed write, taken or queued. -/
structure Flow (q : SbfWriteQueue) : Prop where
  split : ∃ lost, q.accepted =
      q.handed ++ lost ++ q.writerPc.unwritten ++ q.ownerPc.rest ++ q.queue ∧
    (q.writeFailed = false → lost = [])
  enqueueing : ∀ block, q.ownerPc = .enqueueing block → block.bytes ≠ []
  nonempty : ∀ block ∈ q.accepted, block.bytes ≠ []

theorem flow_new (cfg : Config) : Flow (new cfg) where
  split := ⟨[], rfl, fun _ => rfl⟩
  enqueueing _ h := absurd h (by simp [new])
  nonempty _ h := absurd h (by simp [new])

/-- Steps that move no block. -/
theorem Flow.of_same {q q' : SbfWriteQueue} (hflow : Flow q)
    (hsame : (q'.accepted, q'.handed, q'.queue, q'.writeFailed) =
      (q.accepted, q.handed, q.queue, q.writeFailed))
    (htaken : q'.writerPc.unwritten = q.writerPc.unwritten)
    (hrest : q'.ownerPc.rest = q.ownerPc.rest)
    (henqueueing : ∀ block, q'.ownerPc = .enqueueing block → block.bytes ≠ []) : Flow q' := by
  simp only [Prod.mk.injEq] at hsame
  obtain ⟨haccepted, hhanded, hqueue, hfailed⟩ := hsame
  obtain ⟨lost, hsplit, hlost⟩ := hflow.split
  refine ⟨⟨lost, ?_, ?_⟩, henqueueing, ?_⟩
  · rw [haccepted, hhanded, hqueue, htaken, hrest, hsplit]
  · rw [hfailed]
    exact hlost
  · rw [haccepted]
    exact hflow.nonempty

theorem Flow.step {q q' : SbfWriteQueue} (hq : Discipline q) (hflow : Flow q) (h : Step q q') :
    Flow q' := by
  obtain ⟨⟨lost, hsplit, hlost⟩, henqueueing, hnonempty⟩ := id hflow
  cases h with
  | enqueueAccept hpc hstop hopen hbudget =>
    refine { split := ⟨lost, ?_, hlost⟩, enqueueing := fun _ h => (nomatch h), nonempty := ?_ }
    · simp only [hsplit, hpc, OwnerPc.rest, List.append_nil, List.append_assoc]
    · intro b hb
      rcases List.mem_append.mp hb with hold | hnew
      · exact hnonempty b hold
      · exact List.mem_singleton.mp hnew ▸ henqueueing _ hpc
  | takeQueue hpc hnone =>
    refine { split := ⟨lost, ?_, hlost⟩, enqueueing := fun _ h => (nomatch h), nonempty := hnonempty }
    simp only [hsplit, hpc, OwnerPc.rest, List.append_nil]
  | @drainDiscard block rest hpc hfailed =>
    refine { split := ⟨lost ++ [block], ?_, ?_⟩, enqueueing := fun _ h => (nomatch h),
             nonempty := hnonempty }
    · obtain ⟨hnone, -⟩ := hq.joined (.inl (by rw [hpc]; rfl))
      simp only [hsplit, hpc, hnone, WriterPc.unwritten, OwnerPc.rest, List.append_assoc,
        List.nil_append, List.cons_append]
    · exact fun hintact => absurd (hfailed.symm.trans hintact) (by decide)
  | @drainFail block rest writer r hpc hintact hwrite =>
    refine { split := ⟨lost ++ [block], ?_, fun hbad => (nomatch hbad)⟩,
             enqueueing := fun _ h => (nomatch h), nonempty := hnonempty }
    obtain ⟨hnone, -⟩ := hq.joined (.inl (by rw [hpc]; rfl))
    simp only [hsplit, hpc, hnone, WriterPc.unwritten, OwnerPc.rest, List.append_assoc,
      List.nil_append, List.cons_append]
  | @drainWrite block rest writer r hpc hintact hwrite =>
    refine { split := ⟨[], ?_, fun _ => rfl⟩, enqueueing := fun _ h => (nomatch h),
             nonempty := hnonempty }
    obtain ⟨hnone, -⟩ := hq.joined (.inl (by rw [hpc]; rfl))
    simp only [hsplit, hlost hintact, hpc, hnone, WriterPc.unwritten, OwnerPc.rest,
      List.append_assoc, List.nil_append, List.append_nil, List.cons_append]
  | @pop block queue hpc hqueue =>
    refine { split := ⟨lost, ?_, hlost⟩, enqueueing := henqueueing, nonempty := hnonempty }
    have hrest := hq.rest_eq_nil (by rw [hpc]; exact fun h => (nomatch h))
    simp only [hsplit, hrest, hpc, hqueue, WriterPc.unwritten, List.append_nil, List.append_assoc,
      List.singleton_append]
  | @discard block hpc hfailed =>
    refine { split := ⟨lost ++ [block], ?_, ?_⟩, enqueueing := henqueueing,
             nonempty := hnonempty }
    · simp only [hsplit, hpc, WriterPc.unwritten, List.append_nil, List.append_assoc]
    · exact fun hintact => absurd (hfailed.symm.trans hintact) (by decide)
  | @writeFail block writer r hpc hintact hwrite =>
    refine { split := ⟨lost ++ [block], ?_, fun hbad => (nomatch hbad)⟩, enqueueing := henqueueing,
             nonempty := hnonempty }
    simp only [hsplit, hpc, WriterPc.unwritten, List.append_nil, List.append_assoc]
  | @write block writer r hpc hintact hwrite =>
    refine { split := ⟨[], ?_, fun _ => rfl⟩, enqueueing := henqueueing, nonempty := hnonempty }
    simp only [hsplit, hlost hintact, hpc, WriterPc.unwritten, List.append_nil]
  | spawn hpc =>
    refine { split := ⟨lost, ?_, hlost⟩, enqueueing := fun _ h => (nomatch h), nonempty := hnonempty }
    simp only [hsplit, hpc, hq.spawning hpc, OwnerPc.rest, WriterPc.unwritten]
  | startAgain hidle => exact hflow
  | enqueueCall hpc block hblock =>
    refine hflow.of_same rfl rfl (by rw [hpc]; rfl) fun b hb => ?_
    obtain rfl : block = b := OwnerPc.enqueueing.inj hb
    exact hblock
  | enqueueEmpty hpc | enqueueFailed hpc _ | closeAgain hpc _ =>
    exact hflow.of_same rfl rfl (by rw [hpc]) fun _ h => nomatch h
  | startCall hpc | enqueueShut hpc _ | enqueueOver hpc _ _ | refuse hpc | closeCall hpc _
  | drained hpc | drainLatch hpc _ | drainLatched hpc _ | drainNotify hpc | closeDone hpc _
  | closeFail hpc _ | closeLatch hpc | markClosed hpc | answer hpc =>
    exact hflow.of_same rfl rfl (by rw [hpc]; rfl) fun _ h => nomatch h
  | join hpc hdone =>
    exact hflow.of_same rfl (by rw [hdone]; rfl) (by rw [hpc]; rfl) fun _ h => nomatch h
  | finish hpc _ _ | latch hpc _ | latched hpc _ | notify hpc | release hpc =>
    exact hflow.of_same rfl (by rw [hpc]; rfl) rfl hflow.enqueueing

/-! ## The byte budget -/

/-- The pending bytes are those queued and those in flight, within the budget. -/
structure Budget (cfg : Config) (q : SbfWriteQueue) : Prop where
  limit : q.maxPendingBytes = cfg.maxPendingBytes
  pending : q.pendingBytes = totalSize q.writerPc.inFlight + totalSize q.queue
  le : q.pendingBytes ≤ cfg.maxPendingBytes

theorem budget_new (cfg : Config) : Budget cfg (new cfg) where
  limit := rfl
  pending := rfl
  le := Nat.zero_le _

theorem add64_of_lt {a b : Nat} (h : a + b < 2 ^ 64) : add64 a b = a + b := Nat.mod_eq_of_lt h

theorem sub64_of_le {a b : Nat} (hle : b ≤ a) (ha : a < 2 ^ 64) : sub64 a b = a - b := by
  unfold sub64
  omega

/-- Steps that neither queue a block nor release one. -/
theorem Budget.of_same {cfg : Config} {q q' : SbfWriteQueue} (hb : Budget cfg q)
    (hsame : (q'.maxPendingBytes, q'.pendingBytes, q'.queue) =
      (q.maxPendingBytes, q.pendingBytes, q.queue))
    (hflight : q'.writerPc.inFlight = q.writerPc.inFlight) : Budget cfg q' := by
  simp only [Prod.mk.injEq] at hsame
  obtain ⟨hmax, hpending, hqueue⟩ := hsame
  refine ⟨?_, ?_, ?_⟩
  · rw [hmax, hb.limit]
  · rw [hpending, hflight, hqueue, hb.pending]
  · rw [hpending]
    exact hb.le

theorem Budget.step {cfg : Config} {q q' : SbfWriteQueue} (hq : Discipline q) (hb : Budget cfg q)
    (h : Step q q') : Budget cfg q' := by
  obtain ⟨hlimit, hpending, hle⟩ := id hb
  have hcfg := cfg.budget_lt
  cases h with
  | @enqueueAccept block hpc hstop hopen hbudget =>
    have hsize := block.size_lt
    have hsum : add64 q.pendingBytes block.size = q.pendingBytes + block.size :=
      add64_of_lt (by unfold QByteArray.size; omega)
    refine { limit := hlimit, pending := ?_, le := hlimit ▸ hbudget }
    simp only [hsum, totalSize_append, totalSize_cons, totalSize_nil]
    omega
  | takeQueue hpc hnone =>
    refine { limit := hlimit, pending := ?_, le := Nat.zero_le _ }
    simp only [hnone, WriterPc.inFlight, totalSize_nil]
  | @pop block queue hpc hqueue =>
    refine { limit := hlimit, pending := ?_, le := hle }
    simp only [hpending, hpc, hqueue, WriterPc.inFlight, totalSize_nil, totalSize_cons]
    omega
  | @release block hpc =>
    have hflight : q.pendingBytes = block.size + totalSize q.queue := by
      simpa only [hpc, WriterPc.inFlight, totalSize_cons, totalSize_nil, Nat.add_zero] using hpending
    have hdiff : sub64 q.pendingBytes block.size = q.pendingBytes - block.size :=
      sub64_of_le (by omega) (by omega)
    refine { limit := hlimit, pending := ?_, le := ?_ }
    · simp only [hdiff, WriterPc.inFlight, totalSize_nil]
      omega
    · simp only [hdiff]
      omega
  | startAgain hidle => exact ⟨hlimit, hpending, hle⟩
  | spawn hpc => exact hb.of_same rfl (by rw [hq.spawning hpc]; rfl)
  | join hpc hdone => exact hb.of_same rfl (by rw [hdone]; rfl)
  | discard hpc _ | writeFail hpc _ _ | write hpc _ _ | latch hpc _ | latched hpc _ | notify hpc
  | finish hpc _ _ =>
    exact hb.of_same rfl (by rw [hpc]; rfl)
  | _ => exact hb.of_same rfl rfl

/-! ## The latches -/

/-- What the latches stand for. -/
structure Latches (q : SbfWriteQueue) : Prop where
  write : q.writeFailed = true → q.failed = true ∨ (∃ block, q.writerPc = .failing block) ∨
    ∃ rest, q.ownerPc = .drainFailing rest
  refusal : 0 < q.refused → q.failed = true ∨ ∃ block pending, q.ownerPc = .refusing block pending
  callback : q.callbacks + q.writerPc.callbacksDue + q.ownerPc.callbacksDue ≤ if q.failed then 1 else 0
  verdict : true ∈ q.closeResults → q.failed = false ∧ q.closed = true

theorem latches_new (cfg : Config) : Latches (new cfg) where
  write h := nomatch h
  refusal h := absurd h (by simp [new])
  callback := Nat.le_refl 0
  verdict h := absurd h (by simp [new])

/-- Steps that neither set a latch nor make a callback or return from `Close`. -/
theorem Latches.of_same {q q' : SbfWriteQueue} (hl : Latches q)
    (hsame : (q'.failed, q'.writeFailed, q'.refused, q'.callbacks, q'.closeResults) =
      (q.failed, q.writeFailed, q.refused, q.callbacks, q.closeResults))
    (hclosed : q.closed = true → q'.closed = true)
    (hfailing : ∀ block, q.writerPc = .failing block → q'.writerPc = .failing block)
    (hdraining : ∀ rest, q.ownerPc = .drainFailing rest → q'.ownerPc = .drainFailing rest)
    (hrefusing : ∀ block pending, q.ownerPc = .refusing block pending →
      q'.ownerPc = .refusing block pending)
    (hwriter : q'.writerPc.callbacksDue = q.writerPc.callbacksDue)
    (howner : q'.ownerPc.callbacksDue = q.ownerPc.callbacksDue) : Latches q' := by
  simp only [Prod.mk.injEq] at hsame
  obtain ⟨hfailed, hwriteFailed, hrefused, hcallbacks, hresults⟩ := hsame
  refine ⟨?_, ?_, ?_, ?_⟩
  · rw [hwriteFailed, hfailed]
    rintro h
    obtain h | ⟨block, h⟩ | ⟨rest, h⟩ := hl.write h
    · exact .inl h
    · exact .inr (.inl ⟨block, hfailing block h⟩)
    · exact .inr (.inr ⟨rest, hdraining rest h⟩)
  · rw [hrefused, hfailed]
    rintro h
    obtain h | ⟨block, pending, h⟩ := hl.refusal h
    · exact .inl h
    · exact .inr ⟨block, pending, hrefusing block pending h⟩
  · rw [hcallbacks, hwriter, howner, hfailed]
    exact hl.callback
  · rw [hresults, hfailed]
    exact fun h => ⟨(hl.verdict h).1, hclosed (hl.verdict h).2⟩

/-- Behind a latched failure nothing is left to show but the callbacks. -/
theorem Latches.of_failed {q : SbfWriteQueue} (hfailed : q.failed = true)
    (hcallback : q.callbacks + q.writerPc.callbacksDue + q.ownerPc.callbacksDue ≤ 1)
    (hverdict : true ∉ q.closeResults) : Latches q where
  write _ := .inl hfailed
  refusal _ := .inl hfailed
  callback := by rwa [hfailed]
  verdict h := absurd h hverdict

/-- While the failure is not latched no callback has been made or is due. -/
theorem Latches.callbacks_eq_zero {q : SbfWriteQueue} (hl : Latches q) (hfirst : q.failed = false) :
    q.callbacks = 0 ∧ q.writerPc.callbacksDue = 0 ∧ q.ownerPc.callbacksDue = 0 := by
  have hcallback := hl.callback
  rw [hfirst] at hcallback
  simp only [Bool.false_eq_true, if_false] at hcallback
  omega

theorem Latches.callback_le {q : SbfWriteQueue} (hl : Latches q) :
    q.callbacks + q.writerPc.callbacksDue + q.ownerPc.callbacksDue ≤ 1 := by
  have hcallback := hl.callback
  split at hcallback <;> omega

/-- Without a latched failure, and with nobody on the way to latch one, nothing has failed. -/
theorem Latches.intact {q : SbfWriteQueue} (hl : Latches q) (hfirst : q.failed = false)
    (hnone : q.writerPc = .none) (hpc : q.ownerPc.mayBeClosed = true) :
    q.writeFailed = false ∧ q.refused = 0 := by
  constructor
  · refine eq_false_of_ne_true fun h => ?_
    obtain h | ⟨block, h⟩ | ⟨rest, h⟩ := hl.write h
    · exact nomatch hfirst.symm.trans h
    · exact nomatch hnone.symm.trans h
    · rw [h] at hpc
      exact nomatch hpc
  · refine Nat.eq_zero_of_not_pos fun h => ?_
    obtain h | ⟨block, pending, h⟩ := hl.refusal h
    · exact nomatch hfirst.symm.trans h
    · rw [h] at hpc
      exact nomatch hpc

/-- `Close` has not returned true before it is done. -/
theorem Latches.no_verdict {q : SbfWriteQueue} (hl : Latches q)
    (h : q.failed = true ∨ q.closed = false) : true ∉ q.closeResults := by
  intro hmem
  obtain ⟨hfailed, hclosed⟩ := hl.verdict hmem
  obtain h | h := h
  · exact nomatch hfailed.symm.trans h
  · exact nomatch hclosed.symm.trans h

theorem Latches.step {q q' : SbfWriteQueue} (hq : Discipline q) (hl : Latches q)
    (h : Step q q') : Latches q' := by
  have hopen : q.ownerPc.mayBeClosed = false → q.closed = false := fun hpc =>
    eq_false_of_ne_true fun hshut => nomatch hpc.symm.trans (hq.closed hshut)
  have hle := hl.callback_le
  cases h with
  | startAgain hidle => exact hl
  | enqueueEmpty hpc | enqueueFailed hpc _ =>
    exact hl.of_same rfl id (fun _ h => h) (fun _ h => nomatch hpc.symm.trans h)
      (fun _ _ h => nomatch hpc.symm.trans h) rfl (by rw [hpc])
  | startCall hpc _ _ | enqueueCall hpc _ _ | enqueueShut hpc _ | enqueueAccept hpc _ _ _
  | closeCall hpc _ | takeQueue hpc _ | drained hpc | drainDiscard hpc _ | drainWrite hpc _ _
  | closeDone hpc _ | closeFail hpc _ =>
    exact hl.of_same rfl id (fun _ h => h) (fun _ h => nomatch hpc.symm.trans h)
      (fun _ _ h => nomatch hpc.symm.trans h) rfl (by rw [hpc]; rfl)
  | markClosed hpc =>
    exact hl.of_same rfl (fun _ => rfl) (fun _ h => h) (fun _ h => nomatch hpc.symm.trans h)
      (fun _ _ h => nomatch hpc.symm.trans h) rfl (by rw [hpc]; rfl)
  | spawn hpc =>
    have hnone := hq.spawning hpc
    exact hl.of_same rfl id (fun _ h => nomatch hnone.symm.trans h)
      (fun _ h => nomatch hpc.symm.trans h) (fun _ _ h => nomatch hpc.symm.trans h)
      (by rw [hnone]; rfl) (by rw [hpc]; rfl)
  | join hpc hdone =>
    exact hl.of_same rfl id (fun _ h => nomatch hdone.symm.trans h)
      (fun _ h => nomatch hpc.symm.trans h) (fun _ _ h => nomatch hpc.symm.trans h)
      (by rw [hdone]; rfl) (by rw [hpc]; rfl)
  | pop hpc _ | finish hpc _ _ | discard hpc _ | write hpc _ _ | release hpc =>
    exact hl.of_same rfl id (fun _ h => nomatch hpc.symm.trans h) (fun _ h => h) (fun _ _ h => h)
      (by rw [hpc]; rfl) rfl
  | @enqueueOver block hpc hstop hshut =>
    refine ⟨fun h => ?_, fun _ => .inr ⟨_, _, rfl⟩, ?_, hl.verdict⟩
    · obtain h | h | ⟨rest, h⟩ := hl.write h
      · exact .inl h
      · exact .inr (.inl h)
      · exact nomatch hpc.symm.trans h
    · have hcallback := hl.callback
      rwa [hpc] at hcallback
  | refuse hpc =>
    rw [hpc] at hle
    exact .of_failed rfl hle (hl.no_verdict (.inr (hopen (by rw [hpc]; rfl))))
  | closeAgain hpc hshut =>
    refine ⟨fun h => ?_, fun h => ?_, ?_, fun h => ?_⟩
    · obtain h | h | ⟨rest, h⟩ := hl.write h
      · exact .inl h
      · exact .inr (.inl h)
      · exact nomatch hpc.symm.trans h
    · obtain h | ⟨block, pending, h⟩ := hl.refusal h
      · exact .inl h
      · exact nomatch hpc.symm.trans h
    · have hcallback := hl.callback
      rwa [hpc] at hcallback
    · obtain h | h := List.mem_append.mp h
      · exact hl.verdict h
      · exact ⟨by simpa using h, hshut⟩
  | answer hpc =>
    refine ⟨fun h => ?_, fun h => ?_, ?_, fun h => ?_⟩
    · obtain h | h | ⟨rest, h⟩ := hl.write h
      · exact .inl h
      · exact .inr (.inl h)
      · exact nomatch hpc.symm.trans h
    · obtain h | ⟨block, pending, h⟩ := hl.refusal h
      · exact .inl h
      · exact nomatch hpc.symm.trans h
    · have hcallback := hl.callback
      rwa [hpc] at hcallback
    · obtain h | h := List.mem_append.mp h
      · exact hl.verdict h
      · exact ⟨by simpa using h, hq.answering hpc⟩
  | drainFail hpc _ _ =>
    refine ⟨fun _ => .inr (.inr ⟨_, rfl⟩), fun h => ?_, ?_, hl.verdict⟩
    · obtain h | ⟨block, pending, h⟩ := hl.refusal h
      · exact .inl h
      · exact nomatch hpc.symm.trans h
    · have hcallback := hl.callback
      rwa [hpc] at hcallback
  | drainLatch hpc hfirst =>
    obtain ⟨hnone, hwriter, -⟩ := hl.callbacks_eq_zero hfirst
    refine .of_failed rfl ?_ (hl.no_verdict (.inr (hopen (by rw [hpc]; rfl))))
    simp only [hnone, hwriter, OwnerPc.callbacksDue]
    omega
  | drainLatched hpc hfailed =>
    rw [hpc] at hle
    exact .of_failed hfailed hle (hl.no_verdict (.inl hfailed))
  | drainNotify hpc =>
    have hfailed : q.failed = true := by
      by_contra hfirst
      have hdue := (hl.callbacks_eq_zero (eq_false_of_ne_true hfirst)).2.2
      rw [hpc] at hdue
      exact nomatch hdue
    rw [hpc] at hle
    refine .of_failed hfailed ?_ (hl.no_verdict (.inl hfailed))
    simp only [OwnerPc.callbacksDue] at hle ⊢
    omega
  | closeLatch hpc =>
    rw [hpc] at hle
    exact .of_failed rfl hle (hl.no_verdict (.inr (hopen (by rw [hpc]; rfl))))
  | writeFail hpc _ _ =>
    refine ⟨fun _ => .inr (.inl ⟨_, rfl⟩), hl.refusal, ?_, hl.verdict⟩
    have hcallback := hl.callback
    rwa [hpc] at hcallback
  | latch hpc hfirst =>
    obtain ⟨hnone, -, howner⟩ := hl.callbacks_eq_zero hfirst
    have hshut : q.closed = false := eq_false_of_ne_true fun hshut => by
      have hwriter := (hq.joined (.inr hshut)).1
      exact nomatch hpc.symm.trans hwriter
    refine .of_failed rfl ?_ (hl.no_verdict (.inr hshut))
    simp only [hnone, howner, WriterPc.callbacksDue]
    omega
  | latched hpc hfailed =>
    rw [hpc] at hle
    exact .of_failed hfailed hle (hl.no_verdict (.inl hfailed))
  | notify hpc =>
    have hfailed : q.failed = true := by
      by_contra hfirst
      have hdue := (hl.callbacks_eq_zero (eq_false_of_ne_true hfirst)).2.1
      rw [hpc] at hdue
      exact nomatch hdue
    rw [hpc] at hle
    refine .of_failed hfailed ?_ (hl.no_verdict (.inl hfailed))
    simp only [WriterPc.callbacksDue] at hle ⊢
    omega

/-! ## The files -/

/-- What the files hold while nothing has failed. -/
structure Stored (q : SbfWriteQueue) : Prop where
  holds : q.failed = false → q.writeFailed = false → q.ownerPc ≠ .closeFailing →
    q.writer.Holds (payload q.handed)
  shut : q.failed = false → q.writeFailed = false →
    q.ownerPc.pastClose = true ∨ q.closed = true → q.writer.isOpen = false

theorem stored_new (cfg : Config) : Stored (new cfg) where
  holds _ _ _ :=
    { failed := rfl
      content := rfl
      good := fun h => (nomatch h)
      file := fun h => (nomatch h)
      closed := fun _ => rfl
      headerless := rfl }
  shut _ _ _ := rfl

/-- A block that is written stands behind everything before it. -/
theorem holds_of_writeBlock {writer writer' : RotatingFileWriter} {block : QByteArray}
    {r : AppendResult} {blocks : List QByteArray} (h : writer.Holds (payload blocks))
    (hwrite : writeBlock writer block r = (writer', true)) :
    writer'.Holds (payload (blocks ++ [block])) := by
  rw [payload_append_singleton]
  unfold writeBlock at hwrite
  split at hwrite
  · next hempty =>
    obtain ⟨rfl, -⟩ := Prod.mk.inj hwrite
    rwa [hempty, List.append_nil]
  · exact RotatingFileWriter.holds_of_append h hwrite

/-- Steps that write nothing. -/
theorem Stored.of_same {q q' : SbfWriteQueue} (hs : Stored q)
    (hsame : (q'.writer, q'.handed, q'.writeFailed) = (q.writer, q.handed, q.writeFailed))
    (hfailed : q'.failed = false → q.failed = false)
    (hcloseFailing : q'.ownerPc ≠ .closeFailing → q.ownerPc ≠ .closeFailing)
    (hpast : q'.ownerPc.pastClose = true ∨ q'.closed = true →
      q.ownerPc.pastClose = true ∨ q.closed = true) : Stored q' := by
  simp only [Prod.mk.injEq] at hsame
  obtain ⟨hwriter, hhanded, hwriteFailed⟩ := hsame
  refine ⟨?_, ?_⟩
  · rw [hwriter, hhanded, hwriteFailed]
    exact fun hf hw hne => hs.holds (hfailed hf) hw (hcloseFailing hne)
  · rw [hwriter, hwriteFailed]
    exact fun hf hw h => hs.shut (hfailed hf) hw (hpast h)

theorem Stored.step {q q' : SbfWriteQueue} (hq : Discipline q) (hs : Stored q) (h : Step q q') :
    Stored q' := by
  obtain ⟨hholds, hshut⟩ := id hs
  have hopen : q.ownerPc.mayBeClosed = false → q.closed = false := fun hpc =>
    eq_false_of_ne_true fun hshut => nomatch hpc.symm.trans (hq.closed hshut)
  cases h with
  | @drainWrite block rest writer r hpc hintact hwrite =>
    have hopen := hopen (by rw [hpc]; rfl)
    refine { holds := ?_, shut := ?_ }
    · exact fun hf hw _ => holds_of_writeBlock (hholds hf hw (by rw [hpc]; simp)) hwrite
    · exact fun _ _ h => absurd h (by simp [OwnerPc.pastClose, hopen])
  | @write block writer r hpc hintact hwrite =>
    obtain ⟨hopen, hpast⟩ : q.closed = false ∧ q.ownerPc.pastClose = false := by
      have hrun : ¬ (q.ownerPc.pastJoin = true ∨ q.closed = true) := fun hshut => by
        have hnone := (hq.joined hshut).1
        rw [hpc] at hnone
        exact absurd hnone (by simp)
      rw [not_or, Bool.not_eq_true, Bool.not_eq_true] at hrun
      refine ⟨hrun.2, Bool.eq_false_iff.mpr fun hpast => ?_⟩
      exact absurd (hrun.1.symm.trans (OwnerPc.pastJoin_of_pastClose hpast)) (by decide)
    refine { holds := ?_, shut := ?_ }
    · exact fun hf hw hne => holds_of_writeBlock (hholds hf hw hne) hwrite
    · exact fun _ _ h => absurd h (by simp [hpast, hopen])
  | @closeDone writer r hpc hclose =>
    refine { holds := ?_, shut := ?_ }
    · exact fun hf hw _ => (RotatingFileWriter.holds_of_closeCurrent
        (hholds hf hw (by rw [hpc]; simp)) hclose).1
    · exact fun hf hw _ => (RotatingFileWriter.holds_of_closeCurrent
        (hholds hf hw (by rw [hpc]; simp)) hclose).2
  | closeFail hpc _ =>
    refine ⟨fun _ _ hne => absurd rfl hne, fun _ _ h => ?_⟩
    exact h.elim nofun fun hshut => nomatch (hopen (by rw [hpc]; rfl)).symm.trans hshut
  | closeLatch hpc => exact ⟨nofun, nofun⟩
  | drainFail _ _ _ | writeFail _ _ _ => exact ⟨fun _ => nofun, fun _ => nofun⟩
  | startAgain _ => exact hs
  | answer hpc =>
    exact hs.of_same rfl id (by rw [hpc]; exact nofun) fun _ => .inl (by rw [hpc]; rfl)
  | markClosed hpc =>
    exact hs.of_same rfl id (by rw [hpc]; exact nofun) fun _ => .inl (by rw [hpc]; rfl)
  | startCall hpc _ _ | spawn hpc | enqueueEmpty hpc | enqueueFailed hpc _ | enqueueCall hpc _ _
  | enqueueShut hpc _ | enqueueOver hpc _ _ | enqueueAccept hpc _ _ _ | closeAgain hpc _
  | closeCall hpc _ | takeQueue hpc _ | join hpc _ | drained hpc | drainDiscard hpc _
  | drainLatched hpc _ | drainNotify hpc =>
    exact hs.of_same rfl id (by rw [hpc]; exact nofun) fun h => h.elim nofun .inr
  | refuse _ | drainLatch _ _ | latch _ _ => exact ⟨nofun, nofun⟩
  | pop _ _ | finish _ _ _ | discard _ _ | latched _ _ | notify _ | release _ =>
    exact hs.of_same rfl id id id

/-! ## Every reachable queue -/

section Reachable

variable {cfg : Config} {q : SbfWriteQueue}

theorem discipline_of_reachable (h : (system cfg).Reachable q) : Discipline q :=
  h.invariant (fun _ hinit => hinit ▸ discipline_new cfg) fun _ _ _ hq hstep =>
    hq.step (.of_step hstep)

theorem flow_of_reachable (h : (system cfg).Reachable q) : Flow q :=
  h.invariant_of (fun _ => discipline_of_reachable) (fun _ hinit => hinit ▸ flow_new cfg)
    fun _ _ _ hq hflow hstep => hflow.step hq (.of_step hstep)

theorem budget_of_reachable (h : (system cfg).Reachable q) : Budget cfg q :=
  h.invariant_of (fun _ => discipline_of_reachable) (fun _ hinit => hinit ▸ budget_new cfg)
    fun _ _ _ hq hb hstep => hb.step hq (.of_step hstep)

theorem latches_of_reachable (h : (system cfg).Reachable q) : Latches q :=
  h.invariant_of (fun _ => discipline_of_reachable) (fun _ hinit => hinit ▸ latches_new cfg)
    fun _ _ _ hq hl hstep => hl.step hq (.of_step hstep)

theorem stored_of_reachable (h : (system cfg).Reachable q) : Stored q :=
  h.invariant_of (fun _ => discipline_of_reachable) (fun _ hinit => hinit ▸ stored_new cfg)
    fun _ _ _ hq hs hstep => hs.step hq (.of_step hstep)

/-- Once `Close` has returned true, everything accepted has been written. -/
theorem handed_eq_accepted_of_verdict (h : (system cfg).Reachable q)
    (hverdict : true ∈ q.closeResults) : q.handed = q.accepted ∧ q.refused = 0 := by
  have hq := discipline_of_reachable h
  have hl := latches_of_reachable h
  obtain ⟨⟨lost, hsplit, hlost⟩, -, -⟩ := flow_of_reachable h
  obtain ⟨hfailed, hclosed⟩ := hl.verdict hverdict
  obtain ⟨hnone, hqueue⟩ := hq.joined (.inr hclosed)
  have hpc := hq.closed hclosed
  obtain ⟨hintact, hrefused⟩ := hl.intact hfailed hnone hpc
  have hrest := OwnerPc.rest_of_mayBeClosed hpc
  refine ⟨?_, hrefused⟩
  simp only [hsplit, hlost hintact, hnone, hrest, hqueue, WriterPc.unwritten, List.append_nil]

/-- Once `Close` has returned true, the files hold the accepted blocks. -/
theorem files_of_verdict (h : (system cfg).Reachable q) (hverdict : true ∈ q.closeResults) :
    q.writer.files.flatten = payload q.accepted := by
  have hq := discipline_of_reachable h
  have hl := latches_of_reachable h
  have hs := stored_of_reachable h
  obtain ⟨hfailed, hclosed⟩ := hl.verdict hverdict
  obtain ⟨hnone, -⟩ := hq.joined (.inr hclosed)
  have hpc := hq.closed hclosed
  obtain ⟨hintact, -⟩ := hl.intact hfailed hnone hpc
  have hholds := hs.holds hfailed hintact fun h => by
    rw [h] at hpc
    exact nomatch hpc
  have hcontent := hholds.content
  rwa [RotatingFileWriter.content, hholds.closed (hs.shut hfailed hintact (.inr hclosed)),
    List.append_nil, (handed_eq_accepted_of_verdict h hverdict).1] at hcontent

end Reachable

/-- After a failed write no further block is written. -/
theorem Step.handed_of_writeFailed {q q' : SbfWriteQueue} (h : Step q q')
    (hfailed : q.writeFailed = true) : q'.handed = q.handed ∧ q'.writeFailed = true := by
  cases h with
  | drainFail _ hintact _ | drainWrite _ hintact _ | writeFail _ hintact _ | write _ hintact _ =>
    exact nomatch hintact.symm.trans hfailed
  | _ => exact ⟨rfl, hfailed⟩

/-- A step of an `Enqueue`. -/
def InEnqueue (q : SbfWriteQueue) : QueueAction → Prop
  | .call (.enqueue _) => True
  | .owner _ => (∃ block, q.ownerPc = .enqueueing block) ∨
      ∃ block pending, q.ownerPc = .refusing block pending
  | .call .start | .call .close | .writer _ => False

/-- The part of the queue that neither the owner's call nor the latched failure is. -/
def unlatched (q : SbfWriteQueue) : SbfWriteQueue :=
  { q with
    failed := false, error := "", ownerPc := .idle, returned := none, refused := 0 }

theorem unlatched_return_ (q : SbfWriteQueue) (result : Bool) :
    (q.return_ result).unlatched = q.unlatched := rfl

theorem unlatched_fail (q : SbfWriteQueue) (what : String) :
    (q.fail what).1.unlatched = q.unlatched := by
  rw [fail_eq]
  rfl

/-- The section of `Enqueue` either takes the block or leaves the queue alone. -/
theorem unlatched_enqueueSection {q : SbfWriteQueue} {block : QByteArray}
    (hrefused : (q.enqueueSection block).accepted = q.accepted) :
    (q.enqueueSection block).unlatched = q.unlatched := by
  unfold enqueueSection at hrefused ⊢
  split
  · exact unlatched_return_ q false
  · next hshut =>
    rw [if_neg hshut] at hrefused
    split
    · rfl
    · next hbudget =>
      rw [if_neg hbudget] at hrefused
      exact absurd hrefused (by simp)

/-- A step of an `Enqueue` that does not take its block changes the latched failure and
its message, and nothing else. -/
theorem unlatched_of_refusal {q q' : SbfWriteQueue} {a : QueueAction} (h : q.step a = some q')
    (henqueue : InEnqueue q a) (hrefused : q'.accepted = q.accepted) :
    q'.unlatched = q.unlatched := by
  cases a with
  | call c =>
    cases c with
    | start => exact henqueue.elim
    | close => exact henqueue.elim
    | enqueue block =>
      unfold step callStep at h
      dsimp only at h
      split at h
      · split at h
        · exact Option.some.inj h ▸ unlatched_return_ q true
        · split at h
          · exact Option.some.inj h ▸ unlatched_return_ q false
          · obtain rfl := Option.some.inj h
            rfl
      · exact absurd h (by simp)
  | owner r =>
    unfold step ownerStep at h
    rcases henqueue with ⟨block, hpc⟩ | ⟨block, pending, hpc⟩
    · simp only [hpc] at h
      obtain rfl := Option.some.inj h
      exact unlatched_enqueueSection hrefused
    · simp only [hpc] at h
      obtain rfl := Option.some.inj h
      exact (unlatched_return_ _ _).trans (unlatched_fail q _)
  | writer r => exact henqueue.elim

/-- **The contract of the queue**, in every schedule and wherever a write or the close
fails: the blocks written are the first of those accepted; `Close` is true only if all
were written and none was refused for the budget; while the writer thread runs, the
pending bytes are those queued and in flight, within the budget; the callback is made at
most once; nothing is written after a failed write; and a refused block leaves nothing
behind but the latched failure and its message. -/
theorem contract (cfg : Config) (q : SbfWriteQueue) (h : (system cfg).Reachable q) :
    (q.handed <+: q.accepted ∧ ∀ block ∈ q.accepted, block.bytes ≠ []) ∧
    (true ∈ q.closeResults → q.handed = q.accepted ∧ q.refused = 0) ∧
    (q.writerPc ≠ .none →
      q.pendingBytes = totalSize q.writerPc.inFlight + totalSize q.queue ∧
        q.pendingBytes ≤ cfg.maxPendingBytes) ∧
    q.callbacks ≤ 1 ∧
    ∀ a q', q.step a = some q' →
      (q.writeFailed = true → q'.handed = q.handed ∧ q'.writeFailed = true) ∧
        (InEnqueue q a → q'.accepted = q.accepted → q'.unlatched = q.unlatched) := by
  have hflow := flow_of_reachable h
  have hbudget := budget_of_reachable h
  refine ⟨⟨?_, hflow.nonempty⟩, handed_eq_accepted_of_verdict h,
    fun _ => ⟨hbudget.pending, hbudget.le⟩, ?_, ?_⟩
  · obtain ⟨lost, hsplit, -⟩ := hflow.split
    rw [hsplit]
    simp only [List.append_assoc]
    exact List.prefix_append _ _
  · have hcallback := (latches_of_reachable h).callback
    split at hcallback <;> omega
  · exact fun a q' hstep => ⟨fun hfailed => (Step.of_step hstep).handed_of_writeFailed hfailed,
      unlatched_of_refusal hstep⟩

/-- The contract of a run that writes one block and closes. -/
theorem contract_of_one_block :
    let cfg : Config := ⟨1024, 0, 16, by decide⟩
    ∃ q, (system cfg).Reachable q ∧ q.closeResults = [true] ∧ q.handed.length = 1 ∧
      q.handed = q.accepted ∧ q.refused = 0 ∧ q.callbacks ≤ 1 := by
  intro cfg
  let done : StreamResult := ⟨true, 0⟩
  let opened : OpenResult := ⟨done, done, true, done, done, done⟩
  let r : WriteResult := ⟨⟨opened, opened, done, false, opened⟩, done, done⟩
  let actions : List QueueAction :=
    [.call .start, .owner r, .call (.enqueue ⟨[36, 64], by decide⟩), .owner r, .writer r, .writer r,
      .writer r, .call .close, .writer r, .owner r, .owner r, .owner r, .owner r]
  have hrun : ((system cfg).exec (new cfg) actions).map
      (fun q => (q.closeResults, q.handed.length)) = some ([true], 1) := rfl
  obtain ⟨q, hexec, hq⟩ := Option.map_eq_some_iff.mp hrun
  obtain ⟨hclose, hhanded⟩ := Prod.mk.inj hq
  have hreach := StepSystem.reachable_of_exec (.init rfl) hexec
  obtain ⟨-, hverdict, -, hcallbacks, -⟩ := contract cfg q hreach
  obtain ⟨hall, hrefused⟩ := hverdict (by rw [hclose]; exact List.mem_singleton.mpr rfl)
  exact ⟨q, hreach, hclose, hhanded, hall, hrefused, hcallbacks⟩

end SbfWriteQueue
end Asterx
end AmigaDrivers
