import Mathlib.Data.List.Perm.Basic
import Mathlib.Data.List.Nodup
import AmigaDrivers.Lms.RawRecorderSteps

/-!
# The accounts of a recorder

What holds in every state the three threads of `lms4xxx::RawRecorder` can reach.

* `Gates`: who can still do what.  Behind its loop the worker has closed the queue; a recorder
  without a worker takes nothing in; behind `Stop` the worker is done.
* `Accounts`: where the telegrams are.  Every offered one is queued, refused or in the hands of
  `OnFrame`; the queued ones are, in order, written, discarded, in the hands of the worker or
  still in the queue.
* `BinData`: what the BIN files hold beyond the written telegrams.
-/

namespace AmigaDrivers
namespace Lms

/-- The worker has closed the queue. -/
def WorkerPc.closedQueue : WorkerPc → Bool
  | .countingPending _ | .discarding | .closingLast _ | .done => true
  | .none | .polling | .checkingClosed | .checkingEmpty | .appending _ | .closing _ _
  | .rotating _ | .opening _ _ | .checkingOffset _ | .writingBin _ | .writingCsv _ | .counting _
  | .checkingFlush | .syncingBin | .syncingCsv | .failing _ | .refusing _ | .closingQueue _ => false

/-- The worker has emptied the queue. -/
def WorkerPc.emptiedQueue : WorkerPc → Bool
  | .closingLast _ | .done => true
  | .none | .polling | .checkingClosed | .checkingEmpty | .appending _ | .closing _ _
  | .rotating _ | .opening _ _ | .checkingOffset _ | .writingBin _ | .writingCsv _ | .counting _
  | .checkingFlush | .syncingBin | .syncingCsv | .failing _ | .refusing _ | .closingQueue _
  | .countingPending _ | .discarding => false

/-- How many pushed telegrams `OnFrame` has not counted yet. -/
def ProducerPc.uncounted : ProducerPc → Nat
  | .counting _ => 1
  | .idle | .loading _ | .refusing _ | .pushing _ | .failing _ | .dropping _ | .stoppingIntake
  | .closingQueue => 0

theorem WorkerPc.closedQueue_of_emptiedQueue {pc : WorkerPc} (h : pc.emptiedQueue = true) :
    pc.closedQueue = true := by
  cases pc <;> first | rfl | exact nomatch h

namespace RawRecorder

/-! ## Gates -/

/-- `Start` has opened the intake and not closed it again. -/
def startAccepts : RecorderOwnerPc → Bool
  | .spawning | .startFailing | .startRefusing => true
  | .starting | .opening _ | .accepting | .startClosingQueue | .startClosing _
  | .startClosingDirectory | .started _ | .stopRefusing | .stopClosingQueue | .stopJoining
  | .stopClosingDirectory | .stopped => false

/-- `Stop` has closed the queue. -/
def stopClosed : RecorderOwnerPc → Bool
  | .stopJoining | .stopClosingDirectory | .stopped => true
  | .starting | .opening _ | .accepting | .spawning | .startFailing | .startRefusing
  | .startClosingQueue | .startClosing _ | .startClosingDirectory | .started _ | .stopRefusing
  | .stopClosingQueue => false

/-- What the program counters say about the queue and the intake. -/
structure Gates (s : RawRecorder) : Prop where
  closed : s.workerPc.closedQueue = true → s.queue.closed = true
  empty : s.workerPc.emptiedQueue = true → s.queue.items = []
  early : startReturned s.ownerPc = false → s.workerPc = .none ∧ s.producerPc = .idle
  noWorker : s.workerPc = .none → s.queue.items = [] ∧ (∀ t, s.producerPc ≠ .pushing t)
  intake : s.workerPc = .none → s.accepting = true → startAccepts s.ownerPc = true
  stop : stopClosed s.ownerPc = true → s.queue.closed = true
  joined : s.ownerPc = .stopClosingDirectory ∨ s.ownerPc = .stopped →
    s.workerPc = .none ∨ s.workerPc = .done

theorem startReturned_of_startAccepts {pc : RecorderOwnerPc} (h : startAccepts pc = true) :
    startReturned pc = false := by
  cases pc <;> first | rfl | exact nomatch h

theorem ProducerStep.running {s s' : RawRecorder} (h : ProducerStep s s') :
    s.producerPc ≠ .idle := by
  cases h with
  | refuse hheld =>
    intro hpc
    rw [hpc] at hheld
    exact nomatch hheld
  | _ => have hpc := ‹s.producerPc = _›; rw [hpc]; exact nofun

/-- While `OnFrame` runs, `Start` has returned. -/
theorem Gates.started {s : RawRecorder} (hs : Gates s) (hrun : s.producerPc ≠ .idle) :
    startReturned s.ownerPc = true := by
  by_contra h
  exact hrun (hs.early (eq_false_of_ne_true h)).2

/-- A step of `OnFrame` that leaves the queue open or closed as it was. -/
theorem Gates.of_producer {s s' : RawRecorder} (hs : Gates s) (hrun : s.producerPc ≠ .idle)
    (hsame : (s'.workerPc, s'.ownerPc, s'.queue.items) = (s.workerPc, s.ownerPc, s.queue.items))
    (hclosed : s.queue.closed = true → s'.queue.closed = true)
    (haccepting : s'.accepting = true → s.accepting = true)
    (hpushing : s.workerPc = .none → ∀ t, s'.producerPc ≠ .pushing t) : Gates s' := by
  simp only [Prod.mk.injEq] at hsame
  obtain ⟨hworker, howner, hitems⟩ := hsame
  have hstarted := hs.started hrun
  refine ⟨?_, ?_, ?_, ?_, ?_, ?_, ?_⟩
  · intro h
    exact hclosed (hs.closed (hworker ▸ h))
  · intro h
    rw [hitems]
    exact hs.empty (hworker ▸ h)
  · intro h
    rw [howner, hstarted] at h
    exact nomatch h
  · intro h
    rw [hworker] at h
    exact ⟨hitems ▸ (hs.noWorker h).1, hpushing h⟩
  · intro h hin
    rw [howner]
    exact hs.intake (hworker ▸ h) (haccepting hin)
  · intro h
    exact hclosed (hs.stop (howner ▸ h))
  · intro h
    rw [hworker]
    exact hs.joined (howner ▸ h)

theorem Gates.producer {s s' : RawRecorder} (hs : Gates s) (h : ProducerStep s s') : Gates s' := by
  have hrun := h.running
  cases h with
  | admitted hpc haccepting =>
    refine hs.of_producer hrun rfl id id ?_
    intro hnone
    have hstarted := hs.started hrun
    rw [startReturned_of_startAccepts (hs.intake hnone haccepting)] at hstarted
    exact nomatch hstarted
  | refuse hheld hpc =>
    refine hs.of_producer hrun rfl id id ?_
    intro _ t
    obtain rfl | rfl := hpc <;> exact nofun
  | push hpc hopen =>
    have hopen' : ¬ s.queue.closed = true := by
      rw [hopen]
      exact nofun
    refine ⟨?_, ?_, ?_, ?_, ?_, ?_, hs.joined⟩
    · intro h
      exact absurd (hs.closed h) hopen'
    · intro h
      exact absurd (hs.closed (WorkerPc.closedQueue_of_emptiedQueue h)) hopen'
    · intro h
      exact absurd (hs.early h).2 hrun
    · intro h
      exact absurd hpc ((hs.noWorker h).2 _)
    · exact hs.intake
    · exact hs.stop
  | closeQueue hpc => exact hs.of_producer hrun rfl (fun _ => rfl) id (fun _ _ => nofun)
  | stopIntake hpc => exact hs.of_producer hrun rfl id nofun (fun _ _ => nofun)
  | _ => exact hs.of_producer hrun rfl id id (fun _ _ => nofun)

/-- A step of the worker within its loop, or behind it. -/
theorem Gates.of_worker {s s' : RawRecorder} (hs : Gates s) (hborn : s.workerPc ≠ .none)
    (hborn' : s'.workerPc ≠ .none) (hrun : s.workerPc ≠ .done)
    (hsame : (s'.ownerPc, s'.producerPc) = (s.ownerPc, s.producerPc))
    (hclosed : s.queue.closed = true → s'.queue.closed = true)
    (hmark : s'.workerPc.closedQueue = true → s'.queue.closed = true)
    (hempty : s'.workerPc.emptiedQueue = true → s'.queue.items = []) : Gates s' := by
  simp only [Prod.mk.injEq] at hsame
  obtain ⟨howner, hproducer⟩ := hsame
  refine ⟨hmark, hempty, ?_, ?_, ?_, ?_, ?_⟩
  · intro h
    rw [howner] at h
    exact absurd (hs.early h).1 hborn
  · intro h
    exact absurd h hborn'
  · intro h
    exact absurd h hborn'
  · intro h
    exact hclosed (hs.stop (howner ▸ h))
  · intro h
    rw [howner] at h
    obtain h | h := hs.joined h
    · exact absurd h hborn
    · exact absurd h hrun

theorem WorkerMove.gates {pc pc' : WorkerPc} (h : WorkerMove pc pc') :
    pc ≠ .none ∧ pc' ≠ .none ∧ pc ≠ .done ∧ pc'.closedQueue = pc.closedQueue ∧
      pc'.emptiedQueue = false := by
  cases h with
  | again hpc => obtain rfl | rfl := hpc <;> exact ⟨nofun, nofun, nofun, rfl, rfl⟩
  | throws hpc => obtain rfl | rfl | rfl := hpc <;> exact ⟨nofun, nofun, nofun, rfl, rfl⟩
  | flushThrows hpc => obtain rfl | rfl := hpc <;> exact ⟨nofun, nofun, nofun, rfl, rfl⟩
  | _ => exact ⟨nofun, nofun, nofun, rfl, rfl⟩

theorem Gates.worker {s s' : RawRecorder} {r : IoAnswers} (hs : Gates s)
    (h : WorkerStep s r s') : Gates s' := by
  cases h with
  | move hmove =>
    obtain ⟨hborn, hborn', hrun, hclosed, hemptied⟩ := hmove.gates
    refine hs.of_worker hborn hborn' hrun rfl id ?_ ?_
    · intro h
      exact hs.closed (hclosed ▸ h)
    · intro h
      exact nomatch hemptied.symm.trans h
  | closeSplit hpc =>
    refine hs.of_worker (by rw [hpc]; exact nofun) ?_ (by rw [hpc]; exact nofun) rfl id ?_ ?_ <;>
      dsimp only <;> split <;> exact nofun
  | openSplit hpc =>
    refine hs.of_worker (by rw [hpc]; exact nofun) ?_ (by rw [hpc]; exact nofun) rfl id ?_ ?_ <;>
      dsimp only <;> unfold afterOpen <;> split <;> exact nofun
  | writeBin hpc =>
    refine hs.of_worker (by rw [hpc]; exact nofun) ?_ (by rw [hpc]; exact nofun) rfl id ?_ ?_ <;>
      dsimp only <;> split_ifs <;> exact nofun
  | writeCsv hpc =>
    refine hs.of_worker (by rw [hpc]; exact nofun) ?_ (by rw [hpc]; exact nofun) rfl id ?_ ?_ <;>
      dsimp only <;> split_ifs <;> exact nofun
  | closeQueue hpc =>
    exact hs.of_worker (by rw [hpc]; exact nofun) nofun (by rw [hpc]; exact nofun) rfl
      (fun _ => rfl) (fun _ => rfl) nofun
  | discardPending hpc =>
    have hclosed : s.queue.closed = true := hs.closed (by rw [hpc]; rfl)
    exact hs.of_worker (by rw [hpc]; exact nofun) nofun (by rw [hpc]; exact nofun) rfl id
      (fun _ => hclosed) nofun
  | discard hpc =>
    have hclosed : s.queue.closed = true := hs.closed (by rw [hpc]; rfl)
    exact hs.of_worker (by rw [hpc]; exact nofun) nofun (by rw [hpc]; exact nofun) rfl id
      (fun _ => hclosed) nofun
  | drained hpc hitems =>
    have hclosed : s.queue.closed = true := hs.closed (by rw [hpc]; rfl)
    exact hs.of_worker (by rw [hpc]; exact nofun) nofun (by rw [hpc]; exact nofun) rfl id
      (fun _ => hclosed) (fun _ => hitems)
  | closeLast hpc =>
    have hclosed : s.queue.closed = true := hs.closed (by rw [hpc]; rfl)
    have hitems : s.queue.items = [] := hs.empty (by rw [hpc]; rfl)
    refine hs.of_worker (by rw [hpc]; exact nofun) ?_ (by rw [hpc]; exact nofun) rfl id
      (fun _ => hclosed) (fun _ => hitems)
    dsimp only
    split <;> exact nofun
  | _ =>
    have hpc := ‹s.workerPc = _›
    exact hs.of_worker (by rw [hpc]; exact nofun) nofun (by rw [hpc]; exact nofun) rfl id nofun
      nofun

/-- A step of the owner within `Start`, where nobody else is there. -/
theorem Gates.of_start {s s' : RawRecorder} (hs : Gates s) (hearly : startReturned s.ownerPc = false)
    (hsame : (s'.workerPc, s'.producerPc, s'.queue.items) =
      (s.workerPc, s.producerPc, s.queue.items))
    (hintake : s'.accepting = true → startAccepts s'.ownerPc = true)
    (hstop : stopClosed s'.ownerPc = false) : Gates s' := by
  simp only [Prod.mk.injEq] at hsame
  obtain ⟨hworker, hproducer, hitems⟩ := hsame
  obtain ⟨hnone, hidle⟩ := hs.early hearly
  rw [hnone] at hworker
  rw [hidle] at hproducer
  refine ⟨?_, ?_, fun _ => ⟨hworker, hproducer⟩, ?_, fun _ => hintake, ?_, fun _ => .inl hworker⟩
  · intro h
    rw [hworker] at h
    exact nomatch h
  · intro h
    rw [hworker] at h
    exact nomatch h
  · intro _
    refine ⟨hitems ▸ (hs.noWorker hnone).1, ?_⟩
    rw [hproducer]
    exact fun _ => nofun
  · intro h
    exact nomatch hstop.symm.trans h

/-- A step of the owner within `Stop`. -/
theorem Gates.of_stop {s s' : RawRecorder} (hs : Gates s) (hlate : startReturned s.ownerPc = true)
    (hlate' : startReturned s'.ownerPc = true)
    (hsame : (s'.workerPc, s'.producerPc, s'.queue.items) =
      (s.workerPc, s.producerPc, s.queue.items))
    (haccepting : s'.accepting = true → s.accepting = true)
    (hclosed : s.queue.closed = true → s'.queue.closed = true)
    (hstop : stopClosed s'.ownerPc = true → s'.queue.closed = true)
    (hjoined : s'.ownerPc = .stopClosingDirectory ∨ s'.ownerPc = .stopped →
      s.workerPc = .none ∨ s.workerPc = .done) : Gates s' := by
  simp only [Prod.mk.injEq] at hsame
  obtain ⟨hworker, hproducer, hitems⟩ := hsame
  refine ⟨?_, ?_, ?_, ?_, ?_, hstop, ?_⟩
  · intro h
    exact hclosed (hs.closed (hworker ▸ h))
  · intro h
    rw [hitems]
    exact hs.empty (hworker ▸ h)
  · intro h
    exact nomatch hlate'.symm.trans h
  · intro h
    rw [hproducer, hitems]
    exact hs.noWorker (hworker ▸ h)
  · intro h hin
    have hearly := startReturned_of_startAccepts (hs.intake (hworker ▸ h) (haccepting hin))
    exact nomatch hlate.symm.trans hearly
  · intro h
    rw [hworker]
    exact hjoined h

theorem Gates.owner {s s' : RawRecorder} {r : IoAnswers} (hs : Gates s)
    (h : OwnerStep s r s') : Gates s' := by
  -- `Start` runs alone, so its steps keep the intake closed unless they open it
  have closedIntake {pc : RecorderOwnerPc} (hpc : s.ownerPc = pc)
      (hearly : startReturned pc = false) (hshut : startAccepts pc = false) :
      ¬ s.accepting = true := by
    intro hin
    have haccepts := hs.intake (hs.early (hpc ▸ hearly)).1 hin
    rw [hpc, hshut] at haccepts
    exact nomatch haccepts
  cases h with
  | @move pc hmove =>
    generalize hpc : s.ownerPc = pc₀ at hmove
    cases hmove with
    | openThrows => exact hs.of_start (by rw [hpc]; rfl) rfl (fun _ => rfl) rfl
    | spawnThrows => exact hs.of_start (by rw [hpc]; rfl) rfl (fun _ => rfl) rfl
    | join hjoin =>
      exact hs.of_stop (by rw [hpc]; rfl) rfl rfl id id (fun _ => hs.stop (by rw [hpc]; rfl))
        (fun _ => hjoin)
  | openDirectory hpc =>
    exact hs.of_start (by rw [hpc]; rfl) rfl
      (fun hin => absurd hin (closedIntake hpc rfl rfl)) rfl
  | openSplit hpc =>
    refine hs.of_start (by rw [hpc]; rfl) rfl
      (fun hin => absurd hin (closedIntake hpc rfl rfl)) ?_
    dsimp only
    split <;> rfl
  | accept hpc => exact hs.of_start (by rw [hpc]; rfl) rfl (fun _ => rfl) rfl
  | spawn hpc => exact ⟨nofun, nofun, nofun, nofun, nofun, nofun, nofun⟩
  | latch hpc => exact hs.of_start (by rw [hpc]; rfl) rfl (fun _ => rfl) rfl
  | refuse hpc =>
    obtain ⟨hpc, rfl⟩ | ⟨hpc, rfl⟩ := hpc
    · exact hs.of_start (by rw [hpc]; rfl) rfl nofun rfl
    · exact hs.of_stop (by rw [hpc]; rfl) rfl rfl nofun id nofun nofun
  | closeQueue hpc =>
    obtain ⟨hpc, rfl⟩ | ⟨hpc, rfl⟩ := hpc
    · exact hs.of_start (by rw [hpc]; rfl) rfl
        (fun hin => absurd hin (closedIntake hpc rfl rfl)) rfl
    · exact hs.of_stop (by rw [hpc]; rfl) rfl rfl id (fun _ => rfl) (fun _ => rfl) nofun
  | closeSplit hpc =>
    refine hs.of_start (by rw [hpc]; rfl) rfl
      (fun hin => absurd hin (closedIntake hpc rfl rfl)) ?_
    dsimp only
    split <;> rfl
  | closeDirectory hpc =>
    obtain ⟨hpc, rfl⟩ | ⟨hpc, rfl⟩ := hpc
    · exact hs.of_start (by rw [hpc]; rfl) rfl
        (fun hin => absurd hin (closedIntake hpc rfl rfl)) rfl
    · exact hs.of_stop (by rw [hpc]; rfl) rfl rfl id id (fun _ => hs.stop (by rw [hpc]; rfl))
        (fun _ => hs.joined (.inl hpc))

theorem Gates.step {s s' : RawRecorder} {a : RecorderAction} (hs : Gates s)
    (h : s.step a = some s') : Gates s' := by
  cases a with
  | onFrame record =>
    obtain ⟨hidle, howner, rfl⟩ := onFrame_inv h
    refine ⟨hs.closed, hs.empty, ?_, ?_, hs.intake, hs.stop, hs.joined⟩
    · intro hearly
      exact nomatch howner.symm.trans hearly
    · intro hnone
      exact ⟨(hs.noWorker hnone).1, fun _ => nofun⟩
  | producer threw => exact hs.producer (producerStep_inv h)
  | worker r => exact hs.worker (workerStep_inv h)
  | owner r => exact hs.owner (ownerStep_inv h)
  | stop =>
    obtain ⟨hpc, rfl⟩ := stop_inv h
    refine hs.of_stop ?_ rfl rfl id id nofun nofun
    obtain ⟨ok, hpc⟩ | hpc := hpc <;> rw [hpc] <;> rfl

/-- **The gates hold in every reachable state.** -/
theorem gates_of_reachable {maxFileBytes capacity : Nat} {s : RawRecorder}
    (h : (system maxFileBytes capacity).Reachable s) : Gates s := by
  refine h.invariant ?_ ?_
  · rintro s rfl
    exact ⟨nofun, nofun, fun _ => ⟨rfl, rfl⟩, fun _ => ⟨rfl, fun _ => nofun⟩, nofun, nofun, nofun⟩
  · intro s a s' hs hstep
    exact hs.step hstep

/-! ## The telegrams -/

/-- The telegrams of the calls of `OnFrame`. -/
def numbered (offered : List RawRecord) : List Telegram := offered.mapIdx Telegram.mk

theorem numbered_append (offered : List RawRecord) (record : RawRecord) :
    numbered (offered ++ [record]) = numbered offered ++ [⟨offered.length, record⟩] :=
  List.mapIdx_concat

theorem map_record_numbered (offered : List RawRecord) :
    (numbered offered).map Telegram.record = offered := by
  refine List.ext_getElem (by simp [numbered]) ?_
  intro i hi hi'
  simp [numbered]

/-- No telegram is offered twice. -/
theorem nodup_numbered (offered : List RawRecord) : (numbered offered).Nodup := by
  have hcalls : (numbered offered).map Telegram.call = List.range offered.length := by
    refine List.ext_getElem (by simp [numbered]) ?_
    intro i hi hi'
    simp [numbered]
  exact List.Nodup.of_map Telegram.call (hcalls ▸ List.nodup_range)

theorem mem_numbered {offered : List RawRecord} {i : Nat} (hi : i < offered.length) :
    ⟨i, offered[i]⟩ ∈ numbered offered := by
  rw [numbered, List.mem_mapIdx]
  exact ⟨i, hi, rfl⟩

/-- Where the telegrams are, and what the counters say. -/
structure Accounts (s : RawRecorder) : Prop where
  offered : (s.pushed ++ s.refused ++ s.producerPc.held).Perm (numbered s.offered)
  order : (s.pushed ++ s.producerPc.held).Sublist (numbered s.offered)
  fifo : s.pushed = s.written ++ s.discarded ++ s.workerPc.held ++ s.queue.items
  nothing : s.workerPc.beforeDrain = true → s.discarded = []
  queued : s.pushed.length = s.framesQueued + s.producerPc.uncounted
  written : s.framesWritten = s.written.length
  dropped : s.framesDropped = s.refused.length + s.discarded.length

/-- A step that leaves the telegrams where they are. -/
theorem Accounts.of_same {s s' : RawRecorder} (hs : Accounts s)
    (hsame : (s'.offered, s'.pushed, s'.refused, s'.written, s'.discarded, s'.queue.items) =
      (s.offered, s.pushed, s.refused, s.written, s.discarded, s.queue.items))
    (hcounters : (s'.framesQueued, s'.framesWritten, s'.framesDropped) =
      (s.framesQueued, s.framesWritten, s.framesDropped))
    (hproducer : s'.producerPc.held = s.producerPc.held)
    (huncounted : s'.producerPc.uncounted = s.producerPc.uncounted)
    (hworker : s'.workerPc.held = s.workerPc.held)
    (hloop : s'.workerPc.beforeDrain = true → s.workerPc.beforeDrain = true) : Accounts s' := by
  simp only [Prod.mk.injEq] at hsame hcounters
  obtain ⟨hoffered, hpushed, hrefused, hwritten, hdiscarded, hitems⟩ := hsame
  obtain ⟨hcQueued, hcWritten, hcDropped⟩ := hcounters
  refine ⟨?_, ?_, ?_, ?_, ?_, ?_, ?_⟩
  · rw [hoffered, hpushed, hrefused, hproducer]
    exact hs.offered
  · rw [hoffered, hpushed, hproducer]
    exact hs.order
  · rw [hpushed, hwritten, hdiscarded, hworker, hitems]
    exact hs.fifo
  · intro h
    rw [hdiscarded]
    exact hs.nothing (hloop h)
  · rw [hpushed, hcQueued, huncounted]
    exact hs.queued
  · rw [hcWritten, hwritten]
    exact hs.written
  · rw [hcDropped, hrefused, hdiscarded]
    exact hs.dropped

theorem Accounts.onFrame {s s' : RawRecorder} {record : RawRecord} (hs : Accounts s)
    (h : s.onFrame record = some s') : Accounts s' := by
  obtain ⟨hidle, -, rfl⟩ := onFrame_inv h
  have hoffered := hs.offered
  have horder := hs.order
  have hqueued := hs.queued
  rw [hidle] at hoffered horder hqueued
  rw [ProducerPc.held, List.append_nil] at hoffered horder
  refine ⟨?_, ?_, hs.fifo, hs.nothing, hqueued, hs.written, hs.dropped⟩
  · dsimp only
    rw [numbered_append]
    exact hoffered.append_right _
  · dsimp only
    rw [numbered_append]
    exact horder.append (List.Sublist.refl _)

theorem Accounts.producer {s s' : RawRecorder} (hs : Accounts s) (h : ProducerStep s s') :
    Accounts s' := by
  cases h with
  | @refuse t pc hheld hpc =>
    have hoffered := hs.offered
    have horder := hs.order
    have hqueued := hs.queued
    rw [hheld] at hoffered horder
    have hpc' : pc.held = [] ∧ pc.uncounted = 0 := by
      obtain rfl | rfl := hpc <;> exact ⟨rfl, rfl⟩
    have huncounted : s.producerPc.uncounted = 0 := by
      generalize s.producerPc = pc₀ at hheld
      cases pc₀ <;> first | rfl | exact nomatch hheld
    refine ⟨?_, ?_, hs.fifo, hs.nothing, ?_, hs.written, ?_⟩
    · show (s.pushed ++ (s.refused ++ [t]) ++ pc.held).Perm (numbered s.offered)
      rw [hpc'.1, List.append_nil, ← List.append_assoc]
      exact hoffered
    · show (s.pushed ++ pc.held).Sublist (numbered s.offered)
      rw [hpc'.1, List.append_nil]
      exact (List.sublist_append_left _ _).trans horder
    · show s.pushed.length = s.framesQueued + pc.uncounted
      rw [hpc'.2, hqueued, huncounted]
    · show s.framesDropped + 1 = (s.refused ++ [t]).length + s.discarded.length
      rw [List.length_append, List.length_singleton, hs.dropped]
      omega
  | @push t hpc hopen =>
    have hoffered := hs.offered
    have horder := hs.order
    have hqueued := hs.queued
    rw [hpc] at hoffered horder hqueued
    refine ⟨?_, ?_, ?_, hs.nothing, ?_, hs.written, hs.dropped⟩
    · show (s.pushed ++ [t] ++ s.refused ++ []).Perm (numbered s.offered)
      refine List.Perm.trans ?_ hoffered
      rw [List.append_nil, List.append_assoc, List.append_assoc]
      exact List.Perm.append_left _ List.perm_append_comm
    · show (s.pushed ++ [t] ++ []).Sublist (numbered s.offered)
      rw [List.append_nil]
      exact horder
    · show s.pushed ++ [t] = s.written ++ s.discarded ++ s.workerPc.held ++ (s.queue.items ++ [t])
      rw [← List.append_assoc, ← hs.fifo]
    · show (s.pushed ++ [t]).length = s.framesQueued + 1
      rw [List.length_append, List.length_singleton, hqueued]
      rfl
  | count hpc =>
    have hoffered := hs.offered
    have horder := hs.order
    have hqueued := hs.queued
    rw [hpc] at hoffered horder hqueued
    exact ⟨hoffered, horder, hs.fifo, hs.nothing, hqueued, hs.written, hs.dropped⟩
  | _ =>
    have hpc := ‹s.producerPc = _›
    exact hs.of_same rfl rfl (by rw [hpc]; rfl) (by rw [hpc]; rfl) rfl id

theorem WorkerMove.held {pc pc' : WorkerPc} (h : WorkerMove pc pc') :
    pc'.held = pc.held ∧ (pc'.beforeDrain = true → pc.beforeDrain = true) := by
  cases h with
  | again hpc => obtain rfl | rfl := hpc <;> exact ⟨rfl, id⟩
  | throws hpc => obtain rfl | rfl | rfl := hpc <;> exact ⟨rfl, fun _ => rfl⟩
  | flushThrows hpc => obtain rfl | rfl := hpc <;> exact ⟨rfl, fun _ => rfl⟩
  | _ => exact ⟨rfl, fun _ => rfl⟩

theorem Accounts.worker {s s' : RawRecorder} {r : IoAnswers} (hs : Accounts s)
    (h : WorkerStep s r s') : Accounts s' := by
  have hfifo := hs.fifo
  cases h with
  | move hmove =>
    obtain ⟨hheld, hloop⟩ := hmove.held
    exact hs.of_same rfl rfl rfl rfl hheld hloop
  | @take t items hpc hitems =>
    refine ⟨hs.offered, hs.order, ?_, fun _ => hs.nothing (by rw [hpc]; rfl), hs.queued, hs.written,
      hs.dropped⟩
    show s.pushed = s.written ++ s.discarded ++ [t] ++ items
    rw [hpc, hitems, WorkerPc.held, List.append_nil] at hfifo
    rw [hfifo, List.append_assoc (s.written ++ s.discarded), List.singleton_append]
  | closeSplit hpc =>
    refine hs.of_same rfl rfl rfl rfl ?_ ?_ <;> rw [hpc] <;> dsimp only <;> split <;>
      first | rfl | exact fun _ => rfl
  | openSplit hpc =>
    refine hs.of_same rfl rfl rfl rfl ?_ ?_ <;> rw [hpc] <;> dsimp only [afterOpen] <;> split <;>
      first | rfl | exact fun _ => rfl
  | writeBin hpc =>
    refine hs.of_same rfl rfl rfl rfl ?_ ?_ <;> rw [hpc] <;> dsimp only <;> split_ifs <;>
      first | rfl | exact fun _ => rfl
  | writeCsv hpc =>
    refine hs.of_same rfl rfl rfl rfl ?_ ?_ <;> rw [hpc] <;> dsimp only <;> split_ifs <;>
      first | rfl | exact fun _ => rfl
  | @count t hpc =>
    have hnone : s.discarded = [] := hs.nothing (by rw [hpc]; rfl)
    refine ⟨hs.offered, hs.order, ?_, fun _ => hnone, hs.queued, ?_, hs.dropped⟩
    · show s.pushed = s.written ++ [t] ++ s.discarded ++ [] ++ s.queue.items
      rw [hpc, hnone, WorkerPc.held, List.append_nil] at hfifo
      rw [hfifo, hnone, List.append_nil, List.append_nil]
    · show s.framesWritten + 1 = (s.written ++ [t]).length
      rw [List.length_append, List.length_singleton, hs.written]
  | @discardPending t hpc =>
    refine ⟨hs.offered, hs.order, ?_, nofun, hs.queued, hs.written, ?_⟩
    · show s.pushed = s.written ++ (s.discarded ++ [t]) ++ [] ++ s.queue.items
      rw [hpc] at hfifo
      rw [hfifo, WorkerPc.held, Option.toList_some, List.append_nil, ← List.append_assoc]
    · show s.framesDropped + 1 = s.refused.length + (s.discarded ++ [t]).length
      rw [List.length_append, List.length_singleton, hs.dropped]
      omega
  | @discard t items hpc hitems =>
    refine ⟨hs.offered, hs.order, ?_, nofun, hs.queued, hs.written, ?_⟩
    · show s.pushed = s.written ++ (s.discarded ++ [t]) ++ [] ++ items
      rw [hpc, hitems, WorkerPc.held, List.append_nil] at hfifo
      rw [hfifo, List.append_nil, ← List.append_assoc, List.append_assoc (s.written ++ s.discarded),
        List.singleton_append]
    · show s.framesDropped + 1 = s.refused.length + (s.discarded ++ [t]).length
      rw [List.length_append, List.length_singleton, hs.dropped]
      omega
  | closeLast hpc =>
    refine hs.of_same rfl rfl rfl rfl ?_ ?_ <;> rw [hpc] <;> dsimp only <;> split <;>
      first | rfl | exact nofun
  | _ =>
    have hpc := ‹s.workerPc = _›
    exact hs.of_same rfl rfl rfl rfl (by rw [hpc]; rfl) (by rw [hpc]; exact id)

theorem Accounts.owner {s s' : RawRecorder} {r : IoAnswers} (hs : Accounts s) (hgates : Gates s)
    (h : OwnerStep s r s') : Accounts s' := by
  cases h with
  | spawn hpc =>
    obtain ⟨hnone, -⟩ := hgates.early (by rw [hpc]; rfl)
    exact hs.of_same rfl rfl rfl rfl (by rw [hnone]; rfl) (fun _ => by rw [hnone]; rfl)
  | _ => exact hs.of_same rfl rfl rfl rfl rfl id

theorem Accounts.step {s s' : RawRecorder} {a : RecorderAction} (hs : Accounts s)
    (hgates : Gates s) (h : s.step a = some s') : Accounts s' := by
  cases a with
  | onFrame record => exact hs.onFrame h
  | producer threw => exact hs.producer (producerStep_inv h)
  | worker r => exact hs.worker (workerStep_inv h)
  | owner r => exact hs.owner hgates (ownerStep_inv h)
  | stop =>
    obtain ⟨-, rfl⟩ := stop_inv h
    exact hs.of_same rfl rfl rfl rfl rfl id

/-- **The accounts balance in every reachable state.** -/
theorem accounts_of_reachable {maxFileBytes capacity : Nat} {s : RawRecorder}
    (h : (system maxFileBytes capacity).Reachable s) : Accounts s := by
  refine h.invariant_of (fun s => gates_of_reachable) ?_ ?_
  · rintro s rfl
    exact ⟨List.Perm.refl _, List.Sublist.refl _, rfl, fun _ => rfl, rfl, rfl, rfl⟩
  · intro s a s' hgates hs hstep
    exact hs.step hgates hstep

end RawRecorder
end Lms
end AmigaDrivers
