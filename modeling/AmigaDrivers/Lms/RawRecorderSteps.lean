import AmigaDrivers.Lms.RawRecorder

/-!
# What a step of the recorder does

The step functions of `lms4xxx::RawRecorder`, read backwards: one constructor for each kind of
effect a thread can have.  Every invariant of the recorder is proved from these.

* `producerStep_inv`, `workerStep_inv`, `ownerStep_inv`: a step is one of the kinds.
* `closeStep_frame`, `openStep_frame`: what an operation of `CloseSplit` or `OpenSplit` leaves
  alone.
-/

namespace AmigaDrivers
namespace Lms

/-- The telegram `OnFrame` holds. -/
def ProducerPc.held : ProducerPc → List Telegram
  | .loading t | .refusing t | .pushing t | .failing t | .dropping t => [t]
  | .idle | .counting _ | .stoppingIntake | .closingQueue => []

/-- The telegram the worker holds. -/
def WorkerPc.held : WorkerPc → List Telegram
  | .appending t | .closing _ t | .rotating t | .opening _ t | .checkingOffset t | .writingBin t
  | .writingCsv t | .counting t => [t]
  | .failing pending | .refusing pending | .closingQueue pending | .countingPending pending =>
    pending.toList
  | .none | .polling | .checkingClosed | .checkingEmpty | .checkingFlush | .syncingBin
  | .syncingCsv | .discarding | .closingLast _ | .done => []

/-- The worker has discarded nothing yet. -/
def WorkerPc.beforeDrain : WorkerPc → Bool
  | .discarding | .closingLast _ | .done => false
  | .none | .polling | .checkingClosed | .checkingEmpty | .appending _ | .closing _ _
  | .rotating _ | .opening _ _ | .checkingOffset _ | .writingBin _ | .writingCsv _ | .counting _
  | .checkingFlush | .syncingBin | .syncingCsv | .failing _ | .refusing _ | .closingQueue _
  | .countingPending _ => true

namespace SplitFiles

/-- An operation of `CloseSplit` leaves the data and the counts alone. -/
theorem closeStep_frame (f : SplitFiles) (failed : Bool) (r : IoAnswers) (at' : CloseStep) :
    let g := (f.closeStep failed r at').1
    (g.earlier, g.current.bin, g.current.csv, g.current.records, g.splitIndex, g.splitBytes,
        g.splitFrames, g.splitScans) =
      (f.earlier, f.current.bin, f.current.csv, f.current.records, f.splitIndex, f.splitBytes,
        f.splitFrames, f.splitScans) := by
  cases at' <;> simp only [closeStep] <;> first | rfl | (split_ifs <;> rfl)

/-- An operation of `CloseSplit` keeps a latched failure. -/
theorem closeStep_failed (f : SplitFiles) (r : IoAnswers) (at' : CloseStep) :
    (f.closeStep true r at').2.1 = true := by
  cases at' <;> simp only [closeStep] <;> first | rfl | (split_ifs <;> rfl)

/-- An operation of `OpenSplit` leaves the earlier splits and the records alone. -/
theorem openStep_frame (f : SplitFiles) (r : IoAnswers) (at' : OpenStep) :
    let g := (f.openStep r at').1
    (g.earlier, g.current.records, g.splitIndex) =
      (f.earlier, f.current.records, f.splitIndex) := by
  cases at' <;> simp only [openStep] <;> first | rfl | (split_ifs <;> rfl)

end SplitFiles

namespace RawRecorder

/-! ## The producer -/

/-- A step of `OnFrame`. -/
inductive ProducerStep (s : RawRecorder) : RawRecorder → Prop
  | admitted {t : Telegram} (hpc : s.producerPc = .loading t) (haccepting : s.accepting = true) :
      ProducerStep s { s with producerPc := .pushing t }
  | turnAway {t : Telegram} (hpc : s.producerPc = .loading t) :
      ProducerStep s { s with producerPc := .refusing t }
  | refuse {t : Telegram} {pc : ProducerPc} (hheld : s.producerPc.held = [t])
      (hpc : pc = .idle ∨ pc = .stoppingIntake) :
      ProducerStep s { s.refuse t with producerPc := pc }
  | push {t : Telegram} (hpc : s.producerPc = .pushing t) (hopen : s.queue.closed = false) :
      ProducerStep s
        { s with
          queue := { s.queue with items := s.queue.items ++ [t] }
          pushed := s.pushed ++ [t]
          producerPc := .counting t }
  | giveUp {t : Telegram} (hpc : s.producerPc = .pushing t) :
      ProducerStep s { s with producerPc := .failing t }
  | count {t : Telegram} (hpc : s.producerPc = .counting t) :
      ProducerStep s
        { s with
          framesQueued := s.framesQueued + 1
          scansQueued := s.scansQueued + if t.record.isScan then 1 else 0
          producerPc := .idle }
  | latch {t : Telegram} (hpc : s.producerPc = .failing t) :
      ProducerStep s { s with failed := true, producerPc := .dropping t }
  | stopIntake (hpc : s.producerPc = .stoppingIntake) :
      ProducerStep s { s with accepting := false, producerPc := .closingQueue }
  | closeQueue (hpc : s.producerPc = .closingQueue) :
      ProducerStep s { s with queue := s.queue.close, producerPc := .idle }

theorem producerStep_inv {s s' : RawRecorder} {threw : Bool} (h : s.producerStep threw = some s') :
    ProducerStep s s' := by
  unfold producerStep at h
  split at h
  · exact nomatch h
  · rename_i t hpc
    obtain rfl := Option.some.inj h
    by_cases haccepting : s.accepting = true
    · rw [if_pos haccepting]
      exact .admitted hpc haccepting
    · rw [if_neg haccepting]
      exact .turnAway hpc
  · rename_i t hpc
    obtain rfl := Option.some.inj h
    exact .refuse (by rw [hpc]; rfl) (.inl rfl)
  · rename_i t hpc
    split at h
    · obtain rfl := Option.some.inj h
      exact .giveUp hpc
    · obtain hfull | ⟨hopen, hpush⟩ := s.queue.tryPush_cases t
      · rw [hfull] at h
        obtain rfl := Option.some.inj h
        exact .giveUp hpc
      · rw [hpush] at h
        obtain rfl := Option.some.inj h
        exact .push hpc hopen
  · rename_i t hpc
    obtain rfl := Option.some.inj h
    exact .count hpc
  · rename_i t hpc
    obtain rfl := Option.some.inj h
    exact .latch hpc
  · rename_i t hpc
    obtain rfl := Option.some.inj h
    exact .refuse (by rw [hpc]; rfl) (.inr rfl)
  · rename_i hpc
    obtain rfl := Option.some.inj h
    exact .stopIntake hpc
  · rename_i hpc
    obtain rfl := Option.some.inj h
    exact .closeQueue hpc

/-! ## The worker -/

/-- The steps of the worker that change nothing but its program counter. -/
inductive WorkerMove : WorkerPc → WorkerPc → Prop
  | seeEmpty : WorkerMove .polling .checkingClosed
  | seeOpen : WorkerMove .checkingClosed .checkingFlush
  | seeClosed : WorkerMove .checkingClosed .checkingEmpty
  | seeMore : WorkerMove .checkingEmpty .checkingFlush
  | leave : WorkerMove .checkingEmpty (.refusing none)
  | split (t : Telegram) : WorkerMove (.appending t) (.closing .syncBin t)
  | stay (t : Telegram) : WorkerMove (.appending t) (.checkingOffset t)
  | fits (t : Telegram) : WorkerMove (.checkingOffset t) (.writingBin t)
  | flush : WorkerMove .checkingFlush .syncingBin
  | again {pc : WorkerPc} (hpc : pc = .checkingFlush ∨ pc = .syncingCsv) : WorkerMove pc .polling
  | flushCsv : WorkerMove .syncingBin .syncingCsv
  | throws {pc : WorkerPc} {t : Telegram}
      (hpc : pc = .appending t ∨ pc = .rotating t ∨ pc = .checkingOffset t) :
      WorkerMove pc (.failing (some t))
  | flushThrows {pc : WorkerPc} (hpc : pc = .syncingBin ∨ pc = .syncingCsv) :
      WorkerMove pc (.failing none)
  | nothingPending : WorkerMove (.countingPending none) .discarding

/-- Where an operation of `OpenSplit` leads the worker. -/
def afterOpen (t : Telegram) : OpenOutcome → WorkerPc
  | .threw => .failing (some t)
  | .next next => .opening next t
  | .done => .checkingOffset t

/-- A step of `WriteLoop`. -/
inductive WorkerStep (s : RawRecorder) (r : IoAnswers) : RawRecorder → Prop
  | move {pc : WorkerPc} (hmove : WorkerMove s.workerPc pc) :
      WorkerStep s r { s with workerPc := pc }
  | take {t : Telegram} {items : List Telegram} (hpc : s.workerPc = .polling)
      (hitems : s.queue.items = t :: items) :
      WorkerStep s r { s with queue := { s.queue with items }, workerPc := .appending t }
  | closeSplit {at' : CloseStep} {t : Telegram} (hpc : s.workerPc = .closing at' t) :
      WorkerStep s r
        { s with
          files := (s.files.closeStep s.failed r at').1
          failed := (s.files.closeStep s.failed r at').2.1
          workerPc :=
            match (s.files.closeStep s.failed r at').2.2 with
            | some next => .closing next t
            | none => .rotating t }
  | nextSplit {t : Telegram} (hpc : s.workerPc = .rotating t) (hfailed : s.failed = false) :
      WorkerStep s r { s with files := s.files.nextSplit, workerPc := .opening .createJson t }
  | openSplit {at' : OpenStep} {t : Telegram} (hpc : s.workerPc = .opening at' t) :
      WorkerStep s r
        { s with
          files := (s.files.openStep r at').1
          workerPc := afterOpen t (s.files.openStep r at').2 }
  | writeBin {t : Telegram} (hpc : s.workerPc = .writingBin t) :
      WorkerStep s r
        { s with
          files := s.files.appendBin t.record.frame.data r.write
          workerPc := if r.write.ok then .writingCsv t else .failing (some t) }
  | writeCsv {t : Telegram} (hpc : s.workerPc = .writingCsv t) :
      WorkerStep s r
        { s with
          files := s.files.appendCsv (indexRow s.files.splitBytes t.record) r.write
          workerPc := if r.write.ok then .counting t else .failing (some t) }
  | count {t : Telegram} (hpc : s.workerPc = .counting t) :
      WorkerStep s r
        { s with
          files := s.files.countRecord t.record
          framesWritten := s.framesWritten + 1
          scansWritten := s.scansWritten + if t.record.isScan then 1 else 0
          bytesWritten := s.bytesWritten + t.record.frame.data.length
          written := s.written ++ [t]
          workerPc := .checkingFlush }
  | latch {pending : Option Telegram} (hpc : s.workerPc = .failing pending) :
      WorkerStep s r { s with failed := true, workerPc := .refusing pending }
  | stopIntake {pending : Option Telegram} (hpc : s.workerPc = .refusing pending) :
      WorkerStep s r { s with accepting := false, workerPc := .closingQueue pending }
  | closeQueue {pending : Option Telegram} (hpc : s.workerPc = .closingQueue pending) :
      WorkerStep s r { s with queue := s.queue.close, workerPc := .countingPending pending }
  | discardPending {t : Telegram} (hpc : s.workerPc = .countingPending (some t)) :
      WorkerStep s r { s.discard t with workerPc := .discarding }
  | discard {t : Telegram} {items : List Telegram} (hpc : s.workerPc = .discarding)
      (hitems : s.queue.items = t :: items) :
      WorkerStep s r
        { ({ s with queue := { s.queue with items } } : RawRecorder).discard t with
          workerPc := .discarding }
  | drained (hpc : s.workerPc = .discarding) (hitems : s.queue.items = []) :
      WorkerStep s r { s with workerPc := .closingLast .syncBin }
  | closeLast {at' : CloseStep} (hpc : s.workerPc = .closingLast at') :
      WorkerStep s r
        { s with
          files := (s.files.closeStep s.failed r at').1
          failed := (s.files.closeStep s.failed r at').2.1
          workerPc :=
            match (s.files.closeStep s.failed r at').2.2 with
            | some next => .closingLast next
            | none => .done }

theorem append_move (s : RawRecorder) (t : Telegram) : WorkerMove (.appending t) (s.append t) := by
  unfold append
  dsimp only
  split_ifs
  · exact .throws (.inl rfl)
  · exact .split t
  · exact .stay t

theorem workerStep_inv {s s' : RawRecorder} {r : IoAnswers} (h : s.workerStep r = some s') :
    WorkerStep s r s' := by
  unfold workerStep at h
  split at h
  · exact nomatch h
  · rename_i hpc
    split at h
    · rename_i t queue hpop
      obtain ⟨hitems, hqueue⟩ := BoundedQueue.tryPop_eq_some hpop
      obtain rfl := Option.some.inj h
      rw [hqueue]
      exact .take hpc hitems
    · obtain rfl := Option.some.inj h
      exact .move (hpc ▸ .seeEmpty)
  · rename_i hpc
    obtain rfl := Option.some.inj h
    refine .move ?_
    rw [hpc]
    split_ifs
    · exact .seeClosed
    · exact .seeOpen
  · rename_i hpc
    obtain rfl := Option.some.inj h
    refine .move ?_
    rw [hpc]
    split_ifs
    · exact .leave
    · exact .seeMore
  · rename_i t hpc
    obtain rfl := Option.some.inj h
    refine .move ?_
    rw [hpc]
    exact s.append_move t
  · rename_i at' t hpc
    have hclose := WorkerStep.closeSplit (r := r) hpc
    split at h <;> rename_i hfiles <;> obtain rfl := Option.some.inj h <;>
      rwa [hfiles] at hclose
  · rename_i t hpc
    split_ifs at h with hfailed hmax
    · obtain rfl := Option.some.inj h
      exact .move (hpc ▸ .throws (.inr (.inl rfl)))
    · obtain rfl := Option.some.inj h
      exact .move (hpc ▸ .throws (.inr (.inl rfl)))
    · obtain rfl := Option.some.inj h
      exact .nextSplit hpc (eq_false_of_ne_true hfailed)
  · rename_i at' t hpc
    have hopen := WorkerStep.openSplit (r := r) hpc
    split at h <;> rename_i hfiles <;> obtain rfl := Option.some.inj h <;>
      rwa [hfiles] at hopen
  · rename_i t hpc
    split_ifs at h
    · obtain rfl := Option.some.inj h
      exact .move (hpc ▸ .throws (.inr (.inr rfl)))
    · obtain rfl := Option.some.inj h
      exact .move (hpc ▸ .fits t)
  · rename_i t hpc
    obtain rfl := Option.some.inj h
    exact .writeBin hpc
  · rename_i t hpc
    obtain rfl := Option.some.inj h
    exact .writeCsv hpc
  · rename_i t hpc
    obtain rfl := Option.some.inj h
    exact .count hpc
  · rename_i hpc
    obtain rfl := Option.some.inj h
    refine .move ?_
    rw [hpc]
    split_ifs
    · exact .flush
    · exact .again (.inl rfl)
  · rename_i hpc
    obtain rfl := Option.some.inj h
    refine .move ?_
    rw [hpc]
    split_ifs
    · exact .flushCsv
    · exact .flushThrows (.inl rfl)
  · rename_i hpc
    obtain rfl := Option.some.inj h
    refine .move ?_
    rw [hpc]
    split_ifs
    · exact .again (.inr rfl)
    · exact .flushThrows (.inr rfl)
  · rename_i pending hpc
    obtain rfl := Option.some.inj h
    exact .latch hpc
  · rename_i pending hpc
    obtain rfl := Option.some.inj h
    exact .stopIntake hpc
  · rename_i pending hpc
    obtain rfl := Option.some.inj h
    exact .closeQueue hpc
  · rename_i pending hpc
    cases pending with
    | none =>
      obtain rfl := Option.some.inj h
      exact .move (hpc ▸ .nothingPending)
    | some t =>
      obtain rfl := Option.some.inj h
      exact .discardPending hpc
  · rename_i hpc
    split at h
    · rename_i t queue hpop
      obtain ⟨hitems, hqueue⟩ := BoundedQueue.tryPop_eq_some hpop
      obtain rfl := Option.some.inj h
      rw [hqueue]
      exact .discard hpc hitems
    · rename_i hpop
      obtain rfl := Option.some.inj h
      exact .drained hpc (BoundedQueue.tryPop_eq_none hpop)
  · rename_i at' hpc
    have hclose := WorkerStep.closeLast (r := r) hpc
    split at h <;> rename_i hfiles <;> obtain rfl := Option.some.inj h <;>
      rwa [hfiles] at hclose
  · exact nomatch h

/-! ## The owner -/

/-- The steps of the owner that change nothing but its program counter. -/
inductive OwnerMove (s : RawRecorder) : RecorderOwnerPc → RecorderOwnerPc → Prop
  | openThrows : OwnerMove s .starting .startFailing
  | spawnThrows : OwnerMove s .spawning .startFailing
  | join (hjoin : s.workerPc = .none ∨ s.workerPc = .done) :
      OwnerMove s .stopJoining .stopClosingDirectory

/-- A step of `Start` or `Stop`. -/
inductive OwnerStep (s : RawRecorder) (r : IoAnswers) : RawRecorder → Prop
  | move {pc : RecorderOwnerPc} (hmove : OwnerMove s s.ownerPc pc) :
      OwnerStep s r { s with ownerPc := pc }
  | openDirectory (hpc : s.ownerPc = .starting) :
      OwnerStep s r { s with directoryOpen := true, ownerPc := .opening .createJson }
  | openSplit {at' : OpenStep} (hpc : s.ownerPc = .opening at') :
      OwnerStep s r
        { s with
          files := (s.files.openStep r at').1
          ownerPc :=
            match (s.files.openStep r at').2 with
            | .threw => .startFailing
            | .next next => .opening next
            | .done => .accepting }
  | accept (hpc : s.ownerPc = .accepting) :
      OwnerStep s r { s with accepting := true, ownerPc := .spawning }
  | spawn (hpc : s.ownerPc = .spawning) :
      OwnerStep s r { s with workerPc := .polling, ownerPc := .started true }
  | latch (hpc : s.ownerPc = .startFailing) :
      OwnerStep s r { s with failed := true, ownerPc := .startRefusing }
  | refuse {pc : RecorderOwnerPc}
      (hpc : s.ownerPc = .startRefusing ∧ pc = .startClosingQueue ∨
        s.ownerPc = .stopRefusing ∧ pc = .stopClosingQueue) :
      OwnerStep s r { s with accepting := false, ownerPc := pc }
  | closeQueue {pc : RecorderOwnerPc}
      (hpc : s.ownerPc = .startClosingQueue ∧ pc = .startClosing .syncBin ∨
        s.ownerPc = .stopClosingQueue ∧ pc = .stopJoining) :
      OwnerStep s r { s with queue := s.queue.close, ownerPc := pc }
  | closeSplit {at' : CloseStep} (hpc : s.ownerPc = .startClosing at') :
      OwnerStep s r
        { s with
          files := (s.files.closeStep s.failed r at').1
          failed := (s.files.closeStep s.failed r at').2.1
          ownerPc :=
            match (s.files.closeStep s.failed r at').2.2 with
            | some next => .startClosing next
            | none => .startClosingDirectory }
  | closeDirectory {pc : RecorderOwnerPc}
      (hpc : s.ownerPc = .startClosingDirectory ∧ pc = .started false ∨
        s.ownerPc = .stopClosingDirectory ∧ pc = .stopped) :
      OwnerStep s r { s.closeDirectory r with ownerPc := pc }

theorem ownerStep_inv {s s' : RawRecorder} {r : IoAnswers} (h : s.ownerStep r = some s') :
    OwnerStep s r s' := by
  unfold ownerStep at h
  split at h
  · rename_i hpc
    split_ifs at h
    · obtain rfl := Option.some.inj h
      exact .openDirectory hpc
    · obtain rfl := Option.some.inj h
      exact .move (hpc ▸ .openThrows)
  · rename_i at' hpc
    have hopen := OwnerStep.openSplit (r := r) hpc
    split at h <;> rename_i hfiles <;> obtain rfl := Option.some.inj h <;>
      rwa [hfiles] at hopen
  · rename_i hpc
    obtain rfl := Option.some.inj h
    exact .accept hpc
  · rename_i hpc
    split_ifs at h
    · obtain rfl := Option.some.inj h
      exact .spawn hpc
    · obtain rfl := Option.some.inj h
      exact .move (hpc ▸ .spawnThrows)
  · rename_i hpc
    obtain rfl := Option.some.inj h
    exact .latch hpc
  · rename_i hpc
    obtain rfl := Option.some.inj h
    exact .refuse (.inl ⟨hpc, rfl⟩)
  · rename_i hpc
    obtain rfl := Option.some.inj h
    exact .closeQueue (.inl ⟨hpc, rfl⟩)
  · rename_i at' hpc
    have hclose := OwnerStep.closeSplit (r := r) hpc
    split at h <;> rename_i hfiles <;> obtain rfl := Option.some.inj h <;>
      rwa [hfiles] at hclose
  · rename_i hpc
    obtain rfl := Option.some.inj h
    exact .closeDirectory (.inl ⟨hpc, rfl⟩)
  · exact nomatch h
  · rename_i hpc
    obtain rfl := Option.some.inj h
    exact .refuse (.inr ⟨hpc, rfl⟩)
  · rename_i hpc
    obtain rfl := Option.some.inj h
    exact .closeQueue (.inr ⟨hpc, rfl⟩)
  · rename_i hpc
    split at h
    · rename_i hjoin
      obtain rfl := Option.some.inj h
      exact .move (hpc ▸ .join (.inl hjoin))
    · rename_i hjoin
      obtain rfl := Option.some.inj h
      exact .move (hpc ▸ .join (.inr hjoin))
    · exact nomatch h
  · rename_i hpc
    obtain rfl := Option.some.inj h
    exact .closeDirectory (.inr ⟨hpc, rfl⟩)
  · exact nomatch h

/-! ## Calls -/

/-- `OnFrame` is called when none is running and the owner is behind its `Start`. -/
theorem onFrame_inv {s s' : RawRecorder} {record : RawRecord} (h : s.onFrame record = some s') :
    s.producerPc = .idle ∧ startReturned s.ownerPc = true ∧
      s' =
        { s with
          producerPc := .loading ⟨s.offered.length, record⟩
          offered := s.offered ++ [record] } := by
  unfold onFrame at h
  split at h
  · rename_i hpc
    split_ifs at h with howner
    exact ⟨hpc, howner, (Option.some.inj h).symm⟩
  · exact nomatch h

/-- `Stop` is called behind `Start`, or again. -/
theorem stop_inv {s s' : RawRecorder} (h : s.stop = some s') :
    ((∃ ok, s.ownerPc = .started ok) ∨ s.ownerPc = .stopped) ∧
      s' = { s with ownerPc := .stopRefusing } := by
  unfold stop at h
  split_ifs at h with hmay
  refine ⟨?_, (Option.some.inj h).symm⟩
  unfold mayStop at hmay
  split at hmay
  · rename_i ok hpc
    exact .inl ⟨ok, hpc⟩
  · rename_i hpc
    exact .inr hpc
  · exact nomatch hmay

end RawRecorder
end Lms
end AmigaDrivers
