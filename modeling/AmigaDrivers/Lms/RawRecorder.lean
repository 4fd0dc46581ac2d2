import AmigaDrivers.Common.BoundedQueue
import AmigaDrivers.Foundation.StepSystem
import AmigaDrivers.Lms.SplitFiles

/-!
# The recorder of a scanner

`lms4xxx::RawRecorder` takes telegrams from the receive thread without waiting, queues them and
writes them on a thread of its own.  Three threads meet in it: the producer in `OnFrame`, the
worker in `WriteLoop`, and the owner in `Start` and `Stop`.  Each has a program counter; every
access to an atomic, to the queue or to the file system is a step.  The owner calls `Start`
once, before any `OnFrame`; `Stop` may race an `OnFrame`, and may be called again.

A telegram carries the number of the `OnFrame` call that brought it.  Nothing reads the number,
nor `offered`, which records the arguments of those calls, nor `pushed`, `written`, `refused`
and `discarded`, which record what has become of the telegrams.
-/

namespace AmigaDrivers
namespace Lms

/-- A record on its way through the recorder. -/
structure Telegram where
  call : Nat
  record : RawRecord
  deriving DecidableEq, Repr

/-- The producer: in no call; before and behind the load of `accepting`; before `try_push` and
behind it; in the statements behind a refused push. -/
inductive ProducerPc
  | idle
  | loading (t : Telegram)
  | refusing (t : Telegram)
  | pushing (t : Telegram)
  | counting (t : Telegram)
  | failing (t : Telegram)
  | dropping (t : Telegram)
  | stoppingIntake
  | closingQueue
  deriving DecidableEq, Repr

/-- The worker: not started; in the loop, with the telegram it has popped; behind the loop, with
the telegram it could not write; draining the queue; in the last `CloseSplit`; done. -/
inductive WorkerPc
  | none
  | polling
  | checkingClosed
  | checkingEmpty
  | appending (t : Telegram)
  | closing (at' : CloseStep) (t : Telegram)
  | rotating (t : Telegram)
  | opening (at' : OpenStep) (t : Telegram)
  | checkingOffset (t : Telegram)
  | writingBin (t : Telegram)
  | writingCsv (t : Telegram)
  | counting (t : Telegram)
  | checkingFlush
  | syncingBin
  | syncingCsv
  | failing (pending : Option Telegram)
  | refusing (pending : Option Telegram)
  | closingQueue (pending : Option Telegram)
  | countingPending (pending : Option Telegram)
  | discarding
  | closingLast (at' : CloseStep)
  | done
  deriving DecidableEq, Repr

/-- The owner: in `Start`, behind it, in `Stop`, behind it. -/
inductive RecorderOwnerPc
  | starting
  | opening (at' : OpenStep)
  | accepting
  | spawning
  | startFailing
  | startRefusing
  | startClosingQueue
  | startClosing (at' : CloseStep)
  | startClosingDirectory
  | started (ok : Bool)
  | stopRefusing
  | stopClosingQueue
  | stopJoining
  | stopClosingDirectory
  | stopped
  deriving DecidableEq, Repr

/-- `RawRecorder::Impl` with its threads. -/
structure RawRecorder where
  maxFileBytes : Nat
  queue : BoundedQueue Telegram
  accepting : Bool := false
  failed : Bool := false
  files : SplitFiles := {}
  directoryOpen : Bool := false
  framesQueued : Nat := 0
  framesWritten : Nat := 0
  framesDropped : Nat := 0
  scansQueued : Nat := 0
  scansWritten : Nat := 0
  bytesWritten : Nat := 0
  producerPc : ProducerPc := .idle
  workerPc : WorkerPc := .none
  ownerPc : RecorderOwnerPc := .starting
  /-- the arguments of `OnFrame` so far -/
  offered : List RawRecord := []
  pushed : List Telegram := []
  written : List Telegram := []
  /-- dropped by `OnFrame` -/
  refused : List Telegram := []
  /-- dropped after they were queued -/
  discarded : List Telegram := []
  deriving DecidableEq

/-- A step of the recorder. -/
inductive RecorderAction
  | onFrame (record : RawRecord)
  /-- the producer goes on; an allocation in `try_push` may fail -/
  | producer (threw : Bool)
  | worker (r : IoAnswers)
  | owner (r : IoAnswers)
  /-- the owner calls `Stop` -/
  | stop

/-- `std::numeric_limits<off_t>::max()`. -/
def maxOffset : Nat := 2 ^ 63 - 1

/-- `std::numeric_limits<std::uint64_t>::max()`. -/
def maxSplitIndex : Nat := 2 ^ 64 - 1

namespace RawRecorder

/-- `GetStatistics`. -/
def statistics (s : RawRecorder) : RecorderStatistics where
  framesQueued := s.framesQueued
  framesWritten := s.framesWritten
  framesDropped := s.framesDropped
  scansQueued := s.scansQueued
  scansWritten := s.scansWritten
  bytesWritten := s.bytesWritten
  filesCreated := s.files.filesCreated

/-- `frames_dropped.fetch_add(1)` in `OnFrame`. -/
def refuse (s : RawRecorder) (t : Telegram) : RawRecorder :=
  { s with framesDropped := s.framesDropped + 1, refused := s.refused ++ [t] }

/-- `frames_dropped.fetch_add(1)` in `WriteLoop`. -/
def discard (s : RawRecorder) (t : Telegram) : RawRecorder :=
  { s with framesDropped := s.framesDropped + 1, discarded := s.discarded ++ [t] }

/-! ## The producer -/

/-- The owner is behind its `Start`. -/
def startReturned : RecorderOwnerPc → Bool
  | .started _ | .stopRefusing | .stopClosingQueue | .stopJoining | .stopClosingDirectory
  | .stopped => true
  | .starting | .opening _ | .accepting | .spawning | .startFailing | .startRefusing
  | .startClosingQueue | .startClosing _ | .startClosingDirectory => false

/-- A call of `OnFrame`. -/
def onFrame (s : RawRecorder) (record : RawRecord) : Option RawRecorder :=
  match s.producerPc with
  | .idle =>
    if startReturned s.ownerPc then
      some
        { s with
          producerPc := .loading ⟨s.offered.length, record⟩
          offered := s.offered ++ [record] }
    else
      none
  | _ => none

/-- The next step of `OnFrame`. -/
def producerStep (s : RawRecorder) (threw : Bool) : Option RawRecorder :=
  match s.producerPc with
  | .idle => none
  | .loading t => some { s with producerPc := if s.accepting then .pushing t else .refusing t }
  | .refusing t => some { s.refuse t with producerPc := .idle }
  | .pushing t =>
    if threw then
      some { s with producerPc := .failing t }
    else
      match s.queue.tryPush t with
      | (queue, true) => some { s with queue, pushed := s.pushed ++ [t], producerPc := .counting t }
      | (_, false) => some { s with producerPc := .failing t }
  | .counting t =>
    some
      { s with
        framesQueued := s.framesQueued + 1
        scansQueued := s.scansQueued + if t.record.isScan then 1 else 0
        producerPc := .idle }
  | .failing t => some { s with failed := true, producerPc := .dropping t }
  | .dropping t => some { s.refuse t with producerPc := .stoppingIntake }
  | .stoppingIntake => some { s with accepting := false, producerPc := .closingQueue }
  | .closingQueue => some { s with queue := s.queue.close, producerPc := .idle }

/-! ## The worker -/

/-- `Append` up to its first operation on a file. -/
def append (s : RawRecorder) (t : Telegram) : WorkerPc :=
  let length := t.record.frame.data.length
  if length = 0 ∨ length > maxOffset then
    .failing (some t)
  else if s.files.splitFrames ≠ 0 ∧ s.maxFileBytes ≠ 0 ∧
      (s.files.splitBytes ≥ s.maxFileBytes ∨ length > s.maxFileBytes - s.files.splitBytes) then
    .closing .syncBin t
  else
    .checkingOffset t

/-- The next step of `WriteLoop`. -/
def workerStep (s : RawRecorder) (r : IoAnswers) : Option RawRecorder :=
  match s.workerPc with
  | .none => none
  | .polling =>
    match s.queue.tryPop with
    | some (t, queue) => some { s with queue, workerPc := .appending t }
    | none => some { s with workerPc := .checkingClosed }
  | .checkingClosed =>
    some { s with workerPc := if s.queue.closed then .checkingEmpty else .checkingFlush }
  | .checkingEmpty =>
    some { s with workerPc := if s.queue.size = 0 then .refusing none else .checkingFlush }
  | .appending t => some { s with workerPc := s.append t }
  | .closing at' t =>
    match s.files.closeStep s.failed r at' with
    | (files, failed, some next) => some { s with files, failed, workerPc := .closing next t }
    | (files, failed, none) => some { s with files, failed, workerPc := .rotating t }
  | .rotating t =>
    if s.failed then
      some { s with workerPc := .failing (some t) }
    else if s.files.splitIndex = maxSplitIndex then
      some { s with workerPc := .failing (some t) }
    else
      some { s with files := s.files.nextSplit, workerPc := .opening .createJson t }
  | .opening at' t =>
    match s.files.openStep r at' with
    | (files, .threw) => some { s with files, workerPc := .failing (some t) }
    | (files, .next next) => some { s with files, workerPc := .opening next t }
    | (files, .done) => some { s with files, workerPc := .checkingOffset t }
  | .checkingOffset t =>
    if t.record.frame.data.length > maxOffset - s.files.splitBytes then
      some { s with workerPc := .failing (some t) }
    else
      some { s with workerPc := .writingBin t }
  | .writingBin t =>
    some
      { s with
        files := s.files.appendBin t.record.frame.data r.write
        workerPc := if r.write.ok then .writingCsv t else .failing (some t) }
  | .writingCsv t =>
    some
      { s with
        files := s.files.appendCsv (indexRow s.files.splitBytes t.record) r.write
        workerPc := if r.write.ok then .counting t else .failing (some t) }
  | .counting t =>
    some
      { s with
        files := s.files.countRecord t.record
        framesWritten := s.framesWritten + 1
        scansWritten := s.scansWritten + if t.record.isScan then 1 else 0
        bytesWritten := s.bytesWritten + t.record.frame.data.length
        written := s.written ++ [t]
        workerPc := .checkingFlush }
  | .checkingFlush => some { s with workerPc := if r.flushDue then .syncingBin else .polling }
  | .syncingBin => some { s with workerPc := if r.ok then .syncingCsv else .failing none }
  | .syncingCsv => some { s with workerPc := if r.ok then .polling else .failing none }
  | .failing pending => some { s with failed := true, workerPc := .refusing pending }
  | .refusing pending => some { s with accepting := false, workerPc := .closingQueue pending }
  | .closingQueue pending =>
    some { s with queue := s.queue.close, workerPc := .countingPending pending }
  | .countingPending pending =>
    match pending with
    | some t => some { s.discard t with workerPc := .discarding }
    | none => some { s with workerPc := .discarding }
  | .discarding =>
    match s.queue.tryPop with
    | some (t, queue) => some { { s with queue }.discard t with workerPc := .discarding }
    | none => some { s with workerPc := .closingLast .syncBin }
  | .closingLast at' =>
    match s.files.closeStep s.failed r at' with
    | (files, failed, some next) => some { s with files, failed, workerPc := .closingLast next }
    | (files, failed, none) => some { s with files, failed, workerPc := .done }
  | .done => none

/-! ## The owner -/

/-- `Stop` can be called. -/
def mayStop : RecorderOwnerPc → Bool
  | .started _ | .stopped => true
  | _ => false

/-- A call of `Stop`. -/
def stop (s : RawRecorder) : Option RawRecorder :=
  if mayStop s.ownerPc then some { s with ownerPc := .stopRefusing } else none

/-- The close of the directory, in `Start` and in `Stop`. -/
def closeDirectory (s : RawRecorder) (r : IoAnswers) : RawRecorder :=
  { s with directoryOpen := false, failed := s.failed || (s.directoryOpen && !r.ok) }

/-- The next step of `Start` or `Stop`. -/
def ownerStep (s : RawRecorder) (r : IoAnswers) : Option RawRecorder :=
  match s.ownerPc with
  | .starting =>
    if r.ok then some { s with directoryOpen := true, ownerPc := .opening .createJson }
    else some { s with ownerPc := .startFailing }
  | .opening at' =>
    match s.files.openStep r at' with
    | (files, .threw) => some { s with files, ownerPc := .startFailing }
    | (files, .next next) => some { s with files, ownerPc := .opening next }
    | (files, .done) => some { s with files, ownerPc := .accepting }
  | .accepting => some { s with accepting := true, ownerPc := .spawning }
  | .spawning =>
    if r.ok then some { s with workerPc := .polling, ownerPc := .started true }
    else some { s with ownerPc := .startFailing }
  | .startFailing => some { s with failed := true, ownerPc := .startRefusing }
  | .startRefusing => some { s with accepting := false, ownerPc := .startClosingQueue }
  | .startClosingQueue =>
    some { s with queue := s.queue.close, ownerPc := .startClosing .syncBin }
  | .startClosing at' =>
    match s.files.closeStep s.failed r at' with
    | (files, failed, some next) => some { s with files, failed, ownerPc := .startClosing next }
    | (files, failed, none) => some { s with files, failed, ownerPc := .startClosingDirectory }
  | .startClosingDirectory => some { s.closeDirectory r with ownerPc := .started false }
  | .started _ => none
  | .stopRefusing => some { s with accepting := false, ownerPc := .stopClosingQueue }
  | .stopClosingQueue => some { s with queue := s.queue.close, ownerPc := .stopJoining }
  | .stopJoining =>
    match s.workerPc with
    | .none | .done => some { s with ownerPc := .stopClosingDirectory }
    | _ => none
  | .stopClosingDirectory => some { s.closeDirectory r with ownerPc := .stopped }
  | .stopped => none

/-- A step of the recorder. -/
def step (s : RawRecorder) : RecorderAction → Option RawRecorder
  | .onFrame record => s.onFrame record
  | .producer threw => s.producerStep threw
  | .worker r => s.workerStep r
  | .owner r => s.ownerStep r
  | .stop => s.stop

/-- A recorder as its constructor leaves it. -/
def new (maxFileBytes queueCapacity : Nat) : RawRecorder where
  maxFileBytes := maxFileBytes
  queue := .new queueCapacity

/-- A recorder with its three threads. -/
def system (maxFileBytes queueCapacity : Nat) : StepSystem RawRecorder RecorderAction where
  Init s := s = new maxFileBytes queueCapacity
  step := step

end RawRecorder
end Lms
end AmigaDrivers
