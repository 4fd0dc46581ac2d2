import AmigaDrivers.Common.RotatingFileWriter
import AmigaDrivers.Foundation.StepSystem
import Mathlib.Algebra.Ring.Int.Defs
import Mathlib.Algebra.Ring.Nat

/-!
# The asynchronous SBF write queue

`asterx::SbfWriteQueue` takes blocks from the thread that reads the receiver socket and
writes them on a thread of its own.  The model is a step system of two program counters:
the owner, which calls `Start`, `Enqueue` and `Close` one after another, and the writer
thread.  A section under `mu_` is one step; so is each access to an atomic, and each
stretch of code that touches only what the running thread owns (`writer_` and
`write_failed_` belong to the writer thread while it runs, then to `Close`).

The destructor calls `Close`.  A thread that cannot be created ends in an exception of
`Start` and is left out.  The lists `accepted` and `handed`, the counts `refused` and
`callbacks` and `closeResults` record what has happened; nothing reads them.
-/

namespace AmigaDrivers
namespace Asterx

/-- `QByteArray`: its size is a signed 64-bit number. -/
structure QByteArray where
  bytes : List UInt8
  size_lt : bytes.length < 2 ^ 63
  deriving DecidableEq

/-- `QByteArray::size`. -/
def QByteArray.size (block : QByteArray) : Nat := block.bytes.length

/-- A block as a list, empty when the block is. -/
def nonEmpty (block : QByteArray) : List QByteArray :=
  if block.bytes = [] then [] else [block]

/-- `SbfWriter::WriteBlock` on the rotating writer below it. -/
def writeBlock (writer : RotatingFileWriter) (block : QByteArray) (r : AppendResult) :
    RotatingFileWriter × Bool :=
  if block.bytes = [] then (writer, true) else writer.append block.bytes r

/-- Where the writer thread stands.

* `none`: it was never created, or has been joined;
* `waiting`: at the top of the loop of `WriterLoop`;
* `writing`: before `WriteOne`;
* `failing`, `notifying`: in `Fail`, before its section and before the callback;
* `releasing`: behind `WriteOne`;
* `done`: it has returned. -/
inductive WriterPc
  | none
  | waiting
  | writing (block : QByteArray)
  | failing (block : QByteArray)
  | notifying (block : QByteArray)
  | releasing (block : QByteArray)
  | done
  deriving DecidableEq

/-- Where the owner stands.

* `idle`: in no call;
* `spawning`: in `Start`, before the thread is created;
* `enqueueing`: in `Enqueue`, before its section;
* `refusing`: in `Enqueue`, before `Fail`;
* `joining`: in `Close`, behind its first section;
* `draining`, `drainFailing`, `drainNotifying`: in `Close`, in the loop over the blocks that
  no thread was started for, in its `WriteOne` and in the `Fail` there;
* `closing`, `closeFailing`: before and behind `writer_.close()`;
* `sealing`, `answering`: before the last section and before the last load of `failed_`. -/
inductive OwnerPc
  | idle
  | spawning
  | enqueueing (block : QByteArray)
  | refusing (block : QByteArray) (pending : Nat)
  | joining
  | draining (rest : List QByteArray)
  | drainFailing (rest : List QByteArray)
  | drainNotifying (rest : List QByteArray)
  | closing
  | closeFailing
  | sealing
  | answering
  deriving DecidableEq

/-- `SbfWriteQueue` with its two threads. -/
structure SbfWriteQueue where
  writer : RotatingFileWriter
  maxPendingBytes : Nat
  queue : List QByteArray := []
  pendingBytes : Nat := 0
  stop : Bool := false
  closed : Bool := false
  error : String := ""
  failed : Bool := false
  writeFailed : Bool := false
  recordsWritten : Nat := 0
  bytesWritten : Nat := 0
  filesOpened : Nat := 0
  pendingAtomic : Nat := 0
  maxPending : Nat := 0
  writerPc : WriterPc := .none
  ownerPc : OwnerPc := .idle
  /-- the value the last `Enqueue` or `Close` returned -/
  returned : Option Bool := none
  /-- the blocks for which `Enqueue` took the queueing branch -/
  accepted : List QByteArray := []
  /-- the blocks `WriteBlock` returned true for -/
  handed : List QByteArray := []
  /-- how often the budget refused a block -/
  refused : Nat := 0
  /-- how often `on_failure_` was invoked -/
  callbacks : Nat := 0
  closeResults : List Bool := []

/-- A call of the owner. -/
inductive Call
  | start
  | enqueue (block : QByteArray)
  | close
  deriving DecidableEq

/-- How the stream operations of a step end: those of a `WriteBlock` and those of the
final close. -/
structure WriteResult where
  append : AppendResult
  flush : StreamResult
  close : StreamResult
  deriving DecidableEq

/-- A step: the owner makes a call or goes on with it, or the writer thread goes on. -/
inductive QueueAction
  | call (c : Call)
  | owner (r : WriteResult)
  | writer (r : WriteResult)

namespace SbfWriteQueue

/-- A 64-bit sum. -/
def add64 (a b : Nat) : Nat := (a + b) % 2 ^ 64

/-- A 64-bit difference. -/
def sub64 (a b : Nat) : Nat := (a + (2 ^ 64 - b % 2 ^ 64)) % 2 ^ 64

/-- The message of a refusal. -/
def overflowMessage (pending budget : Nat) : String :=
  "write queue budget exceeded (" ++ toString pending ++ " B pending, " ++ toString budget ++
    " B budget): the disk fell behind"

/-- The message of a failed write. -/
def writeMessage : String := "SBF write failed (disk full or output directory lost?)"

/-- The message of a failed close. -/
def closeMessage : String := "SBF final flush/close failed"

/-- The section of `Fail`; the flag is `first`. -/
def fail (q : SbfWriteQueue) (what : String) : SbfWriteQueue × Bool :=
  if q.failed then (q, false) else ({ q with failed := true, error := what }, true)

/-- How `WriteOne` ends before it calls `Fail`. -/
inductive WriteOutcome
  | discarded
  | failed
  | written
  deriving DecidableEq

/-- `WriteOne` up to its call of `Fail`. -/
def writeOne (q : SbfWriteQueue) (block : QByteArray) (r : AppendResult) :
    SbfWriteQueue × WriteOutcome :=
  if q.writeFailed then
    (q, .discarded)
  else
    match writeBlock q.writer block r with
    | (writer, false) => ({ q with writer, writeFailed := true }, .failed)
    | (writer, true) =>
      ({ q with
          writer
          recordsWritten := writer.recordsWritten
          bytesWritten := writer.bytesWritten
          filesOpened := writer.filesOpened
          handed := q.handed ++ [block] }, .written)

/-- The owner's call returns. -/
def return_ (q : SbfWriteQueue) (result : Bool) : SbfWriteQueue :=
  { q with ownerPc := .idle, returned := some result }

/-- `Close` returns. -/
def returnClose (q : SbfWriteQueue) : SbfWriteQueue :=
  { q.return_ (!q.failed) with closeResults := q.closeResults ++ [!q.failed] }

/-- The first step of a call. -/
def callStep (q : SbfWriteQueue) (c : Call) : Option SbfWriteQueue :=
  match q.ownerPc with
  | .idle =>
    match c with
    | .start =>
      if q.writerPc ≠ .none then some q
      else if q.closed then some q
      else some { q with stop := false, ownerPc := .spawning }
    | .enqueue block =>
      if block.bytes = [] then some (q.return_ true)
      else if q.failed then some (q.return_ false)
      else some { q with ownerPc := .enqueueing block }
    | .close =>
      if q.closed then some q.returnClose
      else some { q with stop := true, ownerPc := .joining }
  | _ => none

/-- The section of `Enqueue`. -/
def enqueueSection (q : SbfWriteQueue) (block : QByteArray) : SbfWriteQueue :=
  if q.stop || q.closed then
    q.return_ false
  else if add64 q.pendingBytes block.size > q.maxPendingBytes then
    { q with ownerPc := .refusing block q.pendingBytes, refused := q.refused + 1 }
  else
    { q with
      queue := q.queue ++ [block]
      pendingBytes := add64 q.pendingBytes block.size
      pendingAtomic := add64 q.pendingBytes block.size
      maxPending := max q.maxPending (add64 q.pendingBytes block.size)
      accepted := q.accepted ++ [block]
      ownerPc := .idle
      returned := some true }

/-- One turn of the drain loop of `Close`. -/
def drainStep (q : SbfWriteQueue) (rest : List QByteArray) (r : AppendResult) : SbfWriteQueue :=
  match rest with
  | [] => { q with ownerPc := .closing }
  | block :: rest =>
    match q.writeOne block r with
    | (q, .failed) => { q with ownerPc := .drainFailing rest }
    | (q, _) => { q with ownerPc := .draining rest }

/-- The next step of the owner's call. -/
def ownerStep (q : SbfWriteQueue) (r : WriteResult) : Option SbfWriteQueue :=
  match q.ownerPc with
  | .idle => none
  | .spawning => some { q with writerPc := .waiting, ownerPc := .idle }
  | .enqueueing block => some (q.enqueueSection block)
  | .refusing _ pending =>
    some ((q.fail (overflowMessage pending q.maxPendingBytes)).1.return_ false)
  | .joining =>
    match q.writerPc with
    | .none =>
      some
        { q with
          queue := []
          pendingBytes := 0
          pendingAtomic := 0
          ownerPc := .draining q.queue }
    | .done => some { q with writerPc := .none, ownerPc := .closing }
    | _ => none
  | .draining rest => some (q.drainStep rest r.append)
  | .drainFailing rest =>
    match q.fail writeMessage with
    | (q, true) => some { q with ownerPc := .drainNotifying rest }
    | (q, false) => some { q with ownerPc := .draining rest }
  | .drainNotifying rest =>
    some { q with callbacks := q.callbacks + 1, ownerPc := .draining rest }
  | .closing =>
    match q.writer.close r.flush r.close with
    | (writer, true) => some { q with writer, ownerPc := .sealing }
    | (writer, false) => some { q with writer, ownerPc := .closeFailing }
  | .closeFailing => some { (q.fail closeMessage).1 with ownerPc := .sealing }
  | .sealing => some { q with closed := true, ownerPc := .answering }
  | .answering => some q.returnClose

/-- The next step of the writer thread. -/
def writerStep (q : SbfWriteQueue) (r : WriteResult) : Option SbfWriteQueue :=
  match q.writerPc with
  | .none => none
  | .waiting =>
    match q.queue with
    | [] => if q.stop then some { q with writerPc := .done } else none
    | block :: queue => some { q with queue, writerPc := .writing block }
  | .writing block =>
    match q.writeOne block r.append with
    | (q, .failed) => some { q with writerPc := .failing block }
    | (q, _) => some { q with writerPc := .releasing block }
  | .failing block =>
    match q.fail writeMessage with
    | (q, true) => some { q with writerPc := .notifying block }
    | (q, false) => some { q with writerPc := .releasing block }
  | .notifying block => some { q with callbacks := q.callbacks + 1, writerPc := .releasing block }
  | .releasing block =>
    some
      { q with
        pendingBytes := sub64 q.pendingBytes block.size
        pendingAtomic := sub64 q.pendingBytes block.size
        writerPc := .waiting }
  | .done => none

/-- A step of the queue. -/
def step (q : SbfWriteQueue) : QueueAction → Option SbfWriteQueue
  | .call c => q.callStep c
  | .owner r => q.ownerStep r
  | .writer r => q.writerStep r

/-- The writer `SbfWriter` builds from its configuration: a hard size cap, no header. -/
def newWriter (rotateBytes rotateInterval : Nat) : RotatingFileWriter :=
  { maxFileBytes := rotateBytes, rotateInterval := rotateInterval, precheckSizeCap := true }

/-- The settings of a queue.  The budget comes from `write_queue_mb`, which is at most
4096. -/
structure Config where
  rotateBytes : Nat
  rotateInterval : Nat
  maxPendingBytes : Nat
  budget_lt : maxPendingBytes < 2 ^ 63

/-- A queue as its constructor leaves it. -/
def new (cfg : Config) : SbfWriteQueue where
  writer := newWriter cfg.rotateBytes cfg.rotateInterval
  maxPendingBytes := cfg.maxPendingBytes

/-- The queue with its owner and its writer thread. -/
def system (cfg : Config) : StepSystem SbfWriteQueue QueueAction where
  Init q := q = new cfg
  step := step

end SbfWriteQueue
end Asterx
end AmigaDrivers
