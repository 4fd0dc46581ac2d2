import AmigaDrivers.Asterx.SbfWriteQueue

/-!
# What a step of the write queue can do

`Step` lists every way in which a step changes the queue, with its guard.  All
invariants are derived from this list; none unfolds the program counters again.
-/

namespace AmigaDrivers
namespace Asterx
namespace SbfWriteQueue

/-- A step of the queue, by what it does. -/
inductive Step (q : SbfWriteQueue) : SbfWriteQueue → Prop
  | startAgain (hidle : q.ownerPc = .idle) : Step q q
  | startCall (hidle : q.ownerPc = .idle) (hnone : q.writerPc = .none) (hopen : q.closed = false) :
      Step q { q with stop := false, ownerPc := .spawning }
  | spawn (hspawn : q.ownerPc = .spawning) :
      Step q { q with writerPc := .waiting, ownerPc := .idle }
  | enqueueEmpty (hidle : q.ownerPc = .idle) : Step q { q with ownerPc := .idle, returned := some true }
  | enqueueFailed (hidle : q.ownerPc = .idle) (hfailed : q.failed = true) :
      Step q { q with ownerPc := .idle, returned := some false }
  | enqueueCall (hidle : q.ownerPc = .idle) (block : QByteArray) (hblock : block.bytes ≠ []) :
      Step q { q with ownerPc := .enqueueing block }
  | enqueueShut {block : QByteArray} (hpc : q.ownerPc = .enqueueing block)
      (hshut : q.stop = true ∨ q.closed = true) : Step q { q with ownerPc := .idle, returned := some false }
  | enqueueOver {block : QByteArray} (hpc : q.ownerPc = .enqueueing block)
      (hstop : q.stop = false) (hopen : q.closed = false) :
      Step q
        { q with ownerPc := .refusing block q.pendingBytes, refused := q.refused + 1 }
  | enqueueAccept {block : QByteArray} (hpc : q.ownerPc = .enqueueing block)
      (hstop : q.stop = false) (hopen : q.closed = false)
      (hbudget : add64 q.pendingBytes block.size ≤ q.maxPendingBytes) :
      Step q
        { q with
          queue := q.queue ++ [block]
          pendingBytes := add64 q.pendingBytes block.size
          pendingAtomic := add64 q.pendingBytes block.size
          maxPending := max q.maxPending (add64 q.pendingBytes block.size)
          accepted := q.accepted ++ [block]
          ownerPc := .idle
          returned := some true }
  | refuse {block : QByteArray} {pending : Nat} (hpc : q.ownerPc = .refusing block pending) :
      Step q
        { q with
          failed := true
          error := if q.failed then q.error else overflowMessage pending q.maxPendingBytes
          ownerPc := .idle
          returned := some false }
  | closeAgain (hidle : q.ownerPc = .idle) (hclosed : q.closed = true) :
      Step q
        { q with
          ownerPc := .idle
          returned := some (!q.failed)
          closeResults := q.closeResults ++ [!q.failed] }
  | closeCall (hidle : q.ownerPc = .idle) (hopen : q.closed = false) :
      Step q { q with stop := true, ownerPc := .joining }
  | takeQueue (hpc : q.ownerPc = .joining) (hnone : q.writerPc = .none) :
      Step q
        { q with
          queue := []
          pendingBytes := 0
          pendingAtomic := 0
          ownerPc := .draining q.queue }
  | join (hpc : q.ownerPc = .joining) (hdone : q.writerPc = .done) :
      Step q { q with writerPc := .none, ownerPc := .closing }
  | drained (hpc : q.ownerPc = .draining []) : Step q { q with ownerPc := .closing }
  | drainDiscard {block : QByteArray} {rest : List QByteArray}
      (hpc : q.ownerPc = .draining (block :: rest)) (hlost : q.writeFailed = true) :
      Step q { q with ownerPc := .draining rest }
  | drainFail {block : QByteArray} {rest : List QByteArray} {writer : RotatingFileWriter}
      {r : AppendResult} (hpc : q.ownerPc = .draining (block :: rest))
      (hintact : q.writeFailed = false) (hwrite : writeBlock q.writer block r = (writer, false)) :
      Step q { q with writer, writeFailed := true, ownerPc := .drainFailing rest }
  | drainWrite {block : QByteArray} {rest : List QByteArray} {writer : RotatingFileWriter}
      {r : AppendResult} (hpc : q.ownerPc = .draining (block :: rest))
      (hintact : q.writeFailed = false) (hwrite : writeBlock q.writer block r = (writer, true)) :
      Step q
        { q with
          writer
          recordsWritten := writer.recordsWritten
          bytesWritten := writer.bytesWritten
          filesOpened := writer.filesOpened
          handed := q.handed ++ [block]
          ownerPc := .draining rest }
  | drainLatch {rest : List QByteArray} (hpc : q.ownerPc = .drainFailing rest)
      (hfirst : q.failed = false) :
      Step q { q with failed := true, error := writeMessage, ownerPc := .drainNotifying rest }
  | drainLatched {rest : List QByteArray} (hpc : q.ownerPc = .drainFailing rest)
      (hfailed : q.failed = true) : Step q { q with ownerPc := .draining rest }
  | drainNotify {rest : List QByteArray} (hpc : q.ownerPc = .drainNotifying rest) :
      Step q { q with callbacks := q.callbacks + 1, ownerPc := .draining rest }
  | closeDone {writer : RotatingFileWriter} {r : WriteResult} (hpc : q.ownerPc = .closing)
      (hclose : q.writer.close r.flush r.close = (writer, true)) :
      Step q { q with writer, ownerPc := .sealing }
  | closeFail {writer : RotatingFileWriter} {r : WriteResult} (hpc : q.ownerPc = .closing)
      (hclose : q.writer.close r.flush r.close = (writer, false)) :
      Step q { q with writer, ownerPc := .closeFailing }
  | closeLatch (hpc : q.ownerPc = .closeFailing) :
      Step q
        { q with
          failed := true
          error := if q.failed then q.error else closeMessage
          ownerPc := .sealing }
  | markClosed (hpc : q.ownerPc = .sealing) : Step q { q with closed := true, ownerPc := .answering }
  | answer (hpc : q.ownerPc = .answering) :
      Step q
        { q with
          ownerPc := .idle
          returned := some (!q.failed)
          closeResults := q.closeResults ++ [!q.failed] }
  | pop {block : QByteArray} {queue : List QByteArray} (hpc : q.writerPc = .waiting)
      (hqueue : q.queue = block :: queue) : Step q { q with queue, writerPc := .writing block }
  | finish (hpc : q.writerPc = .waiting) (hqueue : q.queue = []) (hstop : q.stop = true) :
      Step q { q with writerPc := .done }
  | discard {block : QByteArray} (hpc : q.writerPc = .writing block) (hlost : q.writeFailed = true) :
      Step q { q with writerPc := .releasing block }
  | writeFail {block : QByteArray} {writer : RotatingFileWriter} {r : AppendResult}
      (hpc : q.writerPc = .writing block) (hintact : q.writeFailed = false)
      (hwrite : writeBlock q.writer block r = (writer, false)) :
      Step q { q with writer, writeFailed := true, writerPc := .failing block }
  | write {block : QByteArray} {writer : RotatingFileWriter} {r : AppendResult}
      (hpc : q.writerPc = .writing block) (hintact : q.writeFailed = false)
      (hwrite : writeBlock q.writer block r = (writer, true)) :
      Step q
        { q with
          writer
          recordsWritten := writer.recordsWritten
          bytesWritten := writer.bytesWritten
          filesOpened := writer.filesOpened
          handed := q.handed ++ [block]
          writerPc := .releasing block }
  | latch {block : QByteArray} (hpc : q.writerPc = .failing block) (hfirst : q.failed = false) :
      Step q { q with failed := true, error := writeMessage, writerPc := .notifying block }
  | latched {block : QByteArray} (hpc : q.writerPc = .failing block) (hfailed : q.failed = true) :
      Step q { q with writerPc := .releasing block }
  | notify {block : QByteArray} (hpc : q.writerPc = .notifying block) :
      Step q { q with callbacks := q.callbacks + 1, writerPc := .releasing block }
  | release {block : QByteArray} (hpc : q.writerPc = .releasing block) :
      Step q
        { q with
          pendingBytes := sub64 q.pendingBytes block.size
          pendingAtomic := sub64 q.pendingBytes block.size
          writerPc := .waiting }

/-- `WriteOne` in its three cases. -/
theorem writeOne_cases (q : SbfWriteQueue) (block : QByteArray) (r : AppendResult) :
    (q.writeFailed = true ∧ q.writeOne block r = (q, .discarded)) ∨
    (q.writeFailed = false ∧ ∃ writer, writeBlock q.writer block r = (writer, false) ∧
      q.writeOne block r = ({ q with writer, writeFailed := true }, .failed)) ∨
    (q.writeFailed = false ∧ ∃ writer, writeBlock q.writer block r = (writer, true) ∧
      q.writeOne block r =
        ({ q with
            writer
            recordsWritten := writer.recordsWritten
            bytesWritten := writer.bytesWritten
            filesOpened := writer.filesOpened
            handed := q.handed ++ [block] }, .written)) := by
  unfold writeOne
  cases hlost : q.writeFailed with
  | true => exact .inl ⟨rfl, rfl⟩
  | false =>
    rcases hwrite : writeBlock q.writer block r with ⟨writer, ok⟩
    cases ok with
    | false => exact .inr (.inl ⟨rfl, writer, rfl, rfl⟩)
    | true => exact .inr (.inr ⟨rfl, writer, rfl, rfl⟩)

/-- The section of `Fail` in its two cases. -/
theorem fail_cases (q : SbfWriteQueue) (what : String) :
    (q.failed = true ∧ q.fail what = (q, false)) ∨
    (q.failed = false ∧ q.fail what = ({ q with failed := true, error := what }, true)) := by
  unfold fail
  cases hfailed : q.failed with
  | true => exact .inl ⟨rfl, rfl⟩
  | false => exact .inr ⟨rfl, rfl⟩

/-- Latching a failure touches the latch and its message only. -/
theorem fail_eq (q : SbfWriteQueue) (what : String) :
    (q.fail what).1 = { q with failed := true, error := if q.failed then q.error else what } := by
  rcases fail_cases q what with ⟨hfailed, heq⟩ | ⟨hfirst, heq⟩
  · rw [heq, hfailed, if_pos rfl, ← hfailed]
  · rw [heq, hfirst, if_neg Bool.false_ne_true]

theorem Step.of_callStep {q q' : SbfWriteQueue} {c : Call} (h : q.callStep c = some q') :
    Step q q' := by
  unfold callStep at h
  cases hidle : q.ownerPc with
  | idle =>
    rw [hidle] at h
    cases c with
    | start =>
      dsimp only at h
      split at h
      · exact Option.some.inj h ▸ .startAgain hidle
      · next hnone =>
        split at h
        · exact Option.some.inj h ▸ .startAgain hidle
        · next hopen =>
          exact Option.some.inj h ▸ .startCall hidle (not_not.mp hnone) (Bool.not_eq_true _ ▸ hopen)
    | enqueue block =>
      dsimp only at h
      split at h
      · exact Option.some.inj h ▸ .enqueueEmpty hidle
      · next hblock =>
        split at h
        · next hfailed => exact Option.some.inj h ▸ .enqueueFailed hidle hfailed
        · exact Option.some.inj h ▸ .enqueueCall hidle block hblock
    | close =>
      dsimp only at h
      split at h
      · next hclosed => exact Option.some.inj h ▸ .closeAgain hidle hclosed
      · next hopen => exact Option.some.inj h ▸ .closeCall hidle (Bool.not_eq_true _ ▸ hopen)
  | _ => simp [hidle] at h

theorem Step.of_enqueueSection {q : SbfWriteQueue} {block : QByteArray}
    (hpc : q.ownerPc = .enqueueing block) : Step q (q.enqueueSection block) := by
  unfold enqueueSection
  split
  · next hshut => exact .enqueueShut hpc (Bool.or_eq_true_iff.mp hshut)
  · next hshut =>
    obtain ⟨hstop, hopen⟩ := Bool.or_eq_false_iff.mp (Bool.not_eq_true _ ▸ hshut)
    split
    · exact .enqueueOver hpc hstop hopen
    · next hbudget => exact .enqueueAccept hpc hstop hopen (Nat.not_lt.mp hbudget)

theorem Step.of_drainStep {q : SbfWriteQueue} {rest : List QByteArray} {r : AppendResult}
    (hpc : q.ownerPc = .draining rest) : Step q (q.drainStep rest r) := by
  unfold drainStep
  cases rest with
  | nil => exact .drained hpc
  | cons block rest =>
    rcases writeOne_cases q block r with ⟨hlost, heq⟩ | ⟨hintact, writer, hwrite, heq⟩ |
      ⟨hintact, writer, hwrite, heq⟩
    · simp only [heq]
      exact .drainDiscard hpc hlost
    · simp only [heq]
      exact .drainFail hpc hintact hwrite
    · simp only [heq]
      exact .drainWrite hpc hintact hwrite

theorem Step.of_ownerStep {q q' : SbfWriteQueue} {r : WriteResult} (h : q.ownerStep r = some q') :
    Step q q' := by
  unfold ownerStep at h
  cases hpc : q.ownerPc with
  | idle => simp [hpc] at h
  | spawning =>
    rw [hpc] at h
    exact Option.some.inj h ▸ .spawn hpc
  | enqueueing block =>
    rw [hpc] at h
    exact Option.some.inj h ▸ .of_enqueueSection hpc
  | refusing block pending =>
    simp only [hpc, fail_eq] at h
    exact Option.some.inj h ▸ .refuse hpc
  | joining =>
    rw [hpc] at h
    dsimp only at h
    split at h
    · next hnone => exact Option.some.inj h ▸ .takeQueue hpc hnone
    · next hdone => exact Option.some.inj h ▸ .join hpc hdone
    · exact absurd h (by simp)
  | draining rest =>
    rw [hpc] at h
    exact Option.some.inj h ▸ .of_drainStep hpc
  | drainFailing rest =>
    rw [hpc] at h
    rcases fail_cases q writeMessage with ⟨hfailed, heq⟩ | ⟨hfirst, heq⟩
    · simp only [heq] at h
      exact Option.some.inj h ▸ .drainLatched hpc hfailed
    · simp only [heq] at h
      exact Option.some.inj h ▸ .drainLatch hpc hfirst
  | drainNotifying rest =>
    rw [hpc] at h
    exact Option.some.inj h ▸ .drainNotify hpc
  | closing =>
    rw [hpc] at h
    rcases hclose : q.writer.close r.flush r.close with ⟨writer, ok⟩
    rw [hclose] at h
    cases ok with
    | true => exact Option.some.inj h ▸ .closeDone hpc hclose
    | false => exact Option.some.inj h ▸ .closeFail hpc hclose
  | closeFailing =>
    simp only [hpc, fail_eq] at h
    exact Option.some.inj h ▸ .closeLatch hpc
  | sealing =>
    rw [hpc] at h
    exact Option.some.inj h ▸ .markClosed hpc
  | answering =>
    rw [hpc] at h
    exact Option.some.inj h ▸ .answer hpc

theorem Step.of_writerStep {q q' : SbfWriteQueue} {r : WriteResult}
    (h : q.writerStep r = some q') : Step q q' := by
  unfold writerStep at h
  cases hpc : q.writerPc with
  | none => simp [hpc] at h
  | done => simp [hpc] at h
  | waiting =>
    rw [hpc] at h
    dsimp only at h
    split at h
    · next hqueue =>
      split at h
      · next hstop => exact Option.some.inj h ▸ .finish hpc hqueue hstop
      · exact absurd h (by simp)
    · next block queue hqueue => exact Option.some.inj h ▸ .pop hpc hqueue
  | writing block =>
    rw [hpc] at h
    rcases writeOne_cases q block r.append with ⟨hlost, heq⟩ | ⟨hintact, writer, hwrite, heq⟩ |
      ⟨hintact, writer, hwrite, heq⟩
    · simp only [heq] at h
      exact Option.some.inj h ▸ .discard hpc hlost
    · simp only [heq] at h
      exact Option.some.inj h ▸ .writeFail hpc hintact hwrite
    · simp only [heq] at h
      exact Option.some.inj h ▸ .write hpc hintact hwrite
  | failing block =>
    rw [hpc] at h
    rcases fail_cases q writeMessage with ⟨hfailed, heq⟩ | ⟨hfirst, heq⟩
    · simp only [heq] at h
      exact Option.some.inj h ▸ .latched hpc hfailed
    · simp only [heq] at h
      exact Option.some.inj h ▸ .latch hpc hfirst
  | notifying block =>
    rw [hpc] at h
    exact Option.some.inj h ▸ .notify hpc
  | releasing block =>
    rw [hpc] at h
    exact Option.some.inj h ▸ .release hpc

/-- **Every step of the queue is one of the list.** -/
theorem Step.of_step {q q' : SbfWriteQueue} {a : QueueAction} (h : q.step a = some q') :
    Step q q' := by
  cases a with
  | call c => exact .of_callStep h
  | owner r => exact .of_ownerStep h
  | writer r => exact .of_writerStep h

end SbfWriteQueue
end Asterx
end AmigaDrivers
