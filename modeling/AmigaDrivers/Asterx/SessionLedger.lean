import AmigaDrivers.Asterx.Session
import AmigaDrivers.Asterx.SbfWriteQueueCalls
import Mathlib.Logic.Relation

/-!
# The ledger of a session

What the verdict on a recording rests on is little of a session: its state, where its handler
stands, the error count, the queue and the blocks delivered.  `Ledger` is this part, with the
few moves it can make; whatever else a move does to state and handler, it is safe once it
counts an error.

* `Ledger.Sound`: what links the blocks delivered, the blocks accepted and the error count.
* `Ledger.Sound.step`: every move keeps it.
-/

namespace AmigaDrivers
namespace Asterx

open SbfWriteQueue (Inner StartCall EnqueueCall CloseCall)

/-- The part of a session that its verdict rests on. -/
structure Ledger where
  state : SessionState
  pc : SessionPc
  errors : Nat
  writer : SbfWriteQueue
  delivered : List QByteArray

def Session.ledger (s : Session) : Ledger where
  state := s.state
  pc := s.pc
  errors := s.recordingErrors
  writer := s.writer
  delivered := s.delivered

/-- The handler is in no call of the queue and about to make none. -/
def SessionPc.atRest : SessionPc → Bool
  | .ready | .gateCheck | .backingOff => true
  | .calling _ | .waiting _ => false

/-- The handler is in `Shutdown`. -/
def SessionPc.closing : SessionPc → Bool
  | .calling (.close _) | .waiting (.close _) => true
  | .ready | .gateCheck | .backingOff | .calling .start | .calling (.enqueue _)
  | .waiting .start | .waiting (.enqueue _) => false

namespace Ledger

/-- A move of the ledger. -/
inductive Move (l : Ledger) : Ledger → Prop
  /-- any change that is counted as an error -/
  | fault (state : SessionState) (pc : SessionPc) (n : Nat) :
      Move l { l with state, pc, errors := l.errors + (n + 1) }
  | phase {state : SessionState} (hbackoff : state ≠ .backoff) (hstopping : state ≠ .stopping) :
      Move l { l with state }
  | goOn {pc : SessionPc} (hrest : l.pc.atRest = true) (hrest' : pc.atRest = true) :
      Move l { l with pc }
  | shut (fatal : Bool) (hready : l.pc = .ready) :
      Move l { l with state := .stopping, pc := .calling (.close fatal) }
  | start (hready : l.pc = .ready) : Move l { l with pc := .calling .start }
  | block (block : QByteArray) (hready : l.pc = .ready) (hstopping : l.state ≠ .stopping) :
      Move l { l with pc := .calling (.enqueue block), delivered := l.delivered ++ nonEmpty block }
  | lost (block : QByteArray) (hbackoff : l.state = .backoff) :
      Move l { l with delivered := l.delivered ++ nonEmpty block }
  | call {c : QueueCall} {writer : SbfWriteQueue} (hcalling : l.pc = .calling c)
      (h : l.writer.step (.call c.call) = some writer) :
      Move l { l with writer, pc := .waiting c }
  | owner {c : QueueCall} {writer : SbfWriteQueue} {r : WriteResult} (hwaiting : l.pc = .waiting c)
      (h : l.writer.step (.owner r) = some writer) : Move l { l with writer }
  | writer {writer : SbfWriteQueue} {r : WriteResult}
      (h : l.writer.step (.writer r) = some writer) : Move l { l with writer }
  | started (hwaiting : l.pc = .waiting .start) (hidle : l.writer.ownerPc = .idle) :
      Move l { l with pc := .ready }
  | enqueued {block : QByteArray} (hwaiting : l.pc = .waiting (.enqueue block))
      (hidle : l.writer.ownerPc = .idle) (hqueued : l.writer.returned = some true) :
      Move l { l with pc := .gateCheck }
  | closed {fatal : Bool} (hwaiting : l.pc = .waiting (.close fatal))
      (hidle : l.writer.ownerPc = .idle) (hclean : l.writer.returned = some true) :
      Move l { l with pc := .ready }

/-- Any number of moves. -/
abbrev Moves : Ledger → Ledger → Prop := Relation.ReflTransGen Move

/-! ## What the moves keep -/

/-- How the blocks delivered and the queue are related where the handler stands. -/
def Consistent (delivered : List QByteArray) (writer : SbfWriteQueue) : SessionPc → Prop
  | .ready | .gateCheck | .backingOff | .calling .start | .calling (.close _) =>
    writer.accepted = delivered
  | .calling (.enqueue block) => writer.accepted ++ nonEmpty block = delivered
  | .waiting .start => StartCall delivered writer
  | .waiting (.enqueue block) =>
    ∃ before, before ++ nonEmpty block = delivered ∧ EnqueueCall before block writer
  | .waiting (.close _) => CloseCall delivered writer

/-- While no error has been counted, nothing has been lost, and a session that has shut down
has the word of `Close` for it. -/
structure Sound (cfg : SbfWriteQueue.Config) (l : Ledger) : Prop where
  reachable : (SbfWriteQueue.system cfg).Reachable l.writer
  counted : l.state = .backoff → l.errors ≠ 0
  consistent : l.errors = 0 → Consistent l.delivered l.writer l.pc
  verdict : l.errors = 0 → l.state = .stopping → l.pc.closing = false →
    true ∈ l.writer.closeResults

/-- A result of `Close` stays. -/
theorem closeResults_mono {q q' : SbfWriteQueue} (h : SbfWriteQueue.Step q q')
    (hmem : true ∈ q.closeResults) : true ∈ q'.closeResults := by
  cases h <;> first | exact hmem | exact List.mem_append_left _ hmem

variable {delivered : List QByteArray} {q q' : SbfWriteQueue} {pc : SessionPc}

/-- At rest, what has been delivered has been accepted. -/
theorem consistent_atRest (hrest : pc.atRest = true) :
    Consistent delivered q pc ↔ q.accepted = delivered := by
  cases pc with
  | ready | gateCheck | backingOff => exact Iff.rfl
  | calling c | waiting c => exact nomatch hrest

theorem not_closing_of_atRest (hrest : pc.atRest = true) : pc.closing = false := by
  cases pc with
  | ready | gateCheck | backingOff => rfl
  | calling c | waiting c => exact nomatch hrest

/-- Once a call is under way, the steps inside the queue keep the ledger consistent. -/
theorem Consistent.inner {c : QueueCall} (hl : Consistent delivered q (.waiting c))
    (h : Inner q q') : Consistent delivered q' (.waiting c) := by
  cases c with
  | start => exact StartCall.step hl h
  | enqueue block =>
    obtain ⟨before, hbefore, hcall⟩ := hl
    exact ⟨before, hbefore, hcall.step h⟩
  | close fatal => exact CloseCall.step hl h

/-- The writer thread accepts nothing. -/
theorem Consistent.writer {r : WriteResult} (hl : Consistent delivered q pc)
    (h : q.step (.writer r) = some q') : Consistent delivered q' pc := by
  obtain ⟨-, -, haccepted, -⟩ := SbfWriteQueue.writerStep_frame h
  cases pc with
  | waiting c => exact hl.inner (.writer h)
  | calling c => cases c <;> (unfold Consistent at hl ⊢; rw [haccepted]; exact hl)
  | ready | gateCheck | backingOff => exact haccepted.trans hl

/-- The first step of a call. -/
theorem Consistent.call {c : QueueCall} (hl : Consistent delivered q (.calling c))
    (h : q.step (.call c.call) = some q') : Consistent delivered q' (.waiting c) := by
  cases c with
  | start =>
    have haccepted : q.accepted = delivered := hl
    exact haccepted ▸ StartCall.of_call h
  | enqueue block => exact ⟨_, hl, EnqueueCall.of_call h⟩
  | close fatal =>
    have haccepted : q.accepted = delivered := hl
    exact haccepted ▸ CloseCall.of_call h

/-- `Enqueue` has returned true: the block is among those accepted. -/
theorem Consistent.enqueued {block : QByteArray}
    (hl : Consistent delivered q (.waiting (.enqueue block))) (hidle : q.ownerPc = .idle)
    (hqueued : q.returned = some true) : q.accepted = delivered := by
  obtain ⟨before, hbefore, ⟨hpc | ⟨pending, hpc⟩, -⟩ | ⟨-, -, haccepted⟩ | ⟨-, hret, -⟩⟩ := hl
  · exact nomatch hpc.symm.trans hidle
  · exact nomatch hpc.symm.trans hidle
  · exact haccepted.trans hbefore
  · exact nomatch hret.symm.trans hqueued

/-- `Close` has returned true: that is on record. -/
theorem Consistent.closed {fatal : Bool}
    (hl : Consistent delivered q (.waiting (.close fatal))) (hidle : q.ownerPc = .idle)
    (hclean : q.returned = some true) : true ∈ q.closeResults := by
  obtain ⟨-, hpc | ⟨-, clean, hret, hmem⟩⟩ := hl
  · rw [hidle] at hpc
    exact nomatch hpc
  · exact hmem (Option.some.inj (hret.symm.trans hclean))

variable {cfg : SbfWriteQueue.Config} {l l' : Ledger}

/-- **Every move keeps the ledger sound.** -/
theorem Sound.move (hl : l.Sound cfg) (h : Move l l') : l'.Sound cfg := by
  have hverdict : l.errors = 0 → l.state = .stopping → l.pc.atRest = true →
      true ∈ l.writer.closeResults := fun h0 hstate hrest =>
    hl.verdict h0 hstate (not_closing_of_atRest hrest)
  cases h with
  | fault state pc n =>
    exact ⟨hl.reachable, fun _ => Nat.succ_ne_zero _, fun h0 => absurd h0 (Nat.succ_ne_zero _),
      fun h0 => absurd h0 (Nat.succ_ne_zero _)⟩
  | phase hbackoff hstopping =>
    exact ⟨hl.reachable, fun h => absurd h hbackoff, hl.consistent, fun _ h => absurd h hstopping⟩
  | goOn hrest hrest' =>
    refine ⟨hl.reachable, hl.counted, fun h0 => ?_, fun h0 hstate _ => hverdict h0 hstate hrest⟩
    exact (consistent_atRest hrest').mpr ((consistent_atRest hrest).mp (hl.consistent h0))
  | shut fatal hready =>
    refine ⟨hl.reachable, (nomatch ·), fun h0 => ?_, fun _ _ h => nomatch h⟩
    exact (consistent_atRest (hready ▸ rfl)).mp (hl.consistent h0)
  | start hready =>
    refine ⟨hl.reachable, hl.counted, fun h0 => ?_,
      fun h0 hstate _ => hverdict h0 hstate (hready ▸ rfl)⟩
    exact (consistent_atRest (hready ▸ rfl)).mp (hl.consistent h0)
  | block block hready hstopping =>
    refine ⟨hl.reachable, hl.counted, fun h0 => ?_, fun _ h => absurd h hstopping⟩
    have haccepted := (consistent_atRest (hready ▸ rfl)).mp (hl.consistent h0)
    exact congrArg (· ++ nonEmpty block) haccepted
  | lost block hbackoff =>
    have herrors := hl.counted hbackoff
    exact ⟨hl.reachable, hl.counted, fun h0 => absurd h0 herrors, fun h0 => absurd h0 herrors⟩
  | @call c writer hcalling hcall =>
    refine ⟨.step (a := .call c.call) hl.reachable hcall, hl.counted, fun h0 => ?_,
      fun h0 hstate hclosing => ?_⟩
    · exact (hcalling ▸ hl.consistent h0).call hcall
    · refine closeResults_mono (.of_step hcall) (hl.verdict h0 hstate ?_)
      rw [hcalling]
      cases c <;> first | rfl | exact hclosing
  | @owner c writer r hwaiting howner =>
    refine ⟨.step (a := .owner r) hl.reachable howner, hl.counted, fun h0 => ?_,
      fun h0 hstate hclosing => ?_⟩
    · have hcons := hl.consistent h0
      rw [hwaiting] at hcons
      exact (congrArg _ hwaiting).mpr (hcons.inner (.owner howner))
    · exact closeResults_mono (.of_step howner) (hl.verdict h0 hstate hclosing)
  | @writer writer r hwriter =>
    refine ⟨.step (a := .writer r) hl.reachable hwriter, hl.counted, fun h0 => ?_,
      fun h0 hstate hclosing => ?_⟩
    · exact (hl.consistent h0).writer hwriter
    · exact closeResults_mono (.of_step hwriter) (hl.verdict h0 hstate hclosing)
  | started hwaiting hidle =>
    refine ⟨hl.reachable, hl.counted, fun h0 => ?_,
      fun h0 hstate _ => hl.verdict h0 hstate (hwaiting ▸ rfl)⟩
    have hcons := hl.consistent h0
    rw [hwaiting] at hcons
    exact hcons.2
  | enqueued hwaiting hidle hqueued =>
    refine ⟨hl.reachable, hl.counted, fun h0 => ?_,
      fun h0 hstate _ => hl.verdict h0 hstate (hwaiting ▸ rfl)⟩
    have hcons := hl.consistent h0
    rw [hwaiting] at hcons
    exact hcons.enqueued hidle hqueued
  | closed hwaiting hidle hclean =>
    have hcons : l.errors = 0 → Consistent l.delivered l.writer (.waiting (.close _)) :=
      fun h0 => hwaiting ▸ hl.consistent h0
    exact ⟨hl.reachable, hl.counted, fun h0 => (hcons h0).1,
      fun h0 _ _ => (hcons h0).closed hidle hclean⟩

theorem Sound.moves (hl : l.Sound cfg) (h : Moves l l') : l'.Sound cfg := by
  induction h with
  | refl => exact hl
  | tail _ hmove ih => exact ih.move hmove

end Ledger

end Asterx
end AmigaDrivers
