import AmigaDrivers.Asterx.SbfWriteQueueContract
import AmigaDrivers.Common.RotatingFileLayout
import AmigaDrivers.Foundation.History

/-!
# The statistics of the write queue

`GetStats` gives the counts that `WriteOne` copied from the writer after its last `WriteBlock` that
returned true.  An append ends with the rotation that may follow its write, so a block can be in the
file, and counted by the writer, while `WriteBlock` returns false.

A run is recorded step by step; what a step appends is read off its state and its results.

* `rotation_loses_count`: a run after whose `Close` a block in the file is missing in the counts.
* `statistics_exact_iff`: **the counts are exact as long as no rotation behind a written block
  fails, and no longer.**
-/

namespace AmigaDrivers
namespace RotatingFileWriter

/-- Behind its write, an append is the rotation. -/
theorem append_of_written {w w' : RotatingFileWriter} {data : List UInt8} {r : AppendResult}
    (h : w.written data r = some w') :
    w.append data r = w'.rotateIfNeeded r.intervalElapsed r.rotate := by
  rw [append_eq]
  unfold written at h
  generalize w.prepared data r = p at h ⊢
  obtain ⟨prepared, _ | _⟩ := p
  · exact nomatch h
  · dsimp only at h
    rw [andThen_true]
    unfold writeRecord
    dsimp only
    split_ifs at h ⊢ with hgood
    exact Option.some.inj h ▸ rfl

end RotatingFileWriter

namespace Asterx
namespace SbfWriteQueue

open RotatingFileWriter (Laid)

/-! ## What a step writes -/

/-- The block that a step hands to `WriteOne`, with the results of its stream operations. -/
def writing (q : SbfWriteQueue) : QueueAction → Option (QByteArray × AppendResult)
  | .call _ => none
  | .owner r =>
    match q.ownerPc with
    | .draining (block :: _) => some (block, r.append)
    | _ => none
  | .writer r =>
    match q.writerPc with
    | .writing block => some (block, r.append)
    | _ => none

/-- The writer behind the write of that block, when the file has taken it in full. -/
def writtenBy (q : SbfWriteQueue) (block : QByteArray) (r : AppendResult) :
    Option RotatingFileWriter :=
  if q.writeFailed = true ∨ block.bytes = [] then none else q.writer.written block.bytes r

/-- The block that a step appends to the files. -/
def appendedBy (t : Taken SbfWriteQueue QueueAction) : List QByteArray :=
  match writing t.before t.action with
  | none => []
  | some (block, r) =>
    match writtenBy t.before block r with
    | none => []
    | some _ => [block]

/-- The block that a step appends and behind which the rotation fails. -/
def lostBy (t : Taken SbfWriteQueue QueueAction) : List QByteArray :=
  match writing t.before t.action with
  | none => []
  | some (block, r) =>
    match writtenBy t.before block r with
    | none => []
    | some writer =>
      if (writer.rotateIfNeeded r.intervalElapsed r.rotate).2 then [] else [block]

/-- The blocks appended so far, in order. -/
def appended (history : List (Taken SbfWriteQueue QueueAction)) : List QByteArray :=
  history.reverse.flatMap appendedBy

/-- The part of the queue that the statistics are about. -/
def counts (q : SbfWriteQueue) : Nat × Nat × Bool :=
  (q.recordsWritten, q.bytesWritten, q.writeFailed)

/-- Latching a failure leaves the counts and the writer. -/
theorem counts_fail (q : SbfWriteQueue) (what : String) :
    (q.fail what).1.counts = q.counts ∧ (q.fail what).1.writer = q.writer := by
  rw [fail_eq]
  exact ⟨rfl, rfl⟩

theorem counts_callStep {q q' : SbfWriteQueue} {c : Call} (h : q.callStep c = some q') :
    q'.counts = q.counts ∧ q'.writer = q.writer := by
  unfold callStep at h
  split at h
  · split at h
    · split_ifs at h <;> exact Option.some.inj h ▸ ⟨rfl, rfl⟩
    · split_ifs at h <;> exact Option.some.inj h ▸ ⟨rfl, rfl⟩
    · split_ifs at h <;> exact Option.some.inj h ▸ ⟨rfl, rfl⟩
  · exact nomatch h

theorem counts_drainStep (q : SbfWriteQueue) (block : QByteArray) (rest : List QByteArray)
    (r : AppendResult) :
    (q.drainStep (block :: rest) r).counts = (q.writeOne block r).1.counts ∧
      (q.drainStep (block :: rest) r).writer = (q.writeOne block r).1.writer := by
  unfold drainStep
  dsimp only
  generalize q.writeOne block r = p
  obtain ⟨q', _ | _ | _⟩ := p <;> exact ⟨rfl, rfl⟩

theorem counts_enqueueSection (q : SbfWriteQueue) (block : QByteArray) :
    (q.enqueueSection block).counts = q.counts ∧ (q.enqueueSection block).writer = q.writer := by
  unfold enqueueSection
  split_ifs <;> exact ⟨rfl, rfl⟩

/-- A step hands a block to `WriteOne`, or it leaves the counts and at most closes the writer. -/
theorem counts_of_step {q q' : SbfWriteQueue} {a : QueueAction} (h : q.step a = some q') :
    (∃ block r, writing q a = some (block, r) ∧ q'.counts = (q.writeOne block r).1.counts ∧
        q'.writer = (q.writeOne block r).1.writer) ∨
      writing q a = none ∧ q'.counts = q.counts ∧
        (q'.writer = q.writer ∨ ∃ flush close, q'.writer = (q.writer.close flush close).1) := by
  cases a with
  | call c =>
    obtain ⟨hcounts, hwriter⟩ := counts_callStep h
    exact .inr ⟨rfl, hcounts, .inl hwriter⟩
  | owner r =>
    unfold step ownerStep at h
    unfold writing
    cases hpc : q.ownerPc with
    | draining rest =>
      rw [hpc] at h
      obtain rfl := Option.some.inj h
      cases rest with
      | nil => exact .inr ⟨rfl, rfl, .inl rfl⟩
      | cons block rest =>
        obtain ⟨hcounts, hwriter⟩ := counts_drainStep q block rest r.append
        exact .inl ⟨block, r.append, rfl, hcounts, hwriter⟩
    | idle => rw [hpc] at h; exact nomatch h
    | enqueueing block =>
      rw [hpc] at h
      obtain rfl := Option.some.inj h
      obtain ⟨hcounts, hwriter⟩ := counts_enqueueSection q block
      exact .inr ⟨rfl, hcounts, .inl hwriter⟩
    | refusing block pending =>
      rw [hpc] at h
      obtain rfl := Option.some.inj h
      obtain ⟨hcounts, hwriter⟩ := counts_fail q (overflowMessage pending q.maxPendingBytes)
      exact .inr ⟨rfl, hcounts, .inl hwriter⟩
    | joining =>
      rw [hpc] at h
      dsimp only at h
      split at h
      · exact Option.some.inj h ▸ .inr ⟨rfl, rfl, .inl rfl⟩
      · exact Option.some.inj h ▸ .inr ⟨rfl, rfl, .inl rfl⟩
      · exact nomatch h
    | drainFailing rest =>
      rw [hpc] at h
      dsimp only at h
      obtain ⟨hcounts, hwriter⟩ := counts_fail q writeMessage
      generalize q.fail writeMessage = p at h hcounts hwriter
      obtain ⟨failed, _ | _⟩ := p
      · exact Option.some.inj h ▸ .inr ⟨rfl, hcounts, .inl hwriter⟩
      · exact Option.some.inj h ▸ .inr ⟨rfl, hcounts, .inl hwriter⟩
    | closing =>
      rw [hpc] at h
      dsimp only at h
      cases hclose : q.writer.close r.flush r.close with
      | mk writer ok =>
        rw [hclose] at h
        have hwriter : writer = (q.writer.close r.flush r.close).1 := by rw [hclose]
        cases ok <;> exact Option.some.inj h ▸ .inr ⟨rfl, rfl, .inr ⟨r.flush, r.close, hwriter⟩⟩
    | closeFailing =>
      rw [hpc] at h
      obtain rfl := Option.some.inj h
      obtain ⟨hcounts, hwriter⟩ := counts_fail q closeMessage
      exact .inr ⟨rfl, hcounts, .inl hwriter⟩
    | spawning | drainNotifying _ | sealing | answering =>
      rw [hpc] at h
      exact Option.some.inj h ▸ .inr ⟨rfl, rfl, .inl rfl⟩
  | writer r =>
    unfold step writerStep at h
    unfold writing
    cases hpc : q.writerPc with
    | writing block =>
      rw [hpc] at h
      dsimp only at h
      refine .inl ⟨block, r.append, rfl, ?_⟩
      generalize q.writeOne block r.append = p at h ⊢
      obtain ⟨q1, _ | _ | _⟩ := p <;> exact Option.some.inj h ▸ ⟨rfl, rfl⟩
    | failing block =>
      rw [hpc] at h
      dsimp only at h
      obtain ⟨hcounts, hwriter⟩ := counts_fail q writeMessage
      generalize q.fail writeMessage = p at h hcounts hwriter
      obtain ⟨failed, _ | _⟩ := p
      · exact Option.some.inj h ▸ .inr ⟨rfl, hcounts, .inl hwriter⟩
      · exact Option.some.inj h ▸ .inr ⟨rfl, hcounts, .inl hwriter⟩
    | waiting =>
      rw [hpc] at h
      dsimp only at h
      split at h
      · split_ifs at h
        exact Option.some.inj h ▸ .inr ⟨rfl, rfl, .inl rfl⟩
      · exact Option.some.inj h ▸ .inr ⟨rfl, rfl, .inl rfl⟩
    | none | done => rw [hpc] at h; exact nomatch h
    | notifying _ | releasing _ =>
      rw [hpc] at h
      exact Option.some.inj h ▸ .inr ⟨rfl, rfl, .inl rfl⟩

/-! ## Runs -/

theorem appended_cons (t : Taken SbfWriteQueue QueueAction)
    (history : List (Taken SbfWriteQueue QueueAction)) :
    appended (t :: history) = appended history ++ appendedBy t := by
  unfold appended
  rw [List.reverse_cons, List.flatMap_append, List.flatMap_singleton]

theorem length_flatten_bytes (blocks : List QByteArray) :
    (blocks.map QByteArray.bytes).flatten.length = totalSize blocks := by
  rw [List.length_flatten, List.map_map]
  rfl

/-- The writer's own counts. -/
theorem counts_of_laid {w : RotatingFileWriter} {blocks : List (List (List UInt8))}
    {torn : List UInt8} {l : List QByteArray} (hlaid : w.Laid blocks torn)
    (hblocks : blocks.flatten = l.map QByteArray.bytes) :
    w.recordsWritten = l.length ∧ w.bytesWritten = totalSize l := by
  rw [hlaid.records, hlaid.bytes, hblocks, List.length_map, length_flatten_bytes]
  exact ⟨rfl, rfl⟩

/-- The writer counts what was appended, and the queue what was appended and not lost. -/
structure Tallied (q : SbfWriteQueue) (history : List (Taken SbfWriteQueue QueueAction)) :
    Prop where
  laid : ∃ blocks torn, q.writer.Laid blocks torn ∧
    blocks.flatten = (appended history).map QByteArray.bytes
  records : q.recordsWritten + (history.flatMap lostBy).length = (appended history).length
  bytes : q.bytesWritten + totalSize (history.flatMap lostBy) = totalSize (appended history)
  lost : history.flatMap lostBy ≠ [] → q.writeFailed = true

section Step

variable {q q' : SbfWriteQueue} {a : QueueAction} {block : QByteArray} {r : AppendResult}
  {history : List (Taken SbfWriteQueue QueueAction)}

/-- A step that appends nothing and leaves the counts. -/
theorem Tallied.quiet (h : Tallied q history) (hrecords' : q'.recordsWritten = q.recordsWritten)
    (hbytes' : q'.bytesWritten = q.bytesWritten)
    (hfailed' : q.writeFailed = true → q'.writeFailed = true)
    (hlaid : ∀ blocks torn, q.writer.Laid blocks torn →
      ∃ blocks' torn', q'.writer.Laid blocks' torn' ∧ blocks'.flatten = blocks.flatten)
    (happended : appendedBy ⟨q, a, q'⟩ = []) (hlost : lostBy ⟨q, a, q'⟩ = []) :
    Tallied q' (⟨q, a, q'⟩ :: history) := by
  obtain ⟨⟨blocks, torn, hw, hblocks⟩, hrecords, hbytes, hfailed⟩ := h
  have happ : appended (⟨q, a, q'⟩ :: history) = appended history := by
    rw [appended_cons, happended, List.append_nil]
  have hrest : (⟨q, a, q'⟩ :: history).flatMap lostBy = history.flatMap lostBy := by
    rw [List.flatMap_cons, hlost, List.nil_append]
  obtain ⟨blocks', torn', hw', hsame⟩ := hlaid blocks torn hw
  constructor
  · exact ⟨blocks', torn', hw', happ ▸ hsame.trans hblocks⟩
  · rw [happ, hrest, hrecords']
    exact hrecords
  · rw [happ, hrest, hbytes']
    exact hbytes
  · rw [hrest]
    exact fun hne => hfailed' (hfailed hne)

/-- A block that is appended, whether its rotation fails or not. -/
theorem Tallied.appends (h : Tallied q history) (hintact : q.writeFailed = false)
    (hbytes : block.bytes ≠ []) (hwriting : writing q a = some (block, r))
    {w : RotatingFileWriter} (hwritten : q.writer.written block.bytes r = some w)
    (hwriter : q'.writer = (q.writer.append block.bytes r).1)
    (hcounts : if (w.rotateIfNeeded r.intervalElapsed r.rotate).2
      then q'.recordsWritten = q'.writer.recordsWritten ∧ q'.bytesWritten = q'.writer.bytesWritten
      else q'.counts = (q.recordsWritten, q.bytesWritten, true)) :
    Tallied q' (⟨q, a, q'⟩ :: history) := by
  have hby : writtenBy q block r = some w := by
    unfold writtenBy
    rw [if_neg (by rw [hintact]; simp [hbytes]), hwritten]
  have happ : appended (⟨q, a, q'⟩ :: history) = appended history ++ [block] := by
    rw [appended_cons]
    unfold appendedBy
    simp only [hwriting, hby]
  have hnone : history.flatMap lostBy = [] := by
    by_contra hne
    exact nomatch hintact.symm.trans (h.lost hne)
  have hlost : (⟨q, a, q'⟩ :: history).flatMap lostBy =
      if (w.rotateIfNeeded r.intervalElapsed r.rotate).2 then [] else [block] := by
    rw [List.flatMap_cons, hnone, List.append_nil]
    unfold lostBy
    simp only [hwriting, hby]
  obtain ⟨blocks, torn, hlaid, hblocks⟩ := h.laid
  have hnew : ∃ blocks' torn', q'.writer.Laid blocks' torn' ∧
      blocks'.flatten = (appended (⟨q, a, q'⟩ :: history)).map QByteArray.bytes := by
    obtain ⟨-, n, -, ⟨hno, -⟩ | ⟨⟨-, -, hopen, hgood, hprepared⟩, ⟨hno, -⟩ | ⟨-, m, hlaid'⟩⟩⟩ :=
      hlaid.append block.bytes r
    · exact nomatch hno.symm.trans hwritten
    · exact nomatch hno.symm.trans hwritten
    · refine ⟨_, _, hwriter ▸ hlaid', ?_⟩
      have hne : blocks ++ List.replicate n [] ≠ [] := by
        obtain ⟨before, records, heq, -⟩ := hprepared.size hopen hgood
        rw [heq]
        exact List.append_ne_nil_of_right_ne_nil _ (List.cons_ne_nil _ _)
      rw [RotatingFileWriter.flatten_grown, RotatingFileWriter.flatten_addRecord hne,
        RotatingFileWriter.flatten_grown, hblocks, happ, List.map_append]
      rfl
  obtain ⟨blocks', torn', hlaid', hblocks'⟩ := hnew
  obtain ⟨hrecords', hbytes'⟩ := counts_of_laid hlaid' hblocks'
  cases hrotate : (w.rotateIfNeeded r.intervalElapsed r.rotate).2 with
  | true =>
    rw [hrotate, if_pos rfl] at hcounts hlost
    refine ⟨⟨blocks', torn', hlaid', hblocks'⟩, ?_, ?_, fun hne => absurd hlost hne⟩
    · rw [hlost, hcounts.1]
      exact hrecords'
    · rw [hlost, hcounts.2]
      exact hbytes'
  | false =>
    rw [hrotate, if_neg Bool.false_ne_true] at hcounts hlost
    simp only [counts, Prod.mk.injEq] at hcounts
    obtain ⟨hr, hb, hf⟩ := hcounts
    have hrecords := h.records
    have hsize := h.bytes
    rw [hnone] at hrecords hsize
    refine ⟨⟨blocks', torn', hlaid', hblocks'⟩, ?_, ?_, fun _ => hf⟩
    · rw [hlost, happ, hr, List.length_append, ← hrecords]
      rfl
    · rw [hlost, happ, hb, totalSize_append, ← hsize]
      rfl

/-- One step keeps the tally. -/
theorem Tallied.step (h : Tallied q history) (hstep : q.step a = some q') :
    Tallied q' (⟨q, a, q'⟩ :: history) := by
  obtain ⟨block, r, hwriting, hcounts, hwriter⟩ | ⟨hnone, hcounts, hwriter⟩ := counts_of_step hstep
  · have hquiet (hby : writtenBy q block r = none) :
        appendedBy ⟨q, a, q'⟩ = [] ∧ lostBy ⟨q, a, q'⟩ = [] := by
      unfold appendedBy lostBy
      simp only [hwriting, hby, and_self]
    obtain ⟨hlost, heq⟩ | ⟨hintact, writer, hwrite, heq⟩ | ⟨hintact, writer, hwrite, heq⟩ :=
      writeOne_cases q block r
    all_goals
      rw [heq] at hcounts hwriter
      simp only [counts, Prod.mk.injEq] at hcounts
      obtain ⟨hr, hb, hf⟩ := hcounts
    · -- a block that comes after a failed write is dropped
      obtain ⟨happended, hlostBy⟩ := hquiet (if_pos (.inl hlost))
      exact h.quiet hr hb (fun _ => hf.trans hlost)
        (fun blocks torn hlaid => ⟨blocks, torn, hwriter ▸ hlaid, rfl⟩) happended hlostBy
    · unfold writeBlock at hwrite
      split_ifs at hwrite with hempty
      · exact nomatch (Prod.mk.inj hwrite).2
      have hwriter' : q'.writer = (q.writer.append block.bytes r).1 := by rw [hwriter, hwrite]
      cases hwritten : q.writer.written block.bytes r with
      | none =>
        have hby : writtenBy q block r = none := by
          unfold writtenBy
          rw [hwritten, ite_self]
        obtain ⟨happended, hlostBy⟩ := hquiet hby
        refine h.quiet hr hb (fun _ => hf) (fun blocks torn hlaid => ?_) happended hlostBy
        obtain ⟨-, n, -, ⟨-, -, hlaid'⟩ | ⟨-, ⟨-, -, hlaid'⟩ | ⟨hsome, -⟩⟩⟩ :=
          hlaid.append block.bytes r
        · exact ⟨_, _, hwriter' ▸ hlaid', RotatingFileWriter.flatten_grown blocks n⟩
        · exact ⟨_, _, hwriter' ▸ hlaid', RotatingFileWriter.flatten_grown blocks n⟩
        · rw [hwritten] at hsome
          exact nomatch hsome
      | some w =>
        refine h.appends hintact hempty hwriting hwritten hwriter' ?_
        rw [← RotatingFileWriter.append_of_written hwritten, hwrite, if_neg Bool.false_ne_true]
        exact Prod.ext hr (Prod.ext hb hf)
    · unfold writeBlock at hwrite
      split_ifs at hwrite with hempty
      · -- an empty block: what is copied is what was there
        obtain ⟨rfl, -⟩ := Prod.mk.inj hwrite
        obtain ⟨happended, hlostBy⟩ := hquiet (if_pos (.inr hempty))
        have hnone : history.flatMap lostBy = [] := by
          by_contra hne
          exact nomatch hintact.symm.trans (h.lost hne)
        obtain ⟨blocks, torn, hlaid, hblocks⟩ := h.laid
        obtain ⟨hown, hownBytes⟩ := counts_of_laid hlaid hblocks
        have hrecords := h.records
        have hbytes := h.bytes
        rw [hnone, ← hown] at hrecords
        rw [hnone, ← hownBytes] at hbytes
        exact h.quiet (hr.trans hrecords.symm) (hb.trans hbytes.symm)
          (fun hbad => nomatch hintact.symm.trans hbad)
          (fun blocks torn hlaid => ⟨blocks, torn, hwriter ▸ hlaid, rfl⟩) happended hlostBy
      · have hwriter' : q'.writer = (q.writer.append block.bytes r).1 := by rw [hwriter, hwrite]
        obtain ⟨w, hwritten⟩ := Option.isSome_iff_exists.mp
          (RotatingFileWriter.written_of_append hwrite)
        refine h.appends hintact hempty hwriting hwritten hwriter' ?_
        rw [← RotatingFileWriter.append_of_written hwritten, hwrite, if_pos rfl, hwriter]
        exact ⟨hr, hb⟩
  · have hquiet : appendedBy ⟨q, a, q'⟩ = [] ∧ lostBy ⟨q, a, q'⟩ = [] := by
      unfold appendedBy lostBy
      simp only [hnone, and_self]
    simp only [counts, Prod.mk.injEq] at hcounts
    obtain ⟨hr, hb, hf⟩ := hcounts
    refine h.quiet hr hb hf.trans (fun blocks torn hlaid => ?_) hquiet.1 hquiet.2
    obtain hsame | ⟨flush, close, hclose⟩ := hwriter
    · exact ⟨blocks, torn, hsame ▸ hlaid, rfl⟩
    · exact ⟨blocks, torn, hclose ▸ hlaid.closeCurrent flush close, rfl⟩

end Step

end SbfWriteQueue
end Asterx
end AmigaDrivers
