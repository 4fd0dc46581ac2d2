import AmigaDrivers.Asterx.SbfWriteQueueContract

/-!
# The calls of the write queue, from their owner's side

An owner that makes one call after another sees of the queue only where its call stands and
which blocks have been accepted.

* `StartCall`, `EnqueueCall`, `CloseCall`: what a call has done so far, from its first step until
  the owner takes its answer.
* `StartCall.step`, `EnqueueCall.step`, `CloseCall.step`: neither thread inside the queue leaves them.
-/

namespace AmigaDrivers
namespace Asterx

namespace SbfWriteQueue

/-- The owner is in a call of `Start`, or it has returned; `before` is what was accepted
before the call. -/
def StartCall (before : List QByteArray) (q : SbfWriteQueue) : Prop :=
  (q.ownerPc = .spawning ∨ q.ownerPc = .idle) ∧ q.accepted = before

/-- The owner is in `Enqueue(block)`, or it has returned. -/
def EnqueueCall (before : List QByteArray) (block : QByteArray) (q : SbfWriteQueue) : Prop :=
  ((q.ownerPc = .enqueueing block ∨ ∃ pending, q.ownerPc = .refusing block pending) ∧
      block.bytes ≠ [] ∧ q.accepted = before) ∨
    (q.ownerPc = .idle ∧ q.returned = some true ∧ q.accepted = before ++ nonEmpty block) ∨
    (q.ownerPc = .idle ∧ q.returned = some false ∧ q.accepted = before)

/-- The owner is in `Close`, or it has returned. -/
def CloseCall (before : List QByteArray) (q : SbfWriteQueue) : Prop :=
  q.accepted = before ∧
    (q.ownerPc.inClose = true ∨
      q.ownerPc = .idle ∧ ∃ clean, q.returned = some clean ∧ (clean = true → true ∈ q.closeResults))

/-! ## The first step of a call -/

theorem StartCall.of_call {q q' : SbfWriteQueue} (h : q.step (.call .start) = some q') :
    StartCall q.accepted q' := by
  change q.callStep .start = some q' at h
  unfold callStep at h
  split at h
  · rename_i hidle
    dsimp only at h
    split at h
    · exact Option.some.inj h ▸ ⟨.inr hidle, rfl⟩
    · split at h
      · exact Option.some.inj h ▸ ⟨.inr hidle, rfl⟩
      · exact Option.some.inj h ▸ ⟨.inl rfl, rfl⟩
  · exact nomatch h

theorem EnqueueCall.of_call {q q' : SbfWriteQueue} {block : QByteArray}
    (h : q.step (.call (.enqueue block)) = some q') : EnqueueCall q.accepted block q' := by
  change q.callStep (.enqueue block) = some q' at h
  unfold callStep at h
  split at h
  · dsimp only at h
    split at h
    · rename_i hempty
      refine Option.some.inj h ▸ .inr (.inl ⟨rfl, rfl, ?_⟩)
      rw [nonEmpty, if_pos hempty, List.append_nil]
      rfl
    · rename_i hblock
      split at h
      · exact Option.some.inj h ▸ .inr (.inr ⟨rfl, rfl, rfl⟩)
      · exact Option.some.inj h ▸ .inl ⟨.inl rfl, hblock, rfl⟩
  · exact nomatch h

theorem CloseCall.of_call {q q' : SbfWriteQueue} (h : q.step (.call .close) = some q') :
    CloseCall q.accepted q' := by
  change q.callStep .close = some q' at h
  unfold callStep at h
  split at h
  · dsimp only at h
    split at h
    · refine Option.some.inj h ▸ ⟨rfl, .inr ⟨rfl, !q.failed, rfl, fun hclean => ?_⟩⟩
      exact List.mem_append_right _ (List.mem_singleton.mpr hclean.symm)
    · exact Option.some.inj h ▸ ⟨rfl, .inl rfl⟩
  · exact nomatch h

/-- An owner in no call can make one. -/
theorem call_enabled {q : SbfWriteQueue} (hidle : q.ownerPc = .idle) (c : Call) :
    ∃ q', q.step (.call c) = some q' := by
  change ∃ q', q.callStep c = some q'
  unfold callStep
  rw [hidle]
  cases c <;> dsimp only <;> (repeat' split) <;> exact ⟨_, rfl⟩

/-! ## The writer thread -/

/-- The writer thread leaves the owner's call where it is. -/
theorem writerStep_frame {q q' : SbfWriteQueue} {r : WriteResult} (h : q.writerStep r = some q') :
    q'.ownerPc = q.ownerPc ∧ q'.returned = q.returned ∧ q'.accepted = q.accepted ∧
      q'.closeResults = q.closeResults := by
  unfold writerStep at h
  split at h
  case h_1 => exact nomatch h
  case h_2 =>
    split at h
    · split at h
      · exact Option.some.inj h ▸ ⟨rfl, rfl, rfl, rfl⟩
      · exact nomatch h
    · exact Option.some.inj h ▸ ⟨rfl, rfl, rfl, rfl⟩
  case h_3 block _ =>
    rcases writeOne_cases q block r.append with
      ⟨_, heq⟩ | ⟨_, writer, _, heq⟩ | ⟨_, writer, _, heq⟩ <;>
      · rw [heq] at h
        exact Option.some.inj h ▸ ⟨rfl, rfl, rfl, rfl⟩
  case h_4 =>
    rcases fail_cases q writeMessage with ⟨_, heq⟩ | ⟨_, heq⟩ <;>
      · rw [heq] at h
        exact Option.some.inj h ▸ ⟨rfl, rfl, rfl, rfl⟩
  case h_5 => exact Option.some.inj h ▸ ⟨rfl, rfl, rfl, rfl⟩
  case h_6 => exact Option.some.inj h ▸ ⟨rfl, rfl, rfl, rfl⟩
  case h_7 => exact nomatch h

/-- The owner goes on only inside a call. -/
theorem ownerPc_ne_idle_of_ownerStep {q q' : SbfWriteQueue} {r : WriteResult}
    (h : q.ownerStep r = some q') : q.ownerPc ≠ .idle := by
  intro hidle
  unfold ownerStep at h
  rw [hidle] at h
  exact nomatch h

/-! ## The steps inside a call -/

/-- One of the two threads inside the queue goes on. -/
inductive Inner (q q' : SbfWriteQueue) : Prop
  | owner {r : WriteResult} (h : q.step (.owner r) = some q')
  | writer {r : WriteResult} (h : q.step (.writer r) = some q')

theorem Inner.step {q q' : SbfWriteQueue} (h : Inner q q') : Step q q' := by
  cases h with
  | owner h => exact Step.of_step h
  | writer h => exact Step.of_step h

/-- Once a call has returned, the threads inside leave its answer alone. -/
theorem Inner.frame {q q' : SbfWriteQueue} (h : Inner q q') (hidle : q.ownerPc = .idle) :
    q'.ownerPc = q.ownerPc ∧ q'.returned = q.returned ∧ q'.accepted = q.accepted ∧
      q'.closeResults = q.closeResults := by
  cases h with
  | owner h => exact absurd hidle (ownerPc_ne_idle_of_ownerStep h)
  | writer h => exact writerStep_frame h

/-- What has been accepted stays accepted. -/
theorem accepted_prefix {q q' : SbfWriteQueue} (h : Step q q') : q.accepted <+: q'.accepted := by
  cases h <;> first | exact List.prefix_rfl | exact List.prefix_append _ _

theorem StartCall.step {before : List QByteArray} {q q' : SbfWriteQueue} (hin : StartCall before q)
    (h : Inner q q') : StartCall before q' := by
  obtain ⟨hspawn | hidle, haccepted⟩ := hin
  · have hstep := h.step
    clear h
    cases hstep <;> simp_all [StartCall]
  · obtain ⟨hpc, -, hacc, -⟩ := h.frame hidle
    exact ⟨.inr (hpc.trans hidle), hacc.trans haccepted⟩

theorem EnqueueCall.step {before : List QByteArray} {block : QByteArray} {q q' : SbfWriteQueue}
    (hin : EnqueueCall before block q) (h : Inner q q') : EnqueueCall before block q' := by
  rcases hin with ⟨hpc | ⟨pending, hpc⟩, hblock, haccepted⟩ | ⟨hidle, hret, haccepted⟩ |
    ⟨hidle, hret, haccepted⟩
  · have hstep := h.step
    clear h
    cases hstep <;> simp_all [EnqueueCall, nonEmpty]
  · have hstep := h.step
    clear h
    cases hstep <;> simp_all [EnqueueCall]
  · obtain ⟨hpc, hreturned, hacc, -⟩ := h.frame hidle
    exact .inr (.inl ⟨hpc.trans hidle, hreturned.trans hret, hacc.trans haccepted⟩)
  · obtain ⟨hpc, hreturned, hacc, -⟩ := h.frame hidle
    exact .inr (.inr ⟨hpc.trans hidle, hreturned.trans hret, hacc.trans haccepted⟩)

theorem CloseCall.step {before : List QByteArray} {q q' : SbfWriteQueue} (hin : CloseCall before q)
    (h : Inner q q') : CloseCall before q' := by
  obtain ⟨haccepted, hclose | ⟨hidle, clean, hret, hmem⟩⟩ := hin
  · have hstep := h.step
    clear h
    cases hstep with
    | answer _ =>
      refine ⟨haccepted, .inr ⟨rfl, !q.failed, rfl, fun hclean => ?_⟩⟩
      exact List.mem_append_right _ (List.mem_singleton.mpr hclean.symm)
    | _ => simp_all [CloseCall, OwnerPc.inClose]
  · obtain ⟨hpc, hreturned, hacc, hresults⟩ := h.frame hidle
    exact ⟨hacc.trans haccepted, .inr ⟨hpc.trans hidle, clean, hreturned.trans hret,
      fun hclean => hresults ▸ hmem hclean⟩⟩

end SbfWriteQueue
end Asterx
end AmigaDrivers
