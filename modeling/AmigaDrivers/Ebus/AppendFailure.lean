import AmigaDrivers.Ebus.RawRecorderRun

/-!
# An `Append` that throws

* `append_failure`: the record is there and counted, or nothing of it is there, or the rollback of
  a part of it has failed; no later `Append` touches a file.
* `records_wrap`: the counter of the records has 64 bits.
-/

namespace AmigaDrivers
namespace Ebus
namespace RawRecorder

open Effect

variable {dump : Dump} {r : RawRecorder}

/-- What an `Append` that is not refused leaves when it throws. -/
structure FailedAppend (dump : Dump) (buffer : RawBuffer) (before after : RawRecorder)
    (e : String) : Prop where
  latched : after.failed = true
  left : before.view.Untouched after.view ∨ before.view.Written dump buffer false after.view ∨
    e = rollbackFailed ∧ before.view.TornRecord dump buffer after.view

theorem failedAppend_of_error (h : Stored r) (hrefuses : r.refuses = false) {buffer : RawBuffer}
    {answers : List Answer} {clock : List UInt64} {e : String} {r' : RawRecorder}
    (hthrow : (append dump buffer).outcome { r with answers, clock } = (.error e, r')) :
    FailedAppend dump buffer r r' e := by
  have hfailed : r.failed = false := (Bool.or_eq_false_iff.mp hrefuses).2
  obtain ⟨segments, -, hintact⟩ := h.files
  have hwhole := (hintact hfailed).whole (h.live hrefuses)
  have hafter : After _ _ ((append dump buffer).outcome { r with answers, clock }) :=
    triple_append_at hwhole buffer _ ⟨hrefuses, rfl⟩
  rw [hthrow] at hafter
  exact ⟨hafter.1, hafter.2⟩

/-- A latched failure refuses every later `Append`. -/
theorem append_of_steps (h : (system dump).Reachable r) (hfailed : r.failed = true)
    {s : RawRecorder} (hs : (system dump).Steps r s) (buffer : RawBuffer) (answers : List Answer)
    (clock : List UInt64) :
    (append dump buffer).outcome { s with answers, clock } =
      (.error "raw recorder is closed or failed", { s with answers, clock }) := by
  have hlatched : s.failed = true := by
    refine hs.stable (P := fun s => s.failed = true) ?_ h hfailed
    rintro s c _ - hfailed ⟨⟩
    exact failed_step dump hfailed c
  refine append_of_refused ?_ buffer
  rw [hlatched, Bool.or_true]

/-- **An `Append` that throws.**  In every recorder, the complete records in the segment files are
counted, in 64 bits.  An `Append` that throws was refused and changed nothing; or it latched a
failure, and the whole record is there and counted, or nothing of it is there and nothing was
counted, or its rollback failed.  From then on every `Append` is refused. -/
theorem append_failure (h : (system dump).Reachable r) :
    r.records = completeRecords r.sse42 r.view.contents % 2 ^ 64 ∧
    (∀ buffer answers clock e r',
      (append dump buffer).outcome { r with answers, clock } = (.error e, r') →
        r.refuses = true ∧ r' = { r with answers, clock } ∨ FailedAppend dump buffer r r' e) ∧
    (r.failed = true → ∀ s, (system dump).Steps r s → ∀ buffer answers clock,
      (append dump buffer).outcome { s with answers, clock } =
        (.error "raw recorder is closed or failed", { s with answers, clock })) := by
  have hstored := stored_of_reachable h
  refine ⟨?_, fun buffer answers clock e r' hthrow => ?_, fun hfailed s hs => ?_⟩
  · obtain ⟨segments, hleft, -⟩ := hstored.files
    have hcomplete : completeRecords r.sse42 r.view.contents = total segments :=
      hleft.disk.completeRecords_eq
    rw [hcomplete]
    exact hleft.records
  · cases hrefuses : r.refuses with
    | true =>
      have hsame : (append dump buffer).outcome { r with answers, clock } =
          (.error "raw recorder is closed or failed", { r with answers, clock }) :=
        append_of_refused (r := { r with answers, clock }) hrefuses buffer
      exact .inl ⟨rfl, (Prod.mk.inj (hsame.symm.trans hthrow)).2.symm⟩
    | false => exact .inr (failedAppend_of_error hstored hrefuses hthrow)
  · exact append_of_steps h hfailed hs

/-- A disk that is full after eight bytes of a record. -/
theorem append_failure_no_space :
    ∃ e r', (append LongRecording.dump LongRecording.buffer).outcome { LongRecording.opened with
        answers := [.short 8, .failed "No space left on device"], clock := [] } = (.error e, r') ∧
      FailedAppend LongRecording.dump LongRecording.buffer LongRecording.opened r' e := by
  have hthrow : (append LongRecording.dump LongRecording.buffer).outcome { LongRecording.opened with
      answers := [.short 8, .failed "No space left on device"], clock := [] } = (.error _, _) := rfl
  obtain ⟨-, hfailure, -⟩ := append_failure LongRecording.after_opened.reachable
  exact ⟨_, _, hthrow, (hfailure _ _ _ _ _ hthrow).resolve_left fun h => nomatch h.1⟩

/-- The counter of the records starts again after `2 ^ 64` of them. -/
theorem records_wrap :
    ∃ r, (system LongRecording.dump).Reachable r ∧ r.failed = false ∧
      completeRecords r.sse42 r.view.contents = 2 ^ 64 ∧ r.records = 0 := by
  obtain ⟨r, hr⟩ := LongRecording.exists_after (n := 2 ^ 64) (Nat.le_succ _)
  refine ⟨r, hr.reachable, (Bool.or_eq_false_iff.mp hr.refuses).2, hr.complete, ?_⟩
  obtain ⟨segments, hleft, -⟩ := (stored_of_reachable hr.reachable).files
  have hcomplete : completeRecords r.sse42 r.view.contents = total segments :=
    hleft.disk.completeRecords_eq
  have hrecords : r.records = total segments % 2 ^ 64 := hleft.records
  rw [hrecords, ← hcomplete, hr.complete, Nat.mod_self]

end RawRecorder
end Ebus
end AmigaDrivers
