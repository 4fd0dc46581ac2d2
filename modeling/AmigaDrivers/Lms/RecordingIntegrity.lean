import AmigaDrivers.Lms.RecordingAccounts

/-!
# The verdict on a recording is sound

`AssessRecording` looks at counters only.  Over a whole run they leave no way for a byte to
vanish: what the receiver does not hand over is an error, what `OnFrame` does not queue and
what the worker does not write is missing in a total.

* `recorder_of_reachable`: the recorder inside a recording runs as it does alone.
* `pushed_eq_of_totals`: when the totals agree, every frame was queued.
* `recording_integrity`: a recording that passes holds the bytes fed.
-/

namespace AmigaDrivers
namespace Lms
namespace Recording

variable {cfg : RecordingConfig} {s s' : Recording}

/-- A step of the recording is one of the recorder or leaves it alone. -/
theorem recorder_of_step {a : RecordingAction} (h : step cfg s a = some s') :
    s'.recorder = s.recorder ∨ ∃ b, s.recorder.step b = some s'.recorder := by
  cases a with
  | read | exit | goOn | finish =>
    dsimp only [Recording.step] at h
    split_ifs at h
    exact .inl (Option.some.inj h ▸ rfl)
  | callback clock =>
    refine .inl ?_
    dsimp only [Recording.step] at h
    split at h
    · obtain rfl := Option.some.inj h
      unfold callback
      split <;> rfl
    · obtain rfl := Option.some.inj h
      unfold finishCallback
      split <;> rfl
    · exact nomatch h
  | handOver =>
    dsimp only [Recording.step] at h
    split at h
    · obtain ⟨recorder, hcall, rfl⟩ := Option.map_eq_some_iff.mp h
      exact .inr ⟨_, hcall⟩
    · exact nomatch h
  | recorder b =>
    dsimp only [Recording.step] at h
    split at h
    · exact nomatch h
    · obtain ⟨recorder, hstep, rfl⟩ := Option.map_eq_some_iff.mp h
      exact .inr ⟨_, hstep⟩
  | ntpWatch | stopStream => exact .inl (Option.some.inj h ▸ rfl)

/-- The recorder inside a recording runs as it does alone. -/
theorem recorder_of_reachable (h : (system cfg).Reachable s) :
    (RawRecorder.system cfg.maxFileBytes cfg.queueCapacity).Reachable s.recorder := by
  refine h.invariant
    (P := fun s => (RawRecorder.system cfg.maxFileBytes cfg.queueCapacity).Reachable s.recorder) ?_ ?_
  · rintro s rfl
    exact .init rfl
  · intro s a s' hs hstep
    obtain hsame | ⟨b, hb⟩ := recorder_of_step hstep
    · exact hsame ▸ hs
    · exact .step hs hb

/-- When as many telegrams were queued as offered, every one was. -/
theorem pushed_eq_of_totals {r : RawRecorder} (hr : r.Accounts) (hidle : r.producerPc = .idle)
    (htotal : r.offered.length = r.framesQueued) : r.pushed.map Telegram.record = r.offered := by
  have horder := hr.order
  have hqueued := hr.queued
  rw [hidle] at horder hqueued
  rw [ProducerPc.held, List.append_nil] at horder
  have hlength : r.pushed.length = (RawRecorder.numbered r.offered).length := by
    rw [RawRecorder.numbered, List.length_mapIdx, htotal, hqueued]
    rfl
  rw [horder.eq_of_length hlength, RawRecorder.map_record_numbered]

/-- A finished receiver without an error report has handed over the bytes fed. -/
theorem binOf_offered (hs : s.Handled cfg) (hdone : s.pc = .finished)
    (hcrc : s.monitor.stats.crcErrors = 0) (hframing : s.monitor.stats.framingErrors = 0) :
    (∀ e ∈ s.receiver.events, e.isError = false) ∧
      binOf s.recorder.offered = s.fed.flatten := by
  have hpending : s.pending = [] := hs.quiet (hdone ▸ rfl)
  have herrors : s.monitor.stats.crcErrors + s.monitor.stats.framingErrors +
      s.pending.countP FrameEvent.isError = s.receiver.events.countP FrameEvent.isError :=
    hs.errors
  rw [hcrc, hframing, hpending] at herrors
  have hclean : ∀ e ∈ s.receiver.events, e.isError = false := by
    intro e he
    exact eq_false_of_ne_true (List.countP_eq_zero.mp herrors.symm e he)
  have hfed := hs.fed
  have horder := hs.order
  rw [hdone] at hfed
  rw [hpending, counted, hdone] at horder
  have hreceiver : s.receiver = .receive cfg.maxFrameSize s.fed := hfed
  have hframes : framesOf s.receiver.events = s.recorder.offered.map RawRecord.frame := by
    rw [horder, ReceivePc.held, List.append_nil]
    exact List.append_nil _
  have hstream := FrameReceiver.receive_clean cfg.maxFrameSize s.fed
  rw [← hreceiver] at hstream
  refine ⟨hclean, ?_⟩
  rw [← hstream]
  · have hdata := congrArg (List.map RawFrame.data) hframes
    rw [framesOf, List.map_map, List.map_map] at hdata
    rw [binOf, List.flatMap_def]
    exact congrArg List.flatten hdata.symm
  · intro e he
    cases e with
    | frame first frame => exact ⟨first, frame, rfl⟩
    | error error first last consecutive => exact absurd (hclean _ he).symm Bool.false_ne_true

/-- **A recording that passes holds the bytes fed.**  When the receive thread has been joined, the
receiver finished and the recorder stopped, and the verdict on the final counters does not fail
the data, then the BIN files in order hold exactly the bytes fed, no error was reported and no
telegram dropped.  Whatever the online check would stop the run for, fails the data. -/
theorem recording_integrity (cfg : RecordingConfig) (s : Recording)
    (h : (system cfg).Reachable s) (hfinished : s.pc = .finished)
    (hstopped : s.recorder.ownerPc = .stopped) (alreadyFailed : Bool) :
    ((s.assess alreadyFailed).dataIntegrityFailed = false →
      s.recorder.files.content = s.fed.flatten ∧
        (∀ e ∈ s.receiver.events, e.isError = false) ∧
        s.recorder.refused = [] ∧ s.recorder.discarded = []) ∧
      ∀ reason, firstDataLoss s.monitor.stats s.recorder.statistics = some reason →
        (s.assess alreadyFailed).dataIntegrityFailed = true := by
  unfold assess
  refine ⟨?_, fun reason hloss => dataIntegrityFailed_of_firstDataLoss hloss _ _ _⟩
  intro hpass
  have hnot := Bool.eq_false_iff.mp hpass
  rw [ne_eq, dataIntegrityFailed_iff] at hnot
  simp only [not_or, not_not] at hnot
  obtain ⟨-, hdropped, -, hcrc, hframing, -, hlatch, hqueued, hwritten⟩ := hnot
  have hs := handled_of_reachable h
  have hrecorder := recorder_of_reachable h
  have haccounts := RawRecorder.accounts_of_reachable hrecorder
  obtain ⟨hclean, hfed⟩ := binOf_offered hs hfinished hcrc hframing
  have hidle : s.recorder.producerPc = .idle := hs.idle (hfinished ▸ nofun)
  have hreceived : s.monitor.stats.framesReceived = s.recorder.offered.length := by
    have hreceived := hs.received
    rw [counted, hfinished, ReceivePc.held, List.append_nil] at hreceived
    exact hreceived
  have hpushed := pushed_eq_of_totals haccounts hidle (hreceived.symm.trans hqueued)
  have hsettled := (RawRecorder.accounting _ _ _ hrecorder).1 hstopped
  obtain ⟨rest, hcontent, hrest⟩ := hsettled.content
  have hnone : rest = [] := hrest.resolve_right fun h => hlatch h.1
  have hall : s.recorder.pushed.take s.recorder.statistics.framesWritten = s.recorder.pushed := by
    refine List.take_of_length_le (Nat.le_of_eq ?_)
    have hcount := hsettled.framesQueued
    rw [hidle] at hcount
    exact hcount.symm.trans hwritten
  have hgone := hsettled.framesDropped
  rw [hdropped] at hgone
  obtain ⟨hrefused, hdiscarded⟩ := List.append_eq_nil_iff.mp (List.length_eq_zero_iff.mp hgone.symm)
  refine ⟨?_, hclean, hrefused, hdiscarded⟩
  rw [hcontent, hnone, List.append_nil, hall, hpushed, hfed]

/-- One telegram that is no scan, and passes. -/
theorem recording_integrity_of_one_telegram :
    ∃ cfg s, (system cfg).Reachable s ∧ s.pc = .finished ∧ s.recorder.ownerPc = .stopped ∧
      s.fed.flatten.length = 14 ∧ s.recorder.files.content = s.fed.flatten := by
  let done : IoAnswers := ⟨true, ⟨true, 0⟩, .done, false⟩
  let clock : HostClock := ⟨7, 0, false⟩
  -- an error answer, `sFA` and 1
  let chunk : List UInt8 := [2, 2, 2, 2, 0, 0, 0, 5, 115, 70, 65, 32, 1, 85]
  let actions : List RecordingAction := List.flatten
    [List.replicate 11 (.recorder (.owner done)),
      [.read (chunk.take 9), .callback clock, .read (chunk.drop 9), .callback clock, .handOver],
      List.replicate 3 (.recorder (.producer false)),
      [.goOn, .callback clock, .exit false, .finish, .callback clock],
      List.replicate 7 (.recorder (.worker done)), [.recorder .stop],
      List.replicate 2 (.recorder (.owner done)), List.replicate 16 (.recorder (.worker done)),
      List.replicate 2 (.recorder (.owner done))]
  let cfg : RecordingConfig := ⟨⟨false, 0, fun _ => false⟩, 65536, 0, 4⟩
  have hrun : ((system cfg).exec (new cfg) actions).map (fun s =>
      (s.pc, s.recorder.ownerPc, s.fed.flatten.length,
        (s.assess false).dataIntegrityFailed)) =
      some (.finished, .stopped, 14, false) := by decide +kernel
  obtain ⟨s, hexec, hs⟩ := Option.map_eq_some_iff.mp hrun
  simp only [Prod.mk.injEq] at hs
  obtain ⟨hfinished, hstopped, hlength, hpass⟩ := hs
  have hreach : (system cfg).Reachable s := StepSystem.reachable_of_exec (.init rfl) hexec
  obtain ⟨hcontent, -⟩ := recording_integrity cfg s hreach hfinished hstopped false
  exact ⟨cfg, s, hreach, hfinished, hstopped, hlength, (hcontent hpass).1⟩

end Recording
end Lms
end AmigaDrivers
