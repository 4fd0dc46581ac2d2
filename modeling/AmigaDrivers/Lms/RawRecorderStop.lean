import AmigaDrivers.Lms.RawRecorderFiles

/-!
# What a stopped recorder has done

When `Stop` of `lms4xxx::RawRecorder` has returned, every telegram has an outcome, the counters
tell the outcomes, and the BIN files hold the written telegrams.

* `content_eq`: the BIN files hold the written telegrams and what a failed write has left.
* `pushed_of_closed`: a closed queue stays closed and takes nothing.
* `accounting`: the accounts of a stopped recorder.
-/

namespace AmigaDrivers
namespace Lms
namespace RawRecorder

/-! ## The BIN files -/

theorem bin_of_intact (splits : List Split) (h : ∀ split ∈ splits, split.Intact) :
    (splits.flatMap fun split => split.bin.getD []) = binOf (splits.flatMap Split.records) := by
  induction splits with
  | nil => rfl
  | cons split splits ih =>
    rw [List.flatMap_cons, List.flatMap_cons, ih (fun other hother =>
      h other (List.mem_cons_of_mem split hother)), (h split List.mem_cons_self).bin]
    exact (List.flatMap_append).symm

/-- The BIN files hold the written telegrams, and behind them what the current split holds beyond
its records. -/
theorem content_eq {s : RawRecorder} (hs : FileData s) {rest : List UInt8}
    (hrest : s.files.current.bin.getD [] = binOf s.files.current.records ++ rest) :
    s.files.content = binOf (s.written.map Telegram.record) ++ rest := by
  rw [← hs.records, SplitFiles.content, SplitFiles.splits, List.flatMap_append,
    List.flatMap_append, bin_of_intact _ hs.earlier, List.flatMap_singleton,
    List.flatMap_singleton, hrest, ← List.append_assoc]
  congr 1
  exact (List.flatMap_append).symm

/-- The worker is done, or there is none. -/
theorem atRest_of_stopped {s : RawRecorder} (hgates : Gates s) (haccounts : Accounts s)
    (hdata : FileData s) (hstop : s.ownerPc = .stopped) :
    s.pushed = s.written ++ s.discarded ∧
      ∃ rest, s.files.current.bin.getD [] = binOf s.files.current.records ++ rest ∧
        (rest = [] ∨ s.failed = true ∧
          ∃ t, s.discarded.head? = some t ∧ rest <+: t.record.frame.data) := by
  have hfifo := haccounts.fifo
  have hworker := hdata.worker
  unfold WorkerData at hworker
  obtain hpc | hpc := hgates.joined (.inr hstop)
  · rw [hpc] at hfifo hworker
    rw [(hgates.noWorker hpc).1, WorkerPc.held, List.append_nil, List.append_nil] at hfifo
    refine ⟨hfifo, [], ?_, .inl rfl⟩
    rw [hworker.2.1, hworker.2.2]
    rfl
  · rw [hpc] at hfifo hworker
    rw [hgates.empty (by rw [hpc]; rfl), WorkerPc.held, List.append_nil, List.append_nil] at hfifo
    refine ⟨hfifo, ?_⟩
    obtain ⟨hfailed, rest, hbin, hrest⟩ | hintact := hworker
    · exact ⟨rest, hbin, hrest.imp_right (fun h => ⟨hfailed, h⟩)⟩
    · obtain ⟨rest, hbin, hrest⟩ := SplitFiles.torn_of_intact hintact none
      obtain hrest | ⟨t, ht, -⟩ := hrest
      · exact ⟨rest, hbin, .inl hrest⟩
      · cases ht

/-! ## The queue -/

/-- A closed queue stays closed and takes nothing. -/
theorem pushed_of_closed_step {s s' : RawRecorder} {a : RecorderAction}
    (hclosed : s.queue.closed = true) (h : s.step a = some s') :
    s'.queue.closed = true ∧ s'.pushed = s.pushed := by
  cases a with
  | onFrame record =>
    obtain ⟨-, -, rfl⟩ := onFrame_inv h
    exact ⟨hclosed, rfl⟩
  | producer threw =>
    cases producerStep_inv h with
    | push hpc hopen => exact nomatch hclosed.symm.trans hopen
    | closeQueue => exact ⟨rfl, rfl⟩
    | _ => exact ⟨hclosed, rfl⟩
  | worker r =>
    cases workerStep_inv h with
    | closeQueue => exact ⟨rfl, rfl⟩
    | _ => exact ⟨hclosed, rfl⟩
  | owner r =>
    cases ownerStep_inv h with
    | closeQueue => exact ⟨rfl, rfl⟩
    | _ => exact ⟨hclosed, rfl⟩
  | stop =>
    obtain ⟨-, rfl⟩ := stop_inv h
    exact ⟨hclosed, rfl⟩

theorem pushed_of_closed {maxFileBytes capacity : Nat} {s t : RawRecorder}
    (hclosed : s.queue.closed = true) (hrun : (system maxFileBytes capacity).Steps s t) :
    t.queue.closed = true ∧ t.pushed = s.pushed := by
  induction hrun with
  | refl => exact ⟨hclosed, rfl⟩
  | tail _ hstep ih =>
    obtain ⟨hclosed', hpushed⟩ := pushed_of_closed_step ih.1 hstep
    exact ⟨hclosed', hpushed.trans ih.2⟩

/-! ## The accounts -/

/-- Every offered telegram `OnFrame` is done with has one outcome. -/
theorem count_offered {s : RawRecorder} (hs : Accounts s)
    (hpushed : s.pushed = s.written ++ s.discarded) {i : Nat} (hi : i < s.offered.length)
    (hdone : ⟨i, s.offered[i]⟩ ∉ s.producerPc.held) :
    (s.written ++ (s.refused ++ s.discarded)).count ⟨i, s.offered[i]⟩ = 1 := by
  have hone : (numbered s.offered).count ⟨i, s.offered[i]⟩ = 1 :=
    List.count_eq_one_of_mem (nodup_numbered s.offered) (mem_numbered hi)
  rw [← hs.offered.count_eq, hpushed] at hone
  simp only [List.count_append, List.count_eq_zero_of_not_mem hdone] at hone ⊢
  omega

/-- The accounts of a stopped recorder. -/
structure Settled (s : RawRecorder) : Prop where
  /-- every telegram `OnFrame` is done with is counted once -/
  counted : ∀ (i : Nat) (hi : i < s.offered.length), ⟨i, s.offered[i]⟩ ∉ s.producerPc.held →
    (s.written ++ (s.refused ++ s.discarded)).count ⟨i, s.offered[i]⟩ = 1
  framesWritten : s.statistics.framesWritten = s.written.length
  framesDropped : s.statistics.framesDropped = (s.refused ++ s.discarded).length
  framesQueued : s.statistics.framesQueued + s.producerPc.uncounted = s.pushed.length
  /-- the written ones are the first of the queued ones -/
  written : s.written = s.pushed.take s.statistics.framesWritten
  /-- the other queued ones are dropped behind the queue -/
  discarded : s.discarded = s.pushed.drop s.statistics.framesWritten
  /-- the BIN files -/
  content : ∃ rest,
    s.files.content =
        binOf ((s.pushed.take s.statistics.framesWritten).map Telegram.record) ++ rest ∧
      (rest = [] ∨ s.failed = true ∧ ∃ t,
        s.pushed[s.statistics.framesWritten]? = some t ∧ rest <+: t.record.frame.data)

/-- **When `Stop` has returned the accounts are settled, and a closed queue takes nothing.** -/
theorem accounting (maxFileBytes capacity : Nat) (s : RawRecorder)
    (h : (system maxFileBytes capacity).Reachable s) :
    (s.ownerPc = .stopped → s.Settled) ∧
      (s.queue.closed = true →
        ∀ t, (system maxFileBytes capacity).Steps s t → t.pushed = s.pushed) := by
  refine ⟨?_, fun hclosed t hrun => (pushed_of_closed hclosed hrun).2⟩
  intro hstop
  have haccounts := accounts_of_reachable h
  have hdata := fileData_of_reachable h
  obtain ⟨hpushed, rest, hrest, htorn⟩ :=
    atRest_of_stopped (gates_of_reachable h) haccounts hdata hstop
  have hwritten : s.written = s.pushed.take s.framesWritten := by
    rw [haccounts.written, hpushed, List.take_left]
  have hdiscarded : s.discarded = s.pushed.drop s.framesWritten := by
    rw [haccounts.written, hpushed, List.drop_left]
  refine ⟨?_, haccounts.written, ?_, haccounts.queued.symm, hwritten, hdiscarded, rest, ?_, ?_⟩
  · intro i hi hdone
    exact count_offered haccounts hpushed hi hdone
  · rw [List.length_append]
    exact haccounts.dropped
  · show s.files.content = binOf ((s.pushed.take s.framesWritten).map Telegram.record) ++ rest
    rw [← hwritten]
    exact content_eq hdata hrest
  · refine htorn.imp_right (And.imp_right ?_)
    rintro ⟨t, ht, hprefix⟩
    refine ⟨t, ?_, hprefix⟩
    rw [hdiscarded, List.head?_drop] at ht
    exact ht

/-- A recorder whose first row cannot be written. -/
theorem accounting_of_failed_row :
    ∃ s, (system 0 1).Reachable s ∧ s.ownerPc = .stopped ∧ s.failed = true ∧
      s.offered.length = 1 ∧ s.Settled ∧
      ∀ t, (system 0 1).Steps s t → t.pushed = s.pushed := by
  let done : IoAnswers := ⟨true, ⟨true, 0⟩, .done, false⟩
  let failed : IoAnswers := ⟨true, ⟨false, 3⟩, .done, false⟩
  let record : RawRecord := { frame := ⟨[2, 3], true⟩, receiveTimestampUs := 7 }
  let actions : List RecorderAction := List.flatten
    [List.replicate 11 (.owner done), [.onFrame record], List.replicate 3 (.producer false),
      List.replicate 4 (.worker done), [.worker failed], List.replicate 14 (.worker done), [.stop],
      List.replicate 4 (.owner done)]
  have hrun : ((system 0 1).exec (new 0 1) actions).map
      (fun s => (s.ownerPc, s.failed, s.queue.closed, s.offered.length)) =
        some (.stopped, true, true, 1) := by decide +kernel
  obtain ⟨s, hexec, hs⟩ := Option.map_eq_some_iff.mp hrun
  obtain ⟨hstopped, hs⟩ := Prod.mk.inj hs
  obtain ⟨hfailed, hs⟩ := Prod.mk.inj hs
  obtain ⟨hclosed, hoffered⟩ := Prod.mk.inj hs
  have hreach := StepSystem.reachable_of_exec (.init rfl) hexec
  obtain ⟨hsettled, hpushed⟩ := accounting 0 1 s hreach
  exact ⟨s, hreach, hstopped, hfailed, hoffered, hsettled hstopped, hpushed hclosed⟩

end RawRecorder
end Lms
end AmigaDrivers
