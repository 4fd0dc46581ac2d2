import AmigaDrivers.Lms.RawRecorderAccounts

/-!
# What the files of a recording hold

Which telegrams the BIN and CSV files hold, in every state the threads of `lms4xxx::RawRecorder`
can reach.

* `Split.Intact`: the files of a split hold exactly its records and their index.
* `FileData`: the earlier splits are intact; the current one is, up to the operation the worker
  is at, and a failed write leaves at most a part of one telegram behind its records.
* `content_of_stopped`: what the BIN files hold when the recorder has stopped.
-/

namespace AmigaDrivers
namespace Lms

/-- The bytes of telegrams, one after another. -/
def binOf (records : List RawRecord) : List UInt8 := records.flatMap fun record => record.frame.data

/-- The index rows of records from an offset on. -/
def indexRows : Nat → List RawRecord → List Char
  | _, [] => []
  | offset, record :: records =>
    indexRow offset record ++ indexRows (offset + record.frame.data.length) records

/-- The index of records. -/
def csvOf (records : List RawRecord) : List Char := indexHeader ++ indexRows 0 records

theorem binOf_append (records : List RawRecord) (record : RawRecord) :
    binOf (records ++ [record]) = binOf records ++ record.frame.data := by
  simp [binOf]

theorem indexRows_append (record : RawRecord) (records : List RawRecord) :
    ∀ offset, indexRows offset (records ++ [record]) =
      indexRows offset records ++ indexRow (offset + (binOf records).length) record := by
  induction records with
  | nil =>
    intro offset
    simp [indexRows, binOf]
  | cons first records ih =>
    intro offset
    rw [List.cons_append, indexRows, indexRows, ih, List.append_assoc]
    simp [binOf, Nat.add_assoc]

theorem csvOf_append (records : List RawRecord) (record : RawRecord) :
    csvOf (records ++ [record]) = csvOf records ++ indexRow (binOf records).length record := by
  rw [csvOf, indexRows_append, Nat.zero_add, csvOf, List.append_assoc]

/-- The BIN and CSV files hold the records of a split and nothing else. -/
structure Split.Intact (split : Split) : Prop where
  bin : split.bin = some (binOf split.records)
  csv : split.csv = some (csvOf split.records)

namespace SplitFiles

/-- The counters are those of the records. -/
structure Counted (f : SplitFiles) : Prop where
  bytes : f.splitBytes = (binOf f.current.records).length
  frames : f.splitFrames = f.current.records.length
  scans : f.splitScans = f.current.records.countP RawRecord.isScan

/-- Between two records: the split is intact and its files are open. -/
structure Ready (f : SplitFiles) : Prop where
  intact : f.current.Intact
  binOpen : f.binOpen = true
  csvOpen : f.csvOpen = true

/-- Before an operation of `OpenSplit`. -/
def Opening (f : SplitFiles) : OpenStep → Prop
  | .createJson | .manifest | .createBin =>
    f.current.records = [] ∧ f.current.bin = none ∧ f.current.csv = none
  | .createCsv =>
    f.current.records = [] ∧ f.current.bin = some [] ∧ f.current.csv = none ∧ f.binOpen = true
  | .header =>
    f.current.records = [] ∧ f.current.bin = some [] ∧ f.current.csv = some [] ∧
      f.binOpen = true ∧ f.csvOpen = true
  | .syncBin | .syncCsv | .syncDirectory => f.current.records = [] ∧ f.Ready

/-- Before an operation of `CloseSplit` on an intact split, none having failed. -/
def Closing (f : SplitFiles) : CloseStep → Prop
  | .syncBin => f.binOpen = true ∧ f.csvOpen = true
  | .syncCsv => f.current.binSynced = true ∧ f.binOpen = true ∧ f.csvOpen = true
  | .closeBin =>
    f.current.binSynced = true ∧ f.current.csvSynced = true ∧ f.binOpen = true ∧ f.csvOpen = true
  | .closeCsv =>
    f.current.binSynced = true ∧ f.current.csvSynced = true ∧ f.current.binClosed = true ∧
      f.csvOpen = true
  | .finalCounts | .checkClean | .markClean =>
    f.current.binSynced = true ∧ f.current.csvSynced = true ∧ f.current.binClosed = true ∧
      f.current.csvClosed = true
  | .checkFailed | .retract | .closeJson => True

/-- Behind the records there is at most a part of a telegram. -/
def Torn (f : SplitFiles) (pending : Option Telegram) : Prop :=
  ∃ rest, f.current.bin.getD [] = binOf f.current.records ++ rest ∧
    (rest = [] ∨ ∃ t, pending = some t ∧ rest <+: t.record.frame.data)

theorem torn_of_intact {f : SplitFiles} (h : f.current.Intact) (pending : Option Telegram) :
    f.Torn pending := by
  refine ⟨[], ?_, .inl rfl⟩
  rw [h.bin, List.append_nil]
  rfl

/-- An operation of `CloseSplit` keeps an intact split intact. -/
theorem intact_closeStep {f : SplitFiles} (h : f.current.Intact) (failed : Bool) (r : IoAnswers)
    (at' : CloseStep) : (f.closeStep failed r at').1.current.Intact := by
  have hframe := f.closeStep_frame failed r at'
  simp only [Prod.mk.injEq] at hframe
  obtain ⟨-, hbin, hcsv, hrecords, -⟩ := hframe
  refine ⟨?_, ?_⟩
  · rw [hbin, hrecords]
    exact h.bin
  · rw [hcsv, hrecords]
    exact h.csv

/-- An operation of `CloseSplit` keeps what a failed write has left. -/
theorem torn_closeStep {f : SplitFiles} {pending : Option Telegram} (h : f.Torn pending)
    (failed : Bool) (r : IoAnswers) (at' : CloseStep) :
    (f.closeStep failed r at').1.Torn pending := by
  have hframe := f.closeStep_frame failed r at'
  simp only [Prod.mk.injEq] at hframe
  obtain ⟨-, hbin, -, hrecords, -⟩ := hframe
  unfold Torn
  rw [hbin, hrecords]
  exact h

/-- Without a failure, an operation of `CloseSplit` leads to the next. -/
theorem closing_closeStep {f : SplitFiles} {r : IoAnswers} {at' next : CloseStep}
    (h : f.Closing at') (hnext : (f.closeStep false r at').2.2 = some next)
    (hok : (f.closeStep false r at').2.1 = false) : (f.closeStep false r at').1.Closing next := by
  cases at' with
  | syncBin =>
    obtain ⟨hbin, hcsv⟩ := h
    simp only [closeStep, hbin, if_true, Bool.false_or, Bool.not_eq_false'] at hnext hok ⊢
    cases hnext
    exact ⟨hok, rfl, hcsv⟩
  | syncCsv =>
    obtain ⟨hsynced, hbin, hcsv⟩ := h
    simp only [closeStep, hcsv, if_true, Bool.false_or, Bool.not_eq_false'] at hnext hok ⊢
    cases hnext
    exact ⟨hsynced, hok, hbin, rfl⟩
  | closeBin =>
    obtain ⟨hsynced, hsynced', hbin, hcsv⟩ := h
    simp only [closeStep, hbin, if_true, Bool.false_or, Bool.not_eq_false'] at hnext hok ⊢
    cases hnext
    exact ⟨hsynced, hsynced', hok, hcsv⟩
  | closeCsv =>
    obtain ⟨hsynced, hsynced', hclosed, hcsv⟩ := h
    simp only [closeStep, hcsv, if_true, Bool.false_or, Bool.not_eq_false'] at hnext hok ⊢
    cases hnext
    exact ⟨hsynced, hsynced', hclosed, hok⟩
  | finalCounts =>
    simp only [closeStep] at hnext hok ⊢
    split_ifs at hnext hok ⊢ with hjson
    cases hnext
    exact h
  | checkClean =>
    simp only [closeStep] at hnext hok ⊢
    cases hnext
    exact h
  | markClean | retract =>
    simp only [closeStep] at hnext
    cases hnext
    trivial
  | checkFailed =>
    simp only [closeStep] at hnext hok
    cases hnext
    trivial
  | closeJson => exact absurd hnext (Option.some_ne_none next).symm

/-- An operation of `OpenSplit` that succeeds leads to the next, or to an empty split. -/
theorem opening_openStep {f : SplitFiles} {r : IoAnswers} {at' : OpenStep} (h : f.Opening at') :
    match (f.openStep r at').2 with
    | .threw => (f.openStep r at').1.current.records = [] ∧
        (f.openStep r at').1.current.bin.getD [] = []
    | .next next => (f.openStep r at').1.Opening next
    | .done => (f.openStep r at').1.Ready ∧ (f.openStep r at').1.current.records = [] := by
  cases at' with
  | createJson =>
    obtain ⟨hrecords, hbin, hcsv⟩ := h
    unfold openStep
    cases r.ok
    · exact ⟨hrecords, by simp [hbin]⟩
    · exact ⟨hrecords, hbin, hcsv⟩
  | manifest =>
    obtain ⟨hrecords, hbin, hcsv⟩ := h
    unfold openStep
    by_cases hdone : r.metadata = .done
    · simp only [hdone, if_true]
      exact ⟨hrecords, hbin, hcsv⟩
    · simp only [hdone, if_false]
      exact ⟨hrecords, by simp [writeMetadata, hbin]⟩
  | createBin =>
    obtain ⟨hrecords, hbin, hcsv⟩ := h
    unfold openStep
    cases r.ok
    · exact ⟨hrecords, by simp [hbin]⟩
    · exact ⟨hrecords, rfl, hcsv, rfl⟩
  | createCsv =>
    obtain ⟨hrecords, hbin, hcsv, hopen⟩ := h
    unfold openStep
    cases r.ok
    · exact ⟨hrecords, by simp [hbin]⟩
    · exact ⟨hrecords, hbin, rfl, hopen, rfl⟩
  | header =>
    obtain ⟨hrecords, hbin, hcsv, hopen, hopen'⟩ := h
    unfold openStep
    cases hok : r.write.ok
    · exact ⟨hrecords, by simp [appendCsv, hbin]⟩
    · refine ⟨hrecords, ⟨?_, ?_⟩, hopen, hopen'⟩
      · simp [appendCsv, hbin, hrecords, binOf]
      · simp [appendCsv, hcsv, hrecords, csvOf, indexRows, hok]
  | syncBin | syncCsv =>
    obtain ⟨hrecords, hready⟩ := h
    unfold openStep
    cases r.ok
    · exact ⟨hrecords, by simp [hready.intact.bin, hrecords, binOf]⟩
    · exact ⟨hrecords, hready⟩
  | syncDirectory =>
    obtain ⟨hrecords, hready⟩ := h
    unfold openStep
    cases r.ok
    · exact ⟨hrecords, by simp [hready.intact.bin, hrecords, binOf]⟩
    · exact ⟨hready, hrecords⟩

theorem Torn.of_none {f : SplitFiles} (h : f.Torn none) (pending : Option Telegram) :
    f.Torn pending := by
  obtain ⟨rest, hbin, hrest | ⟨t, ht, -⟩⟩ := h
  · exact ⟨rest, hbin, .inl hrest⟩
  · exact nomatch ht

theorem Torn.append {f : SplitFiles} {telegrams : List Telegram} (h : f.Torn telegrams.head?)
    (t : Telegram) : f.Torn (telegrams ++ [t]).head? := by
  cases telegrams with
  | nil => exact h.of_none _
  | cons => exact h

/-- The records of all splits, as the operations of `OpenSplit` and `CloseSplit` leave them. -/
theorem records_splits {f g : SplitFiles} (hearlier : g.earlier = f.earlier)
    (hrecords : g.current.records = f.current.records) :
    g.splits.flatMap Split.records = f.splits.flatMap Split.records := by
  simp only [splits, List.flatMap_append, List.flatMap_singleton, hearlier, hrecords]

theorem Counted.of_same {f g : SplitFiles} (h : f.Counted)
    (hsame : (g.splitBytes, g.splitFrames, g.splitScans, g.current.records) =
      (f.splitBytes, f.splitFrames, f.splitScans, f.current.records)) : g.Counted := by
  simp only [Prod.mk.injEq] at hsame
  obtain ⟨hbytes, hframes, hscans, hrecords⟩ := hsame
  refine ⟨?_, ?_, ?_⟩
  · rw [hbytes, hrecords]
    exact h.bytes
  · rw [hframes, hrecords]
    exact h.frames
  · rw [hscans, hrecords]
    exact h.scans

theorem Counted.closeStep {f : SplitFiles} (h : f.Counted) (failed : Bool) (r : IoAnswers)
    (at' : CloseStep) : (f.closeStep failed r at').1.Counted := by
  have hframe := f.closeStep_frame failed r at'
  simp only [Prod.mk.injEq] at hframe
  obtain ⟨-, -, -, hrecords, -, hbytes, hframes, hscans⟩ := hframe
  exact h.of_same (by rw [hrecords, hbytes, hframes, hscans])

/-- `OpenSplit` starts to count anew. -/
theorem counted_openStep {f : SplitFiles} {r : IoAnswers} {at' : OpenStep} (h : f.Opening at')
    (hcounted : at' ≠ .createJson → f.Counted) : (f.openStep r at').1.Counted := by
  cases at' with
  | createJson =>
    obtain ⟨hrecords, -⟩ := h
    unfold openStep
    cases r.ok <;> exact ⟨by simp [hrecords, binOf], by simp [hrecords], by simp [hrecords]⟩
  | manifest | header => exact (hcounted nofun).of_same rfl
  | createBin | createCsv =>
    unfold openStep
    cases r.ok <;> exact (hcounted nofun).of_same rfl
  | syncBin | syncCsv | syncDirectory => exact hcounted nofun

/-- `Append` has written the telegram to the BIN file. -/
def HasBin (f : SplitFiles) (t : Telegram) : Prop :=
  f.current.bin = some (binOf f.current.records ++ t.record.frame.data) ∧
    f.binOpen = true ∧ f.csvOpen = true

end SplitFiles

namespace RawRecorder

/-- The current split, at each program counter of the worker. -/
def WorkerData (s : RawRecorder) : Prop :=
  match s.workerPc with
  | .none =>
    s.files.earlier = [] ∧ s.files.current.records = [] ∧ s.files.current.bin.getD [] = []
  | .polling | .checkingClosed | .checkingEmpty | .appending _ | .checkingOffset _
  | .writingBin _ | .checkingFlush | .syncingBin | .syncingCsv => s.files.Ready
  | .closing at' _ =>
    s.files.current.Intact ∧ (s.failed = true ∨ s.files.Closing at')
  | .rotating _ => s.files.current.Intact
  | .opening at' _ => s.files.Opening at'
  | .writingCsv t => s.files.HasBin t ∧ s.files.current.csv = some (csvOf s.files.current.records)
  | .counting t =>
    s.files.HasBin t ∧
      s.files.current.csv =
        some (csvOf s.files.current.records ++ indexRow s.files.splitBytes t.record)
  | .failing pending => s.files.Torn pending ∧ (pending = none → s.files.Ready)
  | .refusing pending | .closingQueue pending | .countingPending pending =>
    s.failed = true ∧ s.files.Torn pending ∨ pending = none ∧ s.files.Ready
  | .discarding => s.failed = true ∧ s.files.Torn s.discarded.head? ∨ s.files.Ready
  | .closingLast at' =>
    s.failed = true ∧ s.files.Torn s.discarded.head? ∨
      s.files.current.Intact ∧ s.files.Closing at'
  | .done => s.failed = true ∧ s.files.Torn s.discarded.head? ∨ s.files.current.Intact

/-- The current split, while the owner is in `Start`. -/
def OwnerData (s : RawRecorder) : Prop :=
  match s.ownerPc with
  | .starting => s.files.Opening .createJson
  | .opening at' => s.files.Opening at'
  | .accepting | .spawning => s.files.Ready
  | .startRefusing | .startClosingQueue | .startClosing _ | .startClosingDirectory =>
    s.failed = true
  | .startFailing | .started _ | .stopRefusing | .stopClosingQueue | .stopJoining
  | .stopClosingDirectory | .stopped => True

/-- What the files hold. -/
structure FileData (s : RawRecorder) : Prop where
  earlier : ∀ split ∈ s.files.earlier, split.Intact
  records : s.files.splits.flatMap Split.records = s.written.map Telegram.record
  worker : s.WorkerData
  owner : s.OwnerData
  counted : (∀ t, s.workerPc ≠ .opening .createJson t) → s.files.Counted

theorem WorkerData.of_same {s s' : RawRecorder} (h : s.WorkerData)
    (hsame : (s'.files, s'.discarded, s'.workerPc) = (s.files, s.discarded, s.workerPc))
    (hfailed : s.failed = true → s'.failed = true) : s'.WorkerData := by
  simp only [Prod.mk.injEq] at hsame
  obtain ⟨hfiles, hdiscarded, hpc⟩ := hsame
  unfold WorkerData at h ⊢
  rw [hpc, hfiles, hdiscarded]
  generalize s.workerPc = pc at h ⊢
  cases pc with
  | closing => exact ⟨h.1, h.2.imp_left hfailed⟩
  | refusing | closingQueue | countingPending | discarding | closingLast | done =>
    exact h.imp_left (And.imp_left hfailed)
  | _ => exact h

theorem OwnerData.of_same {s s' : RawRecorder} (h : s.OwnerData)
    (hsame : (s'.files, s'.ownerPc) = (s.files, s.ownerPc))
    (hfailed : s.failed = true → s'.failed = true) : s'.OwnerData := by
  simp only [Prod.mk.injEq] at hsame
  obtain ⟨hfiles, hpc⟩ := hsame
  unfold OwnerData at h ⊢
  rw [hpc, hfiles]
  generalize s.ownerPc = pc at h ⊢
  cases pc with
  | startRefusing | startClosingQueue | startClosing | startClosingDirectory => exact hfailed h
  | _ => exact h

/-- Behind `Start` the owner leaves the files to the worker. -/
theorem ownerData_of_startReturned {s : RawRecorder} (h : startReturned s.ownerPc = true) :
    s.OwnerData := by
  unfold OwnerData
  generalize s.ownerPc = pc at h
  cases pc <;> trivial

theorem FileData.producer {s s' : RawRecorder} (hs : FileData s) (h : ProducerStep s s') :
    FileData s' := by
  cases h with
  | latch hpc =>
    exact ⟨hs.earlier, hs.records, hs.worker.of_same rfl (fun _ => rfl),
      hs.owner.of_same rfl (fun _ => rfl), hs.counted⟩
  | _ =>
    exact ⟨hs.earlier, hs.records, hs.worker.of_same rfl id, hs.owner.of_same rfl id, hs.counted⟩

/-- The steps of the worker that leave the files alone. -/
theorem WorkerMove.data {s : RawRecorder} {pc : WorkerPc} (hs : s.WorkerData)
    (h : WorkerMove s.workerPc pc) : WorkerData { s with workerPc := pc } := by
  unfold WorkerData at hs
  generalize s.workerPc = pc₀ at hs h
  cases h with
  | leave => exact .inr ⟨rfl, hs⟩
  | split t => exact ⟨hs.intact, .inr ⟨hs.binOpen, hs.csvOpen⟩⟩
  | again hpc => obtain rfl | rfl := hpc <;> exact hs
  | throws hpc =>
    obtain rfl | rfl | rfl := hpc
    · exact ⟨SplitFiles.torn_of_intact hs.intact _, nofun⟩
    · exact ⟨SplitFiles.torn_of_intact hs _, nofun⟩
    · exact ⟨SplitFiles.torn_of_intact hs.intact _, nofun⟩
  | flushThrows hpc =>
    obtain rfl | rfl := hpc <;>
      exact ⟨SplitFiles.torn_of_intact hs.intact _, fun _ => hs⟩
  | nothingPending =>
    obtain ⟨hfailed, htorn⟩ | ⟨-, hready⟩ := hs
    · exact .inl ⟨hfailed, htorn.of_none _⟩
    · exact .inr hready
  | _ => exact hs

theorem WorkerMove.not_opening {pc pc' : WorkerPc} (h : WorkerMove pc pc') (t : Telegram) :
    pc ≠ .opening .createJson t := by
  cases h with
  | again hpc => obtain rfl | rfl := hpc <;> exact nofun
  | throws hpc => obtain rfl | rfl | rfl := hpc <;> exact nofun
  | flushThrows hpc => obtain rfl | rfl := hpc <;> exact nofun
  | _ => exact nofun

/-- An operation of `CloseSplit`, whoever runs it. -/
theorem FileData.closeStep {s s' : RawRecorder} {r : IoAnswers} {at' : CloseStep}
    (hs : FileData s) (hfiles : s'.files = (s.files.closeStep s.failed r at').1)
    (hwritten : s'.written = s.written) (hpc : ∀ t, s.workerPc ≠ .opening .createJson t)
    (hworker : s'.WorkerData) (howner : s'.OwnerData) : FileData s' := by
  have hframe := s.files.closeStep_frame s.failed r at'
  simp only [Prod.mk.injEq] at hframe
  obtain ⟨hearlier, -, -, hrecords, -⟩ := hframe
  refine ⟨?_, ?_, hworker, howner, fun _ => ?_⟩
  · rw [hfiles, hearlier]
    exact hs.earlier
  · rw [hfiles, hwritten, SplitFiles.records_splits hearlier hrecords]
    exact hs.records
  · rw [hfiles]
    exact (hs.counted hpc).closeStep _ _ _

/-- An operation of `OpenSplit`, whoever runs it. -/
theorem FileData.openStep {s s' : RawRecorder} {r : IoAnswers} {at' : OpenStep}
    (hs : FileData s) (hfiles : s'.files = (s.files.openStep r at').1)
    (hwritten : s'.written = s.written) (hopening : s.files.Opening at')
    (hcounted : at' ≠ .createJson → s.files.Counted)
    (hworker : s'.WorkerData) (howner : s'.OwnerData) : FileData s' := by
  have hframe := s.files.openStep_frame r at'
  simp only [Prod.mk.injEq] at hframe
  obtain ⟨hearlier, hrecords, -⟩ := hframe
  refine ⟨?_, ?_, hworker, howner, fun _ => ?_⟩
  · rw [hfiles, hearlier]
    exact hs.earlier
  · rw [hfiles, hwritten, SplitFiles.records_splits hearlier hrecords]
    exact hs.records
  · rw [hfiles]
    exact SplitFiles.counted_openStep hopening hcounted

/-- The worker closes an intact split. -/
theorem workerData_closeSplit {s : RawRecorder} {r : IoAnswers} {at' : CloseStep} {t : Telegram}
    (hs : s.WorkerData) (hpc : s.workerPc = .closing at' t) :
    WorkerData
      { s with
        files := (s.files.closeStep s.failed r at').1
        failed := (s.files.closeStep s.failed r at').2.1
        workerPc :=
          match (s.files.closeStep s.failed r at').2.2 with
          | some next => .closing next t
          | none => .rotating t } := by
  unfold WorkerData at hs
  rw [hpc] at hs
  obtain ⟨hintact, hclosing⟩ := hs
  have hintact' := SplitFiles.intact_closeStep hintact s.failed r at'
  unfold WorkerData
  dsimp only
  cases hnext : (s.files.closeStep s.failed r at').2.2 with
  | none => exact hintact'
  | some next =>
    refine ⟨hintact', ?_⟩
    obtain hfailed | hclosing := hclosing
    · rw [hfailed]
      exact .inl (s.files.closeStep_failed r at')
    · cases hfailed : s.failed with
      | true => exact .inl (s.files.closeStep_failed r at')
      | false =>
        rw [hfailed] at hnext
        by_cases hok : (s.files.closeStep false r at').2.1 = true
        · exact .inl hok
        · exact .inr (SplitFiles.closing_closeStep hclosing hnext (eq_false_of_ne_true hok))

/-- The worker closes the last split. -/
theorem workerData_closeLast {s : RawRecorder} {r : IoAnswers} {at' : CloseStep}
    (hs : s.WorkerData) (hpc : s.workerPc = .closingLast at') :
    WorkerData
      { s with
        files := (s.files.closeStep s.failed r at').1
        failed := (s.files.closeStep s.failed r at').2.1
        workerPc :=
          match (s.files.closeStep s.failed r at').2.2 with
          | some next => .closingLast next
          | none => .done } := by
  unfold WorkerData at hs
  rw [hpc] at hs
  unfold WorkerData
  dsimp only
  obtain ⟨hfailed, htorn⟩ | ⟨hintact, hclosing⟩ := hs
  · have htorn' := SplitFiles.torn_closeStep htorn s.failed r at'
    have hfailed' : (s.files.closeStep s.failed r at').2.1 = true := by
      rw [hfailed]
      exact s.files.closeStep_failed r at'
    cases (s.files.closeStep s.failed r at').2.2 <;> exact .inl ⟨hfailed', htorn'⟩
  · have hintact' := SplitFiles.intact_closeStep hintact s.failed r at'
    have htorn' := SplitFiles.torn_of_intact hintact' s.discarded.head?
    cases hnext : (s.files.closeStep s.failed r at').2.2 with
    | none => exact .inr hintact'
    | some next =>
      cases hfailed : s.failed with
      | true =>
        rw [hfailed] at htorn'
        exact .inl ⟨s.files.closeStep_failed r at', htorn'⟩
      | false =>
        rw [hfailed] at hnext htorn' hintact'
        by_cases hok : (s.files.closeStep false r at').2.1 = true
        · exact .inl ⟨hok, htorn'⟩
        · exact .inr ⟨hintact', SplitFiles.closing_closeStep hclosing hnext (eq_false_of_ne_true hok)⟩

theorem FileData.worker_step {s s' : RawRecorder} {r : IoAnswers} (hs : FileData s)
    (hgates : Gates s) (haccounts : Accounts s) (h : WorkerStep s r s') : FileData s' := by
  have hworker := hs.worker
  -- behind `Start`, only the worker touches the files
  have howner (hborn : s.workerPc ≠ .none) : startReturned s.ownerPc = true := by
    by_contra hearly
    exact hborn (hgates.early (eq_false_of_ne_true hearly)).1
  cases h with
  | @move pc hmove =>
    exact ⟨hs.earlier, hs.records, hmove.data hworker, hs.owner.of_same rfl id,
      fun _ => hs.counted hmove.not_opening⟩
  | take hpc hitems =>
    unfold WorkerData at hworker
    rw [hpc] at hworker
    exact ⟨hs.earlier, hs.records, hworker, hs.owner.of_same rfl id,
      fun _ => hs.counted (fun t => by rw [hpc]; exact nofun)⟩
  | closeSplit hpc =>
    exact hs.closeStep rfl rfl (fun t => by rw [hpc]; exact nofun)
      (workerData_closeSplit hworker hpc)
      (ownerData_of_startReturned (howner (by rw [hpc]; exact nofun)))
  | @nextSplit t hpc hfailed =>
    unfold WorkerData at hworker
    rw [hpc] at hworker
    refine ⟨?_, ?_, ⟨rfl, rfl, rfl⟩, ?_, fun h => absurd rfl (h t)⟩
    · intro split hsplit
      obtain hsplit | hsplit := List.mem_append.mp hsplit
      · exact hs.earlier split hsplit
      · rw [List.mem_singleton.mp hsplit]
        exact hworker
    · show (s.files.splits ++ [({} : Split)]).flatMap Split.records = _
      rw [List.flatMap_append, hs.records]
      exact List.append_nil _
    · exact ownerData_of_startReturned (howner (by rw [hpc]; exact nofun))
  | @openSplit at' t hpc =>
    unfold WorkerData at hworker
    rw [hpc] at hworker
    refine hs.openStep rfl rfl hworker ?_ ?_
      (ownerData_of_startReturned (howner (by rw [hpc]; exact nofun)))
    · intro hne
      refine hs.counted (fun t' => ?_)
      rw [hpc]
      intro h
      exact hne (WorkerPc.opening.inj h).1
    · have hnext := SplitFiles.opening_openStep (r := r) hworker
      unfold WorkerData
      dsimp only
      generalize (s.files.openStep r at').2 = outcome at hnext ⊢
      cases outcome with
      | threw =>
        refine ⟨⟨[], ?_, .inl rfl⟩, nofun⟩
        dsimp only at hnext ⊢
        rw [hnext.1, hnext.2]
        rfl
      | next => exact hnext
      | done => exact hnext.1
  | @writeBin t hpc =>
    unfold WorkerData at hworker
    rw [hpc] at hworker
    refine ⟨hs.earlier,
      Eq.trans (b := s.files.splits.flatMap Split.records) (SplitFiles.records_splits rfl rfl) hs.records, ?_,
      ownerData_of_startReturned (howner (by rw [hpc]; exact nofun)),
      fun _ => (hs.counted (fun t' => by rw [hpc]; exact nofun)).of_same rfl⟩
    unfold WorkerData
    dsimp only [SplitFiles.appendBin]
    rw [hworker.intact.bin]
    cases hok : r.write.ok with
    | true => exact ⟨⟨rfl, hworker.binOpen, hworker.csvOpen⟩, hworker.intact.csv⟩
    | false =>
      exact ⟨⟨t.record.frame.data.take r.write.taken, rfl, .inr ⟨t, rfl, List.take_prefix _ _⟩⟩, nofun⟩
  | @writeCsv t hpc =>
    unfold WorkerData at hworker
    rw [hpc] at hworker
    obtain ⟨⟨hbin, hopen⟩, hcsv⟩ := hworker
    refine ⟨hs.earlier,
      Eq.trans (b := s.files.splits.flatMap Split.records) (SplitFiles.records_splits rfl rfl) hs.records, ?_,
      ownerData_of_startReturned (howner (by rw [hpc]; exact nofun)),
      fun _ => (hs.counted (fun t' => by rw [hpc]; exact nofun)).of_same rfl⟩
    unfold WorkerData
    dsimp only [SplitFiles.appendCsv]
    rw [hcsv]
    cases hok : r.write.ok with
    | true => exact ⟨⟨hbin, hopen⟩, rfl⟩
    | false =>
      refine ⟨⟨t.record.frame.data, ?_, .inr ⟨t, rfl, List.prefix_refl _⟩⟩, nofun⟩
      dsimp only
      rw [hbin]
      rfl
  | @count t hpc =>
    unfold WorkerData at hworker
    rw [hpc] at hworker
    obtain ⟨⟨hbin, hopen⟩, hcsv⟩ := hworker
    have hcounted := hs.counted (fun t' => by rw [hpc]; exact nofun)
    refine ⟨hs.earlier, ?_, ⟨⟨?_, ?_⟩, hopen.1, hopen.2⟩,
      ownerData_of_startReturned (howner (by rw [hpc]; exact nofun)), fun _ => ⟨?_, ?_, ?_⟩⟩
    · have hrecords := hs.records
      simp only [SplitFiles.splits, SplitFiles.countRecord, List.flatMap_append,
        List.flatMap_singleton, List.map_append, List.map_singleton] at hrecords ⊢
      rw [← List.append_assoc, hrecords]
    · show s.files.current.bin = some (binOf (s.files.current.records ++ [t.record]))
      rw [hbin, binOf_append]
    · show s.files.current.csv = some (csvOf (s.files.current.records ++ [t.record]))
      rw [hcsv, hcounted.bytes, csvOf_append]
    · show s.files.splitBytes + _ = (binOf (s.files.current.records ++ [t.record])).length
      rw [binOf_append, List.length_append, hcounted.bytes]
    · show s.files.splitFrames + 1 = (s.files.current.records ++ [t.record]).length
      rw [List.length_append, List.length_singleton, hcounted.frames]
    · show s.files.splitScans + _ = (s.files.current.records ++ [t.record]).countP RawRecord.isScan
      rw [List.countP_append, List.countP_singleton, hcounted.scans]
  | @latch pending hpc =>
    unfold WorkerData at hworker
    rw [hpc] at hworker
    exact ⟨hs.earlier, hs.records, .inl ⟨rfl, hworker.1⟩, hs.owner.of_same rfl (fun _ => rfl),
      fun _ => hs.counted (fun t' => by rw [hpc]; exact nofun)⟩
  | stopIntake hpc =>
    unfold WorkerData at hworker
    rw [hpc] at hworker
    exact ⟨hs.earlier, hs.records, hworker, hs.owner.of_same rfl id,
      fun _ => hs.counted (fun t' => by rw [hpc]; exact nofun)⟩
  | closeQueue hpc =>
    unfold WorkerData at hworker
    rw [hpc] at hworker
    exact ⟨hs.earlier, hs.records, hworker, hs.owner.of_same rfl id,
      fun _ => hs.counted (fun t' => by rw [hpc]; exact nofun)⟩
  | @discardPending t hpc =>
    have hnone : s.discarded = [] := haccounts.nothing (by rw [hpc]; rfl)
    unfold WorkerData at hworker
    rw [hpc] at hworker
    refine ⟨hs.earlier, hs.records, ?_, hs.owner.of_same rfl id,
      fun _ => hs.counted (fun t' => by rw [hpc]; exact nofun)⟩
    obtain ⟨hfailed, htorn⟩ | ⟨hsome, -⟩ := hworker
    · refine .inl ⟨hfailed, ?_⟩
      show s.files.Torn (s.discarded ++ [t]).head?
      rw [hnone]
      exact htorn
    · exact nomatch hsome
  | @discard t items hpc hitems =>
    unfold WorkerData at hworker
    rw [hpc] at hworker
    exact ⟨hs.earlier, hs.records, hworker.imp_left (And.imp_right fun htorn => htorn.append t),
      hs.owner.of_same rfl id, fun _ => hs.counted (fun t' => by rw [hpc]; exact nofun)⟩
  | drained hpc hitems =>
    unfold WorkerData at hworker
    rw [hpc] at hworker
    exact ⟨hs.earlier, hs.records,
      hworker.imp_right (fun hready => ⟨hready.intact, hready.binOpen, hready.csvOpen⟩),
      hs.owner.of_same rfl id, fun _ => hs.counted (fun t' => by rw [hpc]; exact nofun)⟩
  | closeLast hpc =>
    exact hs.closeStep rfl rfl (fun t => by rw [hpc]; exact nofun)
      (workerData_closeLast hworker hpc)
      (ownerData_of_startReturned (howner (by rw [hpc]; exact nofun)))

/-- Without a worker the files hold no telegram. -/
theorem workerData_none {s : RawRecorder} (hpc : s.workerPc = .none)
    (hearlier : s.files.earlier = []) (hrecords : s.files.current.records = [])
    (hbin : s.files.current.bin.getD [] = []) : s.WorkerData := by
  unfold WorkerData
  rw [hpc]
  exact ⟨hearlier, hrecords, hbin⟩

theorem FileData.owner_step {s s' : RawRecorder} {r : IoAnswers} (hs : FileData s)
    (hgates : Gates s) (h : OwnerStep s r s') : FileData s' := by
  have howner := hs.owner
  have hworker := hs.worker
  -- in `Start` there is no worker yet
  have hnone {pc : RecorderOwnerPc} (hpc : s.ownerPc = pc) (hearly : startReturned pc = false) :
      s.workerPc = .none :=
    (hgates.early (hpc ▸ hearly)).1
  have hcounted {pc : RecorderOwnerPc} (hpc : s.ownerPc = pc) (hearly : startReturned pc = false) :
      s.files.Counted :=
    hs.counted (fun t => by rw [hnone hpc hearly]; exact nofun)
  cases h with
  | @move pc hmove =>
    refine ⟨hs.earlier, hs.records, hworker.of_same rfl id, ?_, hs.counted⟩
    generalize s.ownerPc = pc₀ at hmove
    cases hmove <;> trivial
  | openDirectory hpc =>
    unfold OwnerData at howner
    rw [hpc] at howner
    exact ⟨hs.earlier, hs.records, hworker.of_same rfl id, howner, hs.counted⟩
  | @openSplit at' hpc =>
    unfold OwnerData at howner
    unfold WorkerData at hworker
    rw [hpc] at howner
    rw [hnone hpc rfl] at hworker
    have hnext := SplitFiles.opening_openStep (r := r) howner
    have hframe := s.files.openStep_frame r at'
    simp only [Prod.mk.injEq] at hframe
    obtain ⟨hearlier, hrecords, -⟩ := hframe
    refine hs.openStep rfl rfl howner (fun _ => hcounted hpc rfl) ?_ ?_
    · refine workerData_none (hnone hpc rfl) (hearlier.trans hworker.1)
        (hrecords.trans hworker.2.1) ?_
      dsimp only
      generalize (s.files.openStep r at').2 = outcome at hnext
      cases outcome with
      | threw => exact hnext.2
      | next next =>
        have hbin := hnext
        cases next <;> simp only [SplitFiles.Opening] at hbin
        · rw [hbin.2.1]
          rfl
        · rw [hbin.2.1]
          rfl
        · rw [hbin.2.1]
          rfl
        · rw [hbin.2.1]
          rfl
        · rw [hbin.2.1]
          rfl
        · rw [hbin.2.intact.bin, hbin.1]
          rfl
        · rw [hbin.2.intact.bin, hbin.1]
          rfl
        · rw [hbin.2.intact.bin, hbin.1]
          rfl
      | done =>
        dsimp only at hnext
        rw [hnext.1.intact.bin, hnext.2]
        rfl
    · unfold OwnerData
      dsimp only
      generalize (s.files.openStep r at').2 = outcome at hnext ⊢
      cases outcome with
      | threw => trivial
      | next => exact hnext
      | done => exact hnext.1
  | accept hpc =>
    unfold OwnerData at howner
    rw [hpc] at howner
    exact ⟨hs.earlier, hs.records, hworker.of_same rfl id, howner, hs.counted⟩
  | spawn hpc =>
    unfold OwnerData at howner
    rw [hpc] at howner
    exact ⟨hs.earlier, hs.records, howner, trivial, fun _ => hcounted hpc rfl⟩
  | latch hpc =>
    exact ⟨hs.earlier, hs.records, hworker.of_same rfl (fun _ => rfl), rfl, hs.counted⟩
  | refuse hpc =>
    refine ⟨hs.earlier, hs.records, hworker.of_same rfl id, ?_, hs.counted⟩
    obtain ⟨hpc, rfl⟩ | ⟨hpc, rfl⟩ := hpc
    · unfold OwnerData at howner
      rw [hpc] at howner
      exact howner
    · trivial
  | closeQueue hpc =>
    refine ⟨hs.earlier, hs.records, hworker.of_same rfl id, ?_, hs.counted⟩
    obtain ⟨hpc, rfl⟩ | ⟨hpc, rfl⟩ := hpc
    · unfold OwnerData at howner
      rw [hpc] at howner
      exact howner
    · trivial
  | @closeSplit at' hpc =>
    unfold OwnerData at howner
    unfold WorkerData at hworker
    rw [hpc] at howner
    rw [hnone hpc rfl] at hworker
    have hframe := s.files.closeStep_frame s.failed r at'
    simp only [Prod.mk.injEq] at hframe
    obtain ⟨hearlier, hbin, -, hrecords, -⟩ := hframe
    refine hs.closeStep rfl rfl (fun t => by rw [hnone hpc rfl]; exact nofun) ?_ ?_
    · refine workerData_none (hnone hpc rfl) (hearlier.trans hworker.1)
        (hrecords.trans hworker.2.1) ?_
      dsimp only
      rw [hbin]
      exact hworker.2.2
    · have hfailed : (s.files.closeStep s.failed r at').2.1 = true := by
        rw [howner]
        exact s.files.closeStep_failed r at'
      unfold OwnerData
      dsimp only
      cases (s.files.closeStep s.failed r at').2.2 <;> exact hfailed
  | closeDirectory hpc =>
    have hfailed : s.failed = true → (s.closeDirectory r).failed = true := by
      intro hfailed
      show (s.failed || (s.directoryOpen && !r.ok)) = true
      rw [hfailed]
      rfl
    refine ⟨hs.earlier, hs.records, hworker.of_same rfl hfailed, ?_, hs.counted⟩
    obtain ⟨-, rfl⟩ | ⟨-, rfl⟩ := hpc <;> trivial

theorem FileData.step {s s' : RawRecorder} {a : RecorderAction} (hs : FileData s)
    (hgates : Gates s) (haccounts : Accounts s) (h : s.step a = some s') : FileData s' := by
  cases a with
  | onFrame record =>
    obtain ⟨-, -, rfl⟩ := onFrame_inv h
    exact ⟨hs.earlier, hs.records, hs.worker.of_same rfl id, hs.owner.of_same rfl id, hs.counted⟩
  | producer threw => exact hs.producer (producerStep_inv h)
  | worker r => exact hs.worker_step hgates haccounts (workerStep_inv h)
  | owner r => exact hs.owner_step hgates (ownerStep_inv h)
  | stop =>
    obtain ⟨-, rfl⟩ := stop_inv h
    exact ⟨hs.earlier, hs.records, hs.worker.of_same rfl id, trivial, hs.counted⟩

/-- **The files hold the written telegrams in every reachable state.** -/
theorem fileData_of_reachable {maxFileBytes capacity : Nat} {s : RawRecorder}
    (h : (system maxFileBytes capacity).Reachable s) : FileData s := by
  refine h.invariant_of
    (Q := fun s => Gates s ∧ Accounts s)
    (fun s hs => ⟨gates_of_reachable hs, accounts_of_reachable hs⟩) ?_ ?_
  · rintro s rfl
    exact ⟨nofun, rfl, ⟨rfl, rfl, rfl⟩, ⟨rfl, rfl, rfl⟩, fun _ => ⟨rfl, rfl, rfl⟩⟩
  · intro s a s' hq hs hstep
    exact hs.step hq.1 hq.2 hstep

end RawRecorder
end Lms
end AmigaDrivers
