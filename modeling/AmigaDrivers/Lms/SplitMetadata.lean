import AmigaDrivers.Lms.RawRecorderFiles

/-!
# The sidecar of a split

The JSON file beside a split says `closed_cleanly` only of a split whose data files are complete.
`CloseSplit` writes the flag before its last look at the failure latch and takes it back when
something has failed, so the flag may stand wrongly between the two; behind `CloseSplit` it
stands only when it is right, unless taking it back has failed too.

* `Split.Honest`: a sidecar that says so tells the truth.
* `Marks`: the sidecar of the current split, at each operation of `CloseSplit`.
* `sidecar_honest`: the sidecars that are left.
-/

namespace AmigaDrivers
namespace Lms

/-- What `closed_cleanly` says of a split. -/
structure Split.Clean (split : Split) (doc : SplitMetadata) : Prop where
  /-- no failure was latched when the flag had been written -/
  failed : split.failedAtMark = some false
  binSynced : split.binSynced = true
  csvSynced : split.csvSynced = true
  binClosed : split.binClosed = true
  csvClosed : split.csvClosed = true
  intact : split.Intact
  frames : doc.framesTotal = split.records.length
  scans : doc.scansTotal = split.records.countP RawRecord.isScan
  bytes : doc.bytesTotal = (binOf split.records).length

/-- When the sidecar says `closed_cleanly`, it is so. -/
def Split.Honest (split : Split) : Prop :=
  ∀ doc, split.sidecar = .document doc → doc.closedCleanly = true → split.Clean doc

/-- The sidecar does not say `closed_cleanly`. -/
def Split.Unmarked (split : Split) : Prop :=
  ∀ doc, split.sidecar = .document doc → doc.closedCleanly = false

theorem Split.Unmarked.honest {split : Split} (h : split.Unmarked) : split.Honest := by
  intro doc hdoc hclean
  exact nomatch (h doc hdoc).symm.trans hclean

namespace SplitFiles

/-- The sidecar of the current split is still unmarked, or final. -/
def Pending (f : SplitFiles) : Prop :=
  f.current.Unmarked ∨
    f.binOpen = false ∧ f.csvOpen = false ∧ f.jsonOpen = false ∧
      (f.current.Honest ∨ f.retractFailed = true)

/-- The sidecar of the current split, at each operation of `CloseSplit`. -/
def Marks (f : SplitFiles) (failed : Bool) : Option CloseStep → Prop
  | none | some .syncBin | some .syncCsv | some .closeBin => f.Pending
  | some .closeCsv => f.binOpen = false ∧ f.Pending
  | some .finalCounts => f.binOpen = false ∧ f.csvOpen = false ∧ f.Pending
  | some .checkClean | some .markClean | some .retract => f.binOpen = false ∧ f.csvOpen = false
  | some .checkFailed =>
    f.binOpen = false ∧ f.csvOpen = false ∧ (f.current.Honest ∨ failed = true)
  | some .closeJson =>
    f.binOpen = false ∧ f.csvOpen = false ∧ (f.current.Honest ∨ f.retractFailed = true)

theorem Marks.of_failed {f : SplitFiles} {failed failed' : Bool} {at' : Option CloseStep}
    (h : f.Marks failed at') (hfailed : failed = true → failed' = true) : f.Marks failed' at' := by
  obtain _ | at' := at'
  · exact h
  · cases at' with
    | checkFailed => exact ⟨h.1, h.2.1, h.2.2.imp_right hfailed⟩
    | _ => exact h

/-- A metadata write without the flag leaves none that was not there. -/
theorem unmarked_writeMetadata {f : SplitFiles} {r : MetadataResult}
    (h : f.current.Unmarked ∨ r = .done) : (f.writeMetadata false r).current.Unmarked := by
  intro doc hdoc
  have hfresh : Sidecar.document (f.metadata false) = .document doc → doc.closedCleanly = false := by
    intro hsame
    rw [← Sidecar.document.inj hsame]
    rfl
  cases r with
  | done | syncFailed => exact hfresh hdoc
  | seekFailed =>
    obtain h | h := h
    · exact h doc hdoc
    · exact nomatch h
  | writeFailed => exact nomatch hdoc
  | truncateFailed rest =>
    cases rest with
    | false => exact hfresh hdoc
    | true => exact nomatch hdoc

/-- An operation of `CloseSplit` on one of the data files leaves the sidecar alone. -/
theorem Pending.of_data {f g : SplitFiles} (h : f.Pending)
    (hopen : f.binOpen = true ∨ f.csvOpen = true)
    (hsidecar : g.current.sidecar = f.current.sidecar) : g.Pending := by
  obtain h | ⟨hbin, hcsv, -⟩ := h
  · refine .inl ?_
    unfold Split.Unmarked
    rw [hsidecar]
    exact h
  · obtain hopen | hopen := hopen
    · exact nomatch hbin.symm.trans hopen
    · exact nomatch hcsv.symm.trans hopen

/-- The flag is written over complete data, or a failure is latched. -/
theorem marks_markClean {f : SplitFiles} {failed : Bool} {r : IoAnswers}
    (hsafe : failed = false → f.current.Intact ∧ f.Closing .markClean ∧ f.Counted) :
    (f.closeStep failed r .markClean).1.current.Honest ∨
      (f.closeStep failed r .markClean).2.1 = true := by
  cases hfailed : failed || decide (r.metadata ≠ .done) with
  | true => exact .inr hfailed
  | false =>
    rw [Bool.or_eq_false_iff, decide_eq_false_iff_not, not_not] at hfailed
    obtain ⟨hok, hdone⟩ := hfailed
    obtain ⟨hintact, hclosing, hcounted⟩ := hsafe hok
    obtain ⟨hbinSynced, hcsvSynced, hbinClosed, hcsvClosed⟩ := hclosing
    refine .inl ?_
    intro doc hdoc _
    simp only [closeStep, writeMetadata, sidecarAfter, hdone] at hdoc
    obtain rfl := Sidecar.document.inj hdoc
    refine ⟨?_, hbinSynced, hcsvSynced, hbinClosed, hcsvClosed, ⟨hintact.bin, hintact.csv⟩,
      hcounted.frames, hcounted.scans, hcounted.bytes⟩
    simp only [closeStep, hok, hdone, ne_eq, not_true_eq_false, decide_false, Bool.or_false]

/-- What an operation of `CloseSplit` does to the sidecar. -/
theorem marks_closeStep {f : SplitFiles} {failed : Bool} {r : IoAnswers} {at' : CloseStep}
    (h : f.Marks failed (some at'))
    (hsafe : at' = .markClean → failed = false →
      f.current.Intact ∧ f.Closing .markClean ∧ f.Counted) :
    (f.closeStep failed r at').1.Marks (f.closeStep failed r at').2.1
      (f.closeStep failed r at').2.2 := by
  cases at' with
  | syncBin =>
    unfold closeStep
    by_cases hopen : f.binOpen = true
    · simp only [hopen, if_true]
      exact Pending.of_data h (.inl hopen) rfl
    · simp only [hopen]
      exact h
  | syncCsv =>
    unfold closeStep
    by_cases hopen : f.csvOpen = true
    · simp only [hopen, if_true]
      exact Pending.of_data h (.inr hopen) rfl
    · simp only [hopen]
      exact h
  | closeBin =>
    unfold closeStep
    by_cases hopen : f.binOpen = true
    · simp only [hopen, if_true]
      exact ⟨rfl, Pending.of_data h (.inl hopen) rfl⟩
    · simp only [hopen]
      exact ⟨eq_false_of_ne_true hopen, h⟩
  | closeCsv =>
    obtain ⟨hbin, h⟩ := h
    unfold closeStep
    by_cases hopen : f.csvOpen = true
    · simp only [hopen, if_true]
      exact ⟨hbin, rfl, h.of_data (.inr hopen) rfl⟩
    · simp only [hopen]
      exact ⟨hbin, eq_false_of_ne_true hopen, h⟩
  | finalCounts =>
    obtain ⟨hbin, hcsv, h⟩ := h
    unfold closeStep
    by_cases hopen : f.jsonOpen = true
    · simp only [hopen, if_true]
      exact ⟨hbin, hcsv⟩
    · simp only [hopen]
      exact h
  | checkClean =>
    obtain ⟨hbin, hcsv⟩ := h
    unfold closeStep
    cases failed with
    | true => exact ⟨hbin, hcsv, .inr rfl⟩
    | false => exact ⟨hbin, hcsv⟩
  | markClean => exact ⟨h.1, h.2, marks_markClean (hsafe rfl)⟩
  | checkFailed =>
    obtain ⟨hbin, hcsv, h⟩ := h
    unfold closeStep
    cases failed with
    | true => exact ⟨hbin, hcsv⟩
    | false =>
      obtain h | h := h
      · exact ⟨hbin, hcsv, .inl h⟩
      · exact nomatch h
  | retract =>
    refine ⟨h.1, h.2, ?_⟩
    by_cases hdone : r.metadata = .done
    · exact .inl (unmarked_writeMetadata (.inr hdone)).honest
    · refine .inr ?_
      show (f.retractFailed || decide (r.metadata ≠ .done)) = true
      rw [decide_eq_true hdone, Bool.or_true]
  | closeJson =>
    obtain ⟨hbin, hcsv, h⟩ := h
    exact .inr ⟨hbin, hcsv, rfl, h⟩

/-- `OpenSplit` writes a sidecar without the flag. -/
theorem unmarked_openStep {f : SplitFiles} (h : f.current.Unmarked) (r : IoAnswers)
    (at' : OpenStep) : (f.openStep r at').1.current.Unmarked := by
  cases at' with
  | createJson =>
    unfold openStep
    cases r.ok with
    | true => exact fun _ hdoc => nomatch hdoc
    | false => exact h
  | manifest => exact unmarked_writeMetadata (.inl h)
  | createBin | createCsv =>
    unfold openStep
    cases r.ok <;> exact h
  | header | syncBin | syncCsv | syncDirectory => exact h

end SplitFiles

/-- The operation of `CloseSplit` the worker is at. -/
def WorkerPc.closeStep : WorkerPc → Option CloseStep
  | .closing at' _ | .closingLast at' => some at'
  | .none | .polling | .checkingClosed | .checkingEmpty | .appending _ | .rotating _
  | .opening _ _ | .checkingOffset _ | .writingBin _ | .writingCsv _ | .counting _
  | .checkingFlush | .syncingBin | .syncingCsv | .failing _ | .refusing _ | .closingQueue _
  | .countingPending _ | .discarding | .done => Option.none

/-- The operation of `CloseSplit` the owner is at. -/
def RecorderOwnerPc.closeStep : RecorderOwnerPc → Option CloseStep
  | .startClosing at' => some at'
  | .starting | .opening _ | .accepting | .spawning | .startFailing | .startRefusing
  | .startClosingQueue | .startClosingDirectory | .started _ | .stopRefusing | .stopClosingQueue
  | .stopJoining | .stopClosingDirectory | .stopped => none

namespace RawRecorder

/-- The operation of a `CloseSplit` that runs. -/
def closeAt (s : RawRecorder) : Option CloseStep := s.workerPc.closeStep.or s.ownerPc.closeStep

/-- Somebody is in `OpenSplit`, or has not called the first. -/
def Opens (s : RawRecorder) : Prop :=
  (∃ at' t, s.workerPc = .opening at' t) ∨ s.ownerPc = .starting ∨ ∃ at', s.ownerPc = .opening at'

/-- What the sidecars say. -/
structure SidecarData (s : RawRecorder) : Prop where
  earlier : ∀ split ∈ s.files.earlier, split.Honest ∨ s.files.retractFailed = true
  current : s.files.Marks s.failed s.closeAt
  opens : s.Opens → s.files.current.Unmarked

/-- A step that leaves the files alone, and is at no other operation of `CloseSplit`. -/
theorem SidecarData.of_same {s s' : RawRecorder} (hs : SidecarData s) (hfiles : s'.files = s.files)
    (hfailed : s.failed = true → s'.failed = true)
    (hcurrent : s.files.Marks s.failed s.closeAt → s.files.Marks s.failed s'.closeAt)
    (hopens : s'.Opens → s.Opens) : SidecarData s' := by
  refine ⟨?_, ?_, ?_⟩
  · rw [hfiles]
    exact hs.earlier
  · rw [hfiles]
    exact (hcurrent hs.current).of_failed hfailed
  · rw [hfiles]
    exact fun h => hs.opens (hopens h)

theorem opens_of_worker {s : RawRecorder} (hborn : startReturned s.ownerPc = true)
    (h : s.Opens) : ∃ at' t, s.workerPc = .opening at' t := by
  obtain h | h | ⟨at', h⟩ := h
  · exact h
  · rw [h] at hborn
    exact nomatch hborn
  · rw [h] at hborn
    exact nomatch hborn

theorem closeStep_of_startReturned {pc : RecorderOwnerPc} (h : startReturned pc = true) :
    pc.closeStep = none := by
  cases pc <;> first | rfl | exact nomatch h

/-- The flag is only written over complete data. -/
theorem safe_of_closeAt {s : RawRecorder} (hdata : FileData s) {at' : CloseStep}
    (hclose : s.closeAt = some at') (hmark : at' = .markClean) (hfailed : s.failed = false) :
    s.files.current.Intact ∧ s.files.Closing .markClean ∧ s.files.Counted := by
  subst hmark
  have hworker := hdata.worker
  have howner := hdata.owner
  have hcounted := hdata.counted
  unfold WorkerData at hworker
  unfold OwnerData at howner
  unfold closeAt at hclose
  cases hpc : s.workerPc with
  | closing at' t =>
    rw [hpc] at hclose hworker hcounted
    obtain rfl := Option.some.inj hclose
    obtain ⟨hintact, hlatched | hclosing⟩ := hworker
    · exact nomatch hfailed.symm.trans hlatched
    · exact ⟨hintact, hclosing, hcounted (fun _ => nofun)⟩
  | closingLast at' =>
    rw [hpc] at hclose hworker hcounted
    obtain rfl := Option.some.inj hclose
    obtain ⟨hlatched, -⟩ | ⟨hintact, hclosing⟩ := hworker
    · exact nomatch hfailed.symm.trans hlatched
    · exact ⟨hintact, hclosing, hcounted (fun _ => nofun)⟩
  | _ =>
    rw [hpc, WorkerPc.closeStep, Option.none_or] at hclose
    generalize s.ownerPc = pc at hclose howner
    cases pc with
    | startClosing => exact nomatch hfailed.symm.trans howner
    | _ => exact nomatch hclose

/-- An operation of `CloseSplit`, whoever runs it. -/
theorem SidecarData.closeStep {s s' : RawRecorder} {r : IoAnswers} {at' : CloseStep}
    (hs : SidecarData s) (hdata : FileData s) (hclose : s.closeAt = some at')
    (hfiles : s'.files = (s.files.closeStep s.failed r at').1)
    (hfailed : s'.failed = (s.files.closeStep s.failed r at').2.1)
    (hnext : s'.closeAt = (s.files.closeStep s.failed r at').2.2)
    (hopens : ¬ s'.Opens) : SidecarData s' := by
  have hframe := s.files.closeStep_frame s.failed r at'
  simp only [Prod.mk.injEq] at hframe
  have hretract : s.files.retractFailed = true → s'.files.retractFailed = true := by
    rw [hfiles]
    intro h
    cases at' <;> simp only [SplitFiles.closeStep] <;> first
      | exact h
      | (split_ifs <;> exact h)
      | (rw [h]; rfl)
  refine ⟨?_, ?_, fun h => absurd h hopens⟩
  · rw [hfiles, hframe.1, ← hfiles]
    exact fun split hsplit => (hs.earlier split hsplit).imp_right hretract
  · rw [hfiles, hfailed, hnext]
    exact SplitFiles.marks_closeStep (hclose ▸ hs.current) (safe_of_closeAt hdata hclose)

/-- An operation of `OpenSplit`, whoever runs it. -/
theorem SidecarData.openStep {s s' : RawRecorder} {r : IoAnswers} {at' : OpenStep}
    (hs : SidecarData s) (hopens : s.Opens) (hfiles : s'.files = (s.files.openStep r at').1)
    (hclose : s'.closeAt = none) : SidecarData s' := by
  have hframe := s.files.openStep_frame r at'
  simp only [Prod.mk.injEq] at hframe
  have hretract : s'.files.retractFailed = s.files.retractFailed := by
    rw [hfiles]
    cases at' <;> simp only [SplitFiles.openStep] <;> first | rfl | (split_ifs <;> rfl)
  have hunmarked : s'.files.current.Unmarked := by
    rw [hfiles]
    exact SplitFiles.unmarked_openStep (hs.opens hopens) r at'
  refine ⟨?_, ?_, fun _ => hunmarked⟩
  · rw [hretract, hfiles, hframe.1]
    exact hs.earlier
  · rw [hclose]
    exact .inl hunmarked

theorem SidecarData.producer {s s' : RawRecorder} (hs : SidecarData s) (h : ProducerStep s s') :
    SidecarData s' := by
  cases h with
  | latch => exact hs.of_same rfl (fun _ => rfl) id id
  | _ => exact hs.of_same rfl id id id

theorem WorkerMove.closeStep {pc pc' : WorkerPc} (h : WorkerMove pc pc') :
    pc.closeStep = none ∧ (pc'.closeStep = none ∨ pc'.closeStep = some .syncBin) ∧
      ∀ at' t, pc' ≠ .opening at' t := by
  cases h with
  | split => exact ⟨rfl, .inr rfl, fun _ _ => nofun⟩
  | again hpc => obtain rfl | rfl := hpc <;> exact ⟨rfl, .inl rfl, fun _ _ => nofun⟩
  | throws hpc => obtain rfl | rfl | rfl := hpc <;> exact ⟨rfl, .inl rfl, fun _ _ => nofun⟩
  | flushThrows hpc => obtain rfl | rfl := hpc <;> exact ⟨rfl, .inl rfl, fun _ _ => nofun⟩
  | _ => exact ⟨rfl, .inl rfl, fun _ _ => nofun⟩

/-- The worker appends to the open files of a split that is still unmarked. -/
theorem SidecarData.append {s s' : RawRecorder} (hs : SidecarData s)
    (hopen : s.files.binOpen = true) (hclose : s.closeAt = none) (hclose' : s'.closeAt = none)
    (hsame : (s'.files.earlier, s'.files.retractFailed, s'.files.current.sidecar) =
      (s.files.earlier, s.files.retractFailed, s.files.current.sidecar))
    (hopens : ¬ s'.Opens) : SidecarData s' := by
  simp only [Prod.mk.injEq] at hsame
  obtain ⟨hearlier, hretract, hsidecar⟩ := hsame
  have hpending := hs.current
  rw [hclose] at hpending
  refine ⟨?_, ?_, fun h => absurd h hopens⟩
  · rw [hearlier, hretract]
    exact hs.earlier
  · rw [hclose']
    exact SplitFiles.Pending.of_data hpending (.inl hopen) hsidecar

theorem SidecarData.worker {s s' : RawRecorder} {r : IoAnswers} (hs : SidecarData s)
    (hgates : Gates s) (hdata : FileData s) (h : WorkerStep s r s') : SidecarData s' := by
  have hworker := hdata.worker
  unfold WorkerData at hworker
  have hborn (hpc : s.workerPc ≠ .none) : startReturned s.ownerPc = true := by
    by_contra hearly
    exact hpc (hgates.early (eq_false_of_ne_true hearly)).1
  -- behind `Start` the owner is in no `CloseSplit` and in no `OpenSplit`
  have hidle (hpc : s.workerPc ≠ .none) : s.ownerPc.closeStep = none :=
    closeStep_of_startReturned (hborn hpc)
  have hnotOpens {t : RawRecorder} (hpc : s.workerPc ≠ .none) (howner : t.ownerPc = s.ownerPc)
      (hpc' : ∀ at' u, t.workerPc ≠ .opening at' u) : ¬ t.Opens := by
    intro hopens
    obtain ⟨at', u, h⟩ := opens_of_worker (howner ▸ hborn hpc) hopens
    exact hpc' at' u h
  cases h with
  | @move pc hmove =>
    obtain ⟨hnone, hnext, hpc'⟩ := hmove.closeStep
    have hpc : s.workerPc ≠ .none := hmove.gates.1
    refine hs.of_same rfl id ?_ (fun hopens => absurd hopens (hnotOpens hpc rfl hpc'))
    intro hmarks
    simp only [closeAt, hidle hpc, Option.or_none] at hmarks ⊢
    rw [hnone] at hmarks
    obtain hnext | hnext := hnext
    · rw [hnext]
      exact hmarks
    · rw [hnext]
      exact hmarks
  | closeSplit hpc =>
    have hne : s.workerPc ≠ .none := by
      rw [hpc]
      exact nofun
    refine hs.closeStep hdata ?_ rfl rfl ?_ (hnotOpens hne rfl ?_)
    · simp only [closeAt, hidle hne, Option.or_none, hpc]
      rfl
    · simp only [closeAt, hidle hne, Option.or_none]
      split <;> rename_i hnext <;> rw [hnext] <;> rfl
    · intro at' u
      dsimp only
      split <;> exact nofun
  | @nextSplit t hpc hfailed =>
    have hne : s.workerPc ≠ .none := by
      rw [hpc]
      exact nofun
    have hpending := hs.current
    simp only [closeAt, hidle hne, Option.or_none, hpc] at hpending
    refine ⟨?_, ?_, fun _ => fun _ hdoc => nomatch hdoc⟩
    · intro split hsplit
      obtain hsplit | hsplit := List.mem_append.mp hsplit
      · exact hs.earlier split hsplit
      · rw [List.mem_singleton.mp hsplit]
        obtain hunmarked | ⟨-, -, -, hfinal⟩ := hpending
        · exact .inl hunmarked.honest
        · exact hfinal
    · simp only [closeAt, hidle hne, Option.or_none]
      exact .inl (fun _ hdoc => nomatch hdoc)
  | @openSplit at' t hpc =>
    have hne : s.workerPc ≠ .none := by
      rw [hpc]
      exact nofun
    refine hs.openStep (.inl ⟨at', t, hpc⟩) rfl ?_
    simp only [closeAt, hidle hne, Option.or_none, afterOpen]
    split <;> rfl
  | writeBin hpc =>
    rw [hpc] at hworker
    have hne : s.workerPc ≠ .none := by
      rw [hpc]
      exact nofun
    refine hs.append hworker.binOpen ?_ ?_ rfl (hnotOpens hne rfl ?_)
    · simp only [closeAt, hidle hne, Option.or_none, hpc]
      rfl
    · simp only [closeAt, hidle hne, Option.or_none]
      split_ifs <;> rfl
    · intro at' u
      dsimp only
      split_ifs <;> exact nofun
  | writeCsv hpc =>
    rw [hpc] at hworker
    have hne : s.workerPc ≠ .none := by
      rw [hpc]
      exact nofun
    refine hs.append hworker.1.2.1 ?_ ?_ rfl (hnotOpens hne rfl ?_)
    · simp only [closeAt, hidle hne, Option.or_none, hpc]
      rfl
    · simp only [closeAt, hidle hne, Option.or_none]
      split_ifs <;> rfl
    · intro at' u
      dsimp only
      split_ifs <;> exact nofun
  | count hpc =>
    rw [hpc] at hworker
    have hne : s.workerPc ≠ .none := by
      rw [hpc]
      exact nofun
    refine hs.append hworker.1.2.1 ?_ ?_ rfl (hnotOpens hne rfl (fun _ _ => nofun))
    · simp only [closeAt, hidle hne, Option.or_none, hpc]
      rfl
    · simp only [closeAt, hidle hne, Option.or_none]
      rfl
  | closeLast hpc =>
    have hne : s.workerPc ≠ .none := by
      rw [hpc]
      exact nofun
    refine hs.closeStep hdata ?_ rfl rfl ?_ (hnotOpens hne rfl ?_)
    · simp only [closeAt, hidle hne, Option.or_none, hpc]
      rfl
    · simp only [closeAt, hidle hne, Option.or_none]
      split <;> rename_i hnext <;> rw [hnext] <;> rfl
    · intro at' u
      dsimp only
      split <;> exact nofun
  | _ =>
    have hpc := ‹s.workerPc = _›
    have hne : s.workerPc ≠ .none := by
      rw [hpc]
      exact nofun
    refine hs.of_same rfl (by first | exact id | exact fun _ => rfl) ?_
      (fun hopens => absurd hopens (hnotOpens hne rfl (fun _ _ => nofun)))
    intro hmarks
    simp only [closeAt, discard, hidle hne, Option.or_none] at hmarks ⊢
    rw [hpc] at hmarks
    exact hmarks

/-- A step of the owner that is not in `OpenSplit` or `CloseSplit`. -/
theorem SidecarData.of_owner {s s' : RawRecorder} (hs : SidecarData s)
    (hsame : (s'.files, s'.workerPc) = (s.files, s.workerPc))
    (hfailed : s.failed = true → s'.failed = true) (hidle : s.ownerPc.closeStep = none)
    (hidle' : s'.ownerPc.closeStep = none) (hstarting : s'.ownerPc ≠ .starting)
    (hopening : ∀ at', s'.ownerPc ≠ .opening at') : SidecarData s' := by
  simp only [Prod.mk.injEq] at hsame
  obtain ⟨hfiles, hworker⟩ := hsame
  refine hs.of_same hfiles hfailed ?_ ?_
  · intro hmarks
    rw [closeAt, hworker, hidle']
    rw [closeAt, hidle] at hmarks
    exact hmarks
  · rintro (⟨at', t, h⟩ | h | ⟨at', h⟩)
    · exact .inl ⟨at', t, hworker ▸ h⟩
    · exact absurd h hstarting
    · exact absurd h (hopening at')

theorem SidecarData.owner {s s' : RawRecorder} {r : IoAnswers} (hs : SidecarData s)
    (hgates : Gates s) (hdata : FileData s) (h : OwnerStep s r s') : SidecarData s' := by
  -- in `Start` there is no worker yet
  have hnone {pc : RecorderOwnerPc} (hpc : s.ownerPc = pc) (hearly : startReturned pc = false) :
      s.workerPc = .none :=
    (hgates.early (hpc ▸ hearly)).1
  cases h with
  | @move pc hmove =>
    have hpc' : s.ownerPc.closeStep = none ∧ pc.closeStep = none ∧ pc ≠ .starting ∧
        ∀ at', pc ≠ .opening at' := by
      generalize s.ownerPc = pc₀ at hmove
      cases hmove <;> exact ⟨rfl, rfl, nofun, fun _ => nofun⟩
    obtain ⟨hidle, hidle', hstarting, hopening⟩ := hpc'
    exact hs.of_owner rfl id hidle hidle' hstarting hopening
  | openDirectory hpc =>
    refine hs.of_same rfl id ?_ (fun _ => .inr (.inl hpc))
    intro hmarks
    simp only [closeAt, hpc] at hmarks ⊢
    exact hmarks
  | @openSplit at' hpc =>
    refine hs.openStep (.inr (.inr ⟨at', hpc⟩)) rfl ?_
    simp only [closeAt, hnone hpc rfl]
    split <;> rfl
  | @closeSplit at' hpc =>
    refine hs.closeStep hdata ?_ rfl rfl ?_ ?_
    · simp only [closeAt, hnone hpc rfl, hpc]
      rfl
    · simp only [closeAt, hnone hpc rfl]
      split <;> rename_i hnext <;> rw [hnext] <;> rfl
    · rintro (⟨at', t, h⟩ | h | ⟨at', h⟩)
      · dsimp only at h
        rw [hnone hpc rfl] at h
        exact nomatch h
      · dsimp only at h
        split at h <;> exact nomatch h
      · dsimp only at h
        split at h <;> exact nomatch h
  | latch hpc =>
    exact hs.of_owner rfl (fun _ => rfl) (by rw [hpc]; rfl) rfl nofun (fun _ => nofun)
  | refuse hpc =>
    obtain ⟨hpc, rfl⟩ | ⟨hpc, rfl⟩ := hpc <;>
      exact hs.of_owner rfl id (by rw [hpc]; rfl) rfl nofun (fun _ => nofun)
  | closeQueue hpc =>
    obtain ⟨hpc, rfl⟩ | ⟨hpc, rfl⟩ := hpc
    · refine hs.of_same rfl id ?_ ?_
      · intro hmarks
        simp only [closeAt, hpc, hnone hpc rfl] at hmarks ⊢
        exact hmarks
      · rintro (h | h | ⟨at', h⟩)
        · exact .inl h
        · exact nomatch h
        · exact nomatch h
    · exact hs.of_owner rfl id (by rw [hpc]; rfl) rfl nofun (fun _ => nofun)
  | accept hpc => exact hs.of_owner rfl id (by rw [hpc]; rfl) rfl nofun (fun _ => nofun)
  | spawn hpc =>
    refine hs.of_same rfl id ?_ ?_
    · intro hmarks
      simp only [closeAt, hpc, hnone hpc rfl] at hmarks ⊢
      exact hmarks
    · rintro (⟨at', t, h⟩ | h | ⟨at', h⟩)
      · exact nomatch h
      · exact nomatch h
      · exact nomatch h
  | closeDirectory hpc =>
    have hfailed : s.failed = true → (s.closeDirectory r).failed = true := by
      intro hfailed
      show (s.failed || (s.directoryOpen && !r.ok)) = true
      rw [hfailed]
      rfl
    obtain ⟨hpc, rfl⟩ | ⟨hpc, rfl⟩ := hpc <;>
      exact hs.of_owner rfl hfailed (by rw [hpc]; rfl) rfl nofun (fun _ => nofun)

theorem SidecarData.step {s s' : RawRecorder} {a : RecorderAction} (hs : SidecarData s)
    (hgates : Gates s) (hdata : FileData s) (h : s.step a = some s') : SidecarData s' := by
  cases a with
  | onFrame record =>
    obtain ⟨-, -, rfl⟩ := onFrame_inv h
    exact hs.of_same rfl id id id
  | producer threw => exact hs.producer (producerStep_inv h)
  | worker r => exact hs.worker hgates hdata (workerStep_inv h)
  | owner r => exact hs.owner hgates hdata (ownerStep_inv h)
  | stop =>
    obtain ⟨hpc, rfl⟩ := stop_inv h
    refine hs.of_owner rfl id ?_ rfl nofun (fun _ => nofun)
    obtain ⟨ok, hpc⟩ | hpc := hpc <;> rw [hpc] <;> rfl

theorem sidecarData_of_reachable {maxFileBytes capacity : Nat} {s : RawRecorder}
    (h : (system maxFileBytes capacity).Reachable s) : SidecarData s := by
  refine h.invariant_of
    (Q := fun s => Gates s ∧ FileData s)
    (fun s hs => ⟨gates_of_reachable hs, fileData_of_reachable hs⟩) ?_ ?_
  · rintro s rfl
    have hunmarked : ({} : Split).Unmarked := fun _ hdoc => nomatch hdoc
    exact ⟨nofun, .inl hunmarked, fun _ => hunmarked⟩
  · intro s a s' hq hs hstep
    exact hs.step hq.1 hq.2 hstep

/-- **The sidecars tell the truth.**  When no metadata write that takes the flag back has failed,
the sidecar of an earlier split, and that of the current one unless a `CloseSplit` is running,
says `closed_cleanly` only of complete data files. -/
theorem sidecar_honest (maxFileBytes capacity : Nat) (s : RawRecorder)
    (h : (system maxFileBytes capacity).Reachable s) (hretract : s.files.retractFailed = false) :
    (∀ split ∈ s.files.earlier, split.Honest) ∧
      (s.closeAt = none → s.files.current.Honest) := by
  have hs := sidecarData_of_reachable h
  have hnot : ¬ s.files.retractFailed = true := by
    rw [hretract]
    exact nofun
  refine ⟨fun split hsplit => (hs.earlier split hsplit).resolve_right hnot, ?_⟩
  intro hclose
  have hpending := hs.current
  rw [hclose] at hpending
  obtain hunmarked | ⟨-, -, -, hfinal⟩ := hpending
  · exact hunmarked.honest
  · exact hfinal.resolve_right hnot

/-- A recording of one telegram, closed without a failure. -/
theorem sidecar_honest_of_one_telegram :
    ∃ s, (system 0 1).Reachable s ∧ s.ownerPc = .stopped ∧ s.closeAt = none ∧
      s.files.current.sidecar = .document ⟨0, 1, 0, 2, true⟩ ∧ s.files.current.Honest := by
  let done : IoAnswers := ⟨true, ⟨true, 0⟩, .done, false⟩
  let record : RawRecord := { frame := ⟨[2, 3], true⟩, receiveTimestampUs := 7 }
  let actions : List RecorderAction := List.flatten
    [List.replicate 11 (.owner done), [.onFrame record], List.replicate 3 (.producer false),
      [.stop, .owner done, .owner done], List.replicate 23 (.worker done),
      List.replicate 2 (.owner done)]
  have hrun : ((system 0 1).exec (new 0 1) actions).map
      (fun s => (s.ownerPc, s.closeAt, s.files.retractFailed, s.files.current.sidecar)) =
        some (.stopped, none, false, .document ⟨0, 1, 0, 2, true⟩) := by decide +kernel
  obtain ⟨s, hexec, hs⟩ := Option.map_eq_some_iff.mp hrun
  obtain ⟨hstopped, hs⟩ := Prod.mk.inj hs
  obtain ⟨hclose, hs⟩ := Prod.mk.inj hs
  obtain ⟨hretract, hsidecar⟩ := Prod.mk.inj hs
  have hreach := StepSystem.reachable_of_exec (.init rfl) hexec
  exact ⟨s, hreach, hstopped, hclose, hsidecar,
    (sidecar_honest 0 1 s hreach hretract).2 hclose⟩

end RawRecorder
end Lms
end AmigaDrivers
