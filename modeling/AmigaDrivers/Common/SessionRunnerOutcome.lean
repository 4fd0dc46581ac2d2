import AmigaDrivers.Common.SessionRunnerVerdict

/-!
# The outcome of a session

* `Decided`: the status and the exit code that go into `Finalize`.
* `Outcome`: the manifest on disk and the exit code, before and behind `Finalize`.
* `exit_code`: the exit code is zero exactly when the run is flawless and the manifest written.
* `manifest_agrees_iff`: when the manifest on disk says the same as the exit code.
-/

namespace AmigaDrivers
namespace Common

/-- `Finalize` has returned. -/
def RunnerPc.filed : RunnerPc → Bool
  | .terminating .destructor | .joining _ .destructor | .shuttingDown _ .destructor
  | .done _ => true
  | _ => false

namespace Runner

variable {slots : List DriverSlot} {s s' : Runner}

/-! ## The arguments of `Finalize` -/

structure Decided (s : Runner) : Prop where
  decided : ∀ status exitCode, s.pc.path = .decided status exitCode →
    (exitCode = 0 ↔ Flawless s.trace) ∧ (exitCode = 0 → IsCleanStatus status) ∧
      (exitCode ≠ 0 → DriversJson.isFailedStatus status = true)
  handling : s.pc.path = .handling → RunEvent.raised ∈ s.trace
  leaving : s.pc.path = .leaving → RunEvent.preflightStop ∈ s.trace
  aborted : ∀ status exitCode c, s.pc = .finalizing status exitCode c → c ≠ .execute →
    exitCode = 1 ∧ DriversJson.isFailedStatus status = true

/-- Steps that stay on their path. -/
theorem Decided.of_same (hs : Decided s) (hpath : s'.pc.path = s.pc.path)
    (htrace : s'.trace = s.trace ∨ ∃ e, s'.trace = s.trace ++ [e] ∧ RunEvent.isFlaw e = false)
    (haborted : ∀ status exitCode c, s'.pc = .finalizing status exitCode c → c ≠ .execute →
      s.pc = .finalizing status exitCode c ∨
        exitCode = 1 ∧ DriversJson.isFailedStatus status = true) : Decided s' := by
  have hmem : ∀ e, e ∈ s.trace → e ∈ s'.trace := by
    rintro e he
    obtain htrace | ⟨e', htrace, -⟩ := htrace <;> rw [htrace]
    · exact he
    · exact List.mem_append_left _ he
  have hflawless : Flawless s'.trace ↔ Flawless s.trace := by
    obtain htrace | ⟨e, htrace, he⟩ := htrace <;> rw [htrace]
    exact flawless_log he
  refine ⟨fun status exitCode h => ?_, fun h => hmem _ (hs.handling (hpath ▸ h)),
    fun h => hmem _ (hs.leaving (hpath ▸ h)), fun status exitCode c h hc => ?_⟩
  · rw [hflawless]
    exact hs.decided status exitCode (hpath ▸ h)
  · exact (haborted status exitCode c h hc).elim (fun h' => hs.aborted _ _ _ h' hc) id

/-- Steps that leave it for another place in `Execute` before the decision, or end the run. -/
theorem Decided.of_open (hdecided : ∀ status exitCode, s'.pc.path ≠ .decided status exitCode)
    (hhandling : s'.pc.path ≠ .handling) (hleaving : s'.pc.path ≠ .leaving) : Decided s' where
  decided status exitCode h := absurd h (hdecided status exitCode)
  handling h := absurd h hhandling
  leaving h := absurd h hleaving
  aborted status exitCode c h hc := by
    rw [h] at hhandling hleaving
    cases c with
    | execute => exact absurd rfl hc
    | handler => exact absurd rfl hhandling
    | destructor => exact absurd rfl hleaving

theorem Decided.step (hc : Causes slots.length s) (ht : Tally slots.length s) (hs : Decided s)
    (h : Step slots s s') : Decided s' := by
  cases h with
  | @publish p hpc w | @publishFailed p hpc w =>
    refine .of_open ?_ ?_ ?_ <;> cases p <;> exact nofun
  | @finish status exitCode c hpc w =>
    cases c with
    | destructor =>
      exact hs.of_same (by rw [hpc]; rfl) (.inr ⟨_, rfl, rfl⟩) nofun
    | handler | execute => exact .of_open nofun nofun nofun
  | raiseStopped hraise hpast | raise hraise hpast =>
    exact ⟨nofun, fun _ => List.mem_append_right _ (List.mem_singleton.mpr rfl), nofun, nofun⟩
  | preflightStop hpc =>
    refine ⟨nofun, nofun, fun _ => List.mem_append_right _ (List.mem_singleton.mpr rfl), ?_⟩
    rintro status exitCode c ⟨⟩ -
    exact ⟨rfl, by decide +kernel⟩
  | collectEndHandler hpc hi =>
    refine hs.of_same (by rw [hpc]; rfl) (.inl rfl) ?_
    rintro status exitCode c ⟨⟩ -
    exact .inr ⟨rfl, by decide +kernel⟩
  | decide hpc =>
    have hspec := verdict_spec hc ht (by rw [hpc]; rfl)
    refine ⟨?_, nofun, nofun, ?_⟩
    · rintro status exitCode ⟨⟩
      exact hspec
    · rintro status exitCode c ⟨⟩ hne
      exact absurd rfl hne
  | runCalled _ | runEnded _ hkeep =>
    exact hs.of_same rfl (.inr ⟨_, rfl, rfl⟩) fun _ _ _ h _ => .inl h
  | threadEnd _ | flags hkeep => exact hs.of_same rfl (.inl rfl) fun _ _ _ h _ => .inl h
  | @stopFlags c hpc | @joinSkip _ c hpc | @joinEnd _ c hpc =>
    exact hs.of_same (by rw [hpc]; cases c <;> rfl) (.inl rfl) nofun
  | @join _ c hpc | @shutdown _ c hpc =>
    exact hs.of_same (by rw [hpc]; cases c <;> rfl) (.inr ⟨_, rfl, rfl⟩) nofun
  | @collectSkip _ caught hpc =>
    exact hs.of_same (by rw [hpc]; cases caught <;> rfl) (.inl rfl) nofun
  | @collect _ caught hpc =>
    exact hs.of_same (by rw [hpc]; cases caught <;> rfl) (.inr ⟨_, rfl, rfl⟩) nofun
  | @collectedFailed i caught hpc =>
    cases caught with
    | false => exact .of_open nofun nofun nofun
    | true => exact ⟨nofun, fun _ => List.mem_append_left _ (hs.handling (by rw [hpc]; rfl)), nofun, nofun⟩
  | @collectedFine i caught hpc =>
    cases caught with
    | false => exact .of_open nofun nofun nofun
    | true => exact ⟨nofun, fun _ => List.mem_append_left _ (hs.handling (by rw [hpc]; rfl)), nofun, nofun⟩
  | stopEndHandler hpc => exact hs.of_same (by rw [hpc]; rfl) (.inl rfl) nofun
  | _ => exact .of_open nofun nofun nofun

/-! ## The manifest on disk -/

/-- The manifest of a run that goes on. -/
def UnderWay (m : DriversJson) : Prop :=
  m.doc.status = "running" ∧ ∃ doc, m.canonical = some doc ∧ doc.status = "running"

theorem UnderWay.updateLifecycle {m : DriversJson} (hm : UnderWay m) (phase : String)
    (configurationRead : Bool) (w : ManifestWrite) :
    UnderWay (m.updateLifecycle phase configurationRead w).1 := by
  obtain ⟨hstatus, doc, hcanonical, hdoc⟩ := hm
  unfold DriversJson.updateLifecycle
  refine ⟨?_, ?_⟩
  · rw [(DriversJson.write_frame _ w).1]
    exact hstatus
  · rw [DriversJson.write_canonical]
    split
    · exact ⟨_, rfl, hstatus⟩
    · exact ⟨doc, hcanonical, hdoc⟩

theorem UnderWay.addDriverResult {m : DriversJson} (hm : UnderWay m) (name : String)
    (failed : Bool) : UnderWay (m.addDriverResult name failed) := hm

/-- A document that `Finalize` has written. -/
structure FinalDoc (status : String) (doc : RunDoc) : Prop where
  phase : doc.phase = "finished"
  filed : doc.status = status
  recordingFailed : doc.recordingFailed = some (DriversJson.isFailedStatus status)
  ended : doc.ended = true

/-- `Finalize` leaves the final document once its rename has succeeded, the old one otherwise. -/
theorem finalize_canonical {m : DriversJson} (hm : UnderWay m) (status : String)
    (w : ManifestWrite) :
    ∃ doc, (m.finalize status w).1.canonical = some doc ∧
      (w.canonical.publishes = true → FinalDoc status doc) ∧
      (w.canonical.publishes = false → doc.status = "running") := by
  obtain ⟨-, doc, hcanonical, hdoc⟩ := hm
  unfold DriversJson.finalize
  rw [DriversJson.write_canonical]
  split
  · rename_i hpublishes
    exact ⟨_, rfl, fun _ => ⟨rfl, rfl, rfl, rfl⟩, fun h => nomatch hpublishes.symm.trans h⟩
  · rename_i hpublishes
    exact ⟨doc, hcanonical, fun h => absurd h hpublishes, fun _ => hdoc⟩

/-- The result of `Finalize`, by the manifest it leaves. -/
theorem finalize_snd (m : DriversJson) (status : String) (w : ManifestWrite) :
    (m.finalize status w).2 = (m.finalize status w).1.writeOk w := by
  unfold DriversJson.finalize
  rw [DriversJson.write_snd, DriversJson.writeOk, DriversJson.writeOk, (DriversJson.write_frame _ w).2]

/-! ## Behind `Finalize` -/

/-- What holds behind `Finalize`, of its arguments and its result. -/
structure Filed (s : Runner) (status : String) (w : ManifestWrite) (ok : Bool) : Prop where
  event : ∀ status' w' ok',
    RunEvent.finalized status' w' ok' ∈ s.trace ↔ status' = status ∧ w' = w ∧ ok' = ok
  clean : Flawless s.trace → IsCleanStatus status
  failed : ¬Flawless s.trace → DriversJson.isFailedStatus status = true
  file : ∃ doc, s.manifest.canonical = some doc ∧
    (w.canonical.publishes = true → FinalDoc status doc) ∧
    (w.canonical.publishes = false → doc.status = "running")
  result : ok = s.manifest.writeOk w
  code : ∀ exitCode, s.pc = .done exitCode → (exitCode = 0 ↔ Flawless s.trace ∧ ok = true)

/-- The outcome of a run, open before `Finalize`. -/
def Outcome (s : Runner) : Prop :=
  (s.pc.filed = false ∧ UnderWay s.manifest ∧ ∀ status w ok, RunEvent.finalized status w ok ∉ s.trace) ∨
    (s.pc.filed = true ∧ ∃ status w ok, Filed s status w ok)

/-- Steps before `Finalize`. -/
theorem Outcome.of_open (hs : Outcome s) (hopen : s.pc.filed = false) (hopen' : s'.pc.filed = false)
    (hmanifest : UnderWay s.manifest → UnderWay s'.manifest)
    (htrace : ∀ status w ok, RunEvent.finalized status w ok ∈ s'.trace →
      RunEvent.finalized status w ok ∈ s.trace) : Outcome s' := by
  obtain ⟨-, hm, hnone⟩ | ⟨hfiled, -⟩ := hs
  · exact .inl ⟨hopen', hmanifest hm, fun status w ok h => hnone _ _ _ (htrace _ _ _ h)⟩
  · exact nomatch hopen.symm.trans hfiled

/-- Steps that `Finalize` makes no difference to. -/
theorem Outcome.of_same (hs : Outcome s) (hfiled : s'.pc.filed = s.pc.filed)
    (hmanifest : s'.manifest = s.manifest)
    (htrace : s'.trace = s.trace ∨ ∃ e, s'.trace = s.trace ++ [e] ∧ RunEvent.isFlaw e = false ∧
      ∀ status w ok, e ≠ .finalized status w ok)
    (hcode : ∀ exitCode, s'.pc = .done exitCode →
      s.pc = .done exitCode ∨ exitCode = 1 ∧ ¬Flawless s.trace) : Outcome s' := by
  have hmem : ∀ status w ok, RunEvent.finalized status w ok ∈ s'.trace ↔
      RunEvent.finalized status w ok ∈ s.trace := by
    intro status w ok
    obtain htrace | ⟨e, htrace, -, hne⟩ := htrace <;> rw [htrace]
    exact ⟨fun h => mem_of_log h (hne status w ok).symm, List.mem_append_left _⟩
  have hflawless : Flawless s'.trace ↔ Flawless s.trace := by
    obtain htrace | ⟨e, htrace, he, -⟩ := htrace <;> rw [htrace]
    exact flawless_log he
  obtain ⟨hopen, hm, hnone⟩ | ⟨hpast, status, w, ok, hf⟩ := hs
  · exact .inl ⟨hfiled.trans hopen, hmanifest ▸ hm, fun _ _ _ h => hnone _ _ _ ((hmem _ _ _).mp h)⟩
  · refine .inr ⟨hfiled.trans hpast, status, w, ok, fun _ _ _ => (hmem _ _ _).trans (hf.event _ _ _),
      fun h => hf.clean (hflawless.mp h), fun h => hf.failed (mt hflawless.mpr h), hmanifest ▸ hf.file,
      hmanifest ▸ hf.result, fun exitCode h => ?_⟩
    rw [hflawless]
    obtain hsame | ⟨rfl, hflaw⟩ := hcode exitCode h
    · exact hf.code exitCode hsame
    · exact ⟨nofun, fun h => absurd h.1 hflaw⟩

theorem filed_afterPublication (p : Publication) : (afterPublication p).filed = false := by
  cases p <;> rfl

theorem filed_afterFinalize (c : Caller) (exitCode : Nat) (ok : Bool) :
    (afterFinalize c exitCode ok).filed = true := by
  cases c <;> rfl

theorem filed_of_mayRaise {pc : RunnerPc} (h : mayRaise pc = true) : pc.filed = false := by
  cases pc <;> first | rfl | exact nomatch h

/-- `Finalize` closes the outcome. -/
theorem Outcome.finish (hd : Decided s) (hs : Outcome s) {status : String} {exitCode : Nat}
    {c : Caller} (hpc : s.pc = .finalizing status exitCode c) (w : ManifestWrite)
    (htrace : s'.trace = s.trace ++ [.finalized status w (s.manifest.finalize status w).2])
    (hmanifest : s'.manifest = (s.manifest.finalize status w).1)
    (hpc' : s'.pc = afterFinalize c exitCode (s.manifest.finalize status w).2) : Outcome s' := by
  obtain ⟨-, hm, hnone⟩ | ⟨hfiled, -⟩ := hs
  · have hflawless : Flawless s'.trace ↔ Flawless s.trace := by
      rw [htrace]
      exact flawless_log rfl
    -- the exit code so far is zero exactly for a flawless run, whoever calls
    have hdecided : (exitCode = 0 ↔ Flawless s.trace) ∧ (exitCode = 0 → IsCleanStatus status) ∧
        (exitCode ≠ 0 → DriversJson.isFailedStatus status = true) := by
      cases c with
      | execute => exact hd.decided status exitCode (by rw [hpc]; rfl)
      | handler =>
        obtain ⟨rfl, hfailed⟩ := hd.aborted _ _ _ hpc nofun
        exact ⟨⟨nofun, fun h => absurd (hd.handling (by rw [hpc]; rfl)) h.raised⟩, nofun,
          fun _ => hfailed⟩
      | destructor =>
        obtain ⟨rfl, hfailed⟩ := hd.aborted _ _ _ hpc nofun
        exact ⟨⟨nofun, fun h => absurd (hd.leaving (by rw [hpc]; rfl)) h.preflight⟩, nofun,
          fun _ => hfailed⟩
    obtain ⟨hzero, hclean, hfailed⟩ := hdecided
    refine .inr ⟨hpc' ▸ filed_afterFinalize _ _ _, status, w, (s.manifest.finalize status w).2,
      fun status' w' ok' => ?_,
      fun h => hclean (hzero.mpr (hflawless.mp h)), 
      fun h => hfailed fun h' => h (hflawless.mpr (hzero.mp h')),
      hmanifest ▸ finalize_canonical hm status w, hmanifest ▸ finalize_snd _ status w,
      fun code hcode => ?_⟩
    · rw [htrace]
      refine ⟨fun h => ?_, ?_⟩
      · obtain h | h := List.mem_append.mp h
        · exact absurd h (hnone _ _ _)
        · simpa using List.mem_singleton.mp h
      · rintro ⟨rfl, rfl, rfl⟩
        exact List.mem_append_right _ (List.mem_singleton.mpr rfl)
    · rw [hflawless, ← hzero]
      rw [hpc'] at hcode
      cases c with
      | destructor => exact nomatch hcode
      | handler =>
        obtain rfl : exitCode = code := RunnerPc.done.inj hcode
        obtain ⟨rfl, -⟩ := hd.aborted _ _ _ hpc nofun
        exact ⟨nofun, fun h => nomatch h.1⟩
      | execute =>
        obtain rfl := RunnerPc.done.inj hcode
        cases (s.manifest.finalize status w).2 with
        | true => exact ⟨fun h => ⟨h, rfl⟩, And.left⟩
        | false => exact ⟨nofun, fun h => nomatch h.2⟩
  · rw [hpc] at hfiled
    exact nomatch hfiled

theorem Outcome.step (hd : Decided s) (hs : Outcome s) (h : Step slots s s') : Outcome s' := by
  cases h with
  | @publish p hpc w | @publishFailed p hpc w =>
    exact hs.of_open (by rw [hpc]; rfl) (filed_afterPublication p) (·.updateLifecycle _ _ _)
      fun _ _ _ h => mem_of_log h nofun
  | finish hpc w => exact hs.finish hd hpc w rfl rfl rfl
  | @collect _ caught hpc _ _ _ _ _ name result =>
    exact hs.of_open (by rw [hpc]; rfl) rfl (·.addDriverResult name result)
      fun _ _ _ h => mem_of_log h nofun
  | raiseStopped hraise _ | raise hraise _ =>
    exact hs.of_open (filed_of_mayRaise hraise) rfl id fun _ _ _ h => mem_of_log h nofun
  | preflightStop hpc | initCall hpc _ | initReady hpc | initFailed hpc _ _ _ | diskStop hpc
  | watchdogStop hpc _ | collectedFailed hpc _ | collectedFine hpc _ =>
    exact hs.of_open (by rw [hpc]; rfl) rfl id fun _ _ _ h => mem_of_log h nofun
  | runCalled _ | runEnded _ _ =>
    exact hs.of_same rfl rfl (.inr ⟨_, rfl, rfl, fun _ _ _ h => nomatch h⟩) fun _ h => .inl h
  | threadEnd _ | flags _ => exact hs.of_same rfl rfl (.inl rfl) fun _ h => .inl h
  | @stopFlags c hpc | @joinSkip _ c hpc | @joinEnd _ c hpc =>
    exact hs.of_same (by rw [hpc]; cases c <;> rfl) rfl (.inl rfl) nofun
  | @join _ c hpc | @shutdown _ c hpc =>
    exact hs.of_same (by rw [hpc]; cases c <;> rfl) rfl (.inr ⟨_, rfl, rfl, fun _ _ _ h => nomatch h⟩) nofun
  | stopEndDestructor hpc =>
    refine hs.of_same (by rw [hpc]; rfl) rfl (.inl rfl) fun exitCode h => .inr ⟨?_, fun hflawless => ?_⟩
    · exact (RunnerPc.done.inj h).symm
    · exact hflawless.preflight (hd.leaving (by rw [hpc]; rfl))
  | _ =>
    have hpc := ‹s.pc = _›
    exact hs.of_open (by rw [hpc]; rfl) rfl id fun _ _ _ h => h

/-! ## The whole run -/

theorem causes_of_reachable (h : (system slots).Reachable s) : Causes slots.length s := by
  refine h.invariant_of (fun _ => bringUp_of_reachable) (fun s hinit => ?_)
    fun _ _ _ hb hs hstep => hs.step hb (.of_step hstep)
  obtain ⟨doc, hasControl, control, terminate, signal, -, rfl⟩ := hinit
  exact ⟨⟨nofun, nofun⟩, fun _ => ⟨rfl, rfl, nofun, nofun⟩, fun h => absurd rfl h, nofun, nofun⟩

theorem tally_of_reachable (hkeys : ∀ d ∈ slots, d.key ≠ "") (h : (system slots).Reachable s) :
    Tally slots.length s := by
  refine h.invariant_of (fun _ => causes_of_reachable) (fun s hinit => ?_)
    fun _ _ _ hc hs hstep => hs.step hkeys hc (.of_step hstep)
  obtain ⟨doc, hasControl, control, terminate, signal, -, rfl⟩ := hinit
  exact ⟨nofun, nofun, nofun, nofun, nofun, nofun⟩

theorem decided_of_reachable (hkeys : ∀ d ∈ slots, d.key ≠ "") (h : (system slots).Reachable s) :
    Decided s := by
  refine h.invariant_of (fun _ => fun hreach => And.intro (causes_of_reachable hreach)
    (tally_of_reachable hkeys hreach)) (fun s hinit => ?_)
    fun _ _ _ hct hs hstep => hs.step hct.1 hct.2 (.of_step hstep)
  obtain ⟨doc, hasControl, control, terminate, signal, -, rfl⟩ := hinit
  exact .of_open nofun nofun nofun

theorem outcome_of_reachable (hkeys : ∀ d ∈ slots, d.key ≠ "") (h : (system slots).Reachable s) :
    Outcome s := by
  refine h.invariant_of (fun _ => decided_of_reachable hkeys) (fun s hinit => ?_)
    fun _ _ _ hd hs hstep => hs.step hd (.of_step hstep)
  obtain ⟨doc, hasControl, control, terminate, signal, hstatus, rfl⟩ := hinit
  exact .inl ⟨rfl, ⟨hstatus, doc, rfl, hstatus⟩, fun _ _ _ h => nomatch h⟩

/-- The end of a run. -/
theorem filed_of_done (hkeys : ∀ d ∈ slots, d.key ≠ "") (h : (system slots).Reachable s)
    {exitCode : Nat} (hpc : s.pc = .done exitCode) : ∃ status w ok, Filed s status w ok := by
  obtain ⟨hopen, -⟩ | ⟨-, hfiled⟩ := outcome_of_reachable hkeys h
  · rw [hpc] at hopen
    exact nomatch hopen
  · exact hfiled

/-- **The exit code** of a run that has ended, whatever signals it received.  `Finalize` has
been called once; the exit code is zero exactly when it returned true and no driver had failed
at its collection, neither the disk nor the watchdog had stopped the run, every update of the
lifecycle was written and the coordinator raised no exception.  Where it is not zero the
status that went into `Finalize` is a failed one or `Finalize` has failed, and a failed status
never goes with a zero. -/
theorem exit_code (slots : List DriverSlot) (hkeys : ∀ d ∈ slots, d.key ≠ "") (s : Runner)
    (h : (system slots).Reachable s) (exitCode : Nat) (hpc : s.pc = .done exitCode) :
    ∃ status w ok,
      (∀ status' w' ok', RunEvent.finalized status' w' ok' ∈ s.trace ↔
        status' = status ∧ w' = w ∧ ok' = ok) ∧
      (exitCode = 0 ↔
        (∀ i, RunEvent.collected i true ∉ s.trace) ∧
        RunEvent.preflightStop ∉ s.trace ∧ RunEvent.diskStop ∉ s.trace ∧
        (∀ i, RunEvent.watchdogStop i ∉ s.trace) ∧
        RunEvent.lifecycle false ∉ s.trace ∧ RunEvent.raised ∉ s.trace ∧ ok = true) ∧
      (exitCode ≠ 0 → DriversJson.isFailedStatus status = true ∨ ok = false) ∧
      (DriversJson.isFailedStatus status = true → exitCode ≠ 0) := by
  obtain ⟨status, w, ok, hf⟩ := filed_of_done hkeys h hpc
  have hcode := hf.code exitCode hpc
  refine ⟨status, w, ok, hf.event, hcode.trans ⟨?_, ?_⟩, fun hne => ?_, fun hfailed hzero => ?_⟩
  · rintro ⟨⟨hcollected, hpreflight, hdisk, hwatchdog, hlifecycle, hraised⟩, hok⟩
    exact ⟨hcollected, hpreflight, hdisk, hwatchdog, hlifecycle, hraised, hok⟩
  · rintro ⟨hcollected, hpreflight, hdisk, hwatchdog, hlifecycle, hraised, hok⟩
    exact ⟨⟨hcollected, hpreflight, hdisk, hwatchdog, hlifecycle, hraised⟩, hok⟩
  · by_cases hflawless : Flawless s.trace
    · exact .inr (eq_false_of_ne_true fun hok => hne (hcode.mpr ⟨hflawless, hok⟩))
    · exact .inl (hf.failed hflawless)
  · exact nomatch (isFailedStatus_of_clean (hf.clean (hcode.mp hzero).1)).symm.trans hfailed

/-- A session with one driver that ends on its own, and with what its last write leads to. -/
theorem exists_ownEnd {α : Type} (w : ManifestWrite) (f : Runner → α) (a : α)
    (hrun : ((system [⟨"AsteRx", "asterx"⟩]).exec { manifest := { canonical := some {} } }
        (ownEnd w)).map f = some a) :
    ∃ s, (system [⟨"AsteRx", "asterx"⟩]).Reachable s ∧ f s = a := by
  obtain ⟨s, hexec, hs⟩ := Option.map_eq_some_iff.mp hrun
  exact ⟨s, StepSystem.reachable_of_exec (.init ⟨{}, false, none, false, 0, rfl, rfl⟩) hexec, hs⟩

/-- The exit code of a run without a flaw. -/
theorem exit_code_of_one :
    ∃ s, (system [⟨"AsteRx", "asterx"⟩]).Reachable s ∧ s.pc = .done 0 ∧
      RunEvent.diskStop ∉ s.trace ∧ RunEvent.raised ∉ s.trace ∧
      ∃ status w, RunEvent.finalized status w true ∈ s.trace := by
  obtain ⟨s, hreach, hpc⟩ := exists_ownEnd ⟨.done, .done⟩ (·.pc) (.done 0) (by decide +kernel)
  obtain ⟨status, w, ok, hevent, hcode, -, -⟩ :=
    exit_code [⟨"AsteRx", "asterx"⟩] (by decide +kernel) s hreach 0 hpc
  obtain ⟨-, -, hdisk, -, -, hraised, rfl⟩ := hcode.mp rfl
  exact ⟨s, hreach, hpc, hdisk, hraised, status, w, (hevent _ _ _).mpr ⟨rfl, rfl, rfl⟩⟩

/-! ## What a reader of the manifest concludes -/

theorem FinalDoc.finishedCleanly {status : String} {doc : RunDoc} (hdoc : FinalDoc status doc)
    (hclean : IsCleanStatus status) : finishedCleanly doc = true := by
  have hrecording : doc.recordingFailed = some false := by
    rw [hdoc.recordingFailed, isFailedStatus_of_clean hclean]
  have hstatus : (doc.status = "completed" ∨
      "interrupted (signal ".toList.isPrefixOf doc.status.toList = true) := by
    rw [hdoc.filed]
    obtain rfl | ⟨n, rfl⟩ := hclean
    · exact .inl rfl
    · rw [String.toList_append, String.toList_append]
      exact .inr rfl
  rw [Common.finishedCleanly, hdoc.phase, hdoc.ended, hrecording, Bool.and_eq_true, Bool.or_eq_true,
    decide_eq_true_iff]
  exact ⟨rfl, hstatus⟩

/-- A document of a failed run convinces no reader. -/
theorem FinalDoc.unconvincing {status : String} {doc : RunDoc} (hdoc : FinalDoc status doc)
    (hfailed : DriversJson.isFailedStatus status = true) :
    saysCompleted doc = false ∧ Common.finishedCleanly doc = false := by
  have hrecording : doc.recordingFailed = some true := by rw [hdoc.recordingFailed, hfailed]
  simp [saysCompleted, Common.finishedCleanly, hrecording]

/-- Neither does the document of a run that goes on. -/
theorem unconvincing_of_running {doc : RunDoc} (hdoc : doc.status = "running") :
    saysCompleted doc = false ∧ finishedCleanly doc = false := by
  have hprefix : "interrupted (signal ".toList.isPrefixOf "running".toList = false := by
    decide +kernel
  simp only [saysCompleted, finishedCleanly, hdoc, hprefix]
  simp

/-- **The manifest and the exit code.**  In a run that has ended, a nonzero exit code goes with
a manifest that does not say completed, and a manifest that satisfies `finished_cleanly` with a
zero, exactly when the last write of a flawless run did not fail late: behind the rename that
puts the document in place. -/
theorem manifest_agrees_iff (slots : List DriverSlot) (hkeys : ∀ d ∈ slots, d.key ≠ "")
    (s : Runner) (h : (system slots).Reachable s) (exitCode : Nat) (hpc : s.pc = .done exitCode) :
    ((exitCode ≠ 0 → ∀ doc, s.manifest.canonical = some doc → saysCompleted doc = false) ∧
      (∀ doc, s.manifest.canonical = some doc → finishedCleanly doc = true → exitCode = 0)) ↔
    ∀ status w ok, RunEvent.finalized status w ok ∈ s.trace →
      ¬(Flawless s.trace ∧ s.manifest.failsLate w = true) := by
  obtain ⟨status, w, ok, hf⟩ := filed_of_done hkeys h hpc
  obtain ⟨doc, hcanonical, hfinal, hrunning⟩ := hf.file
  have hcode := hf.code exitCode hpc
  constructor
  · rintro ⟨-, hclean⟩ status' w' ok' hevent ⟨hflawless, hlate⟩
    obtain ⟨-, rfl, -⟩ := (hf.event _ _ _).mp hevent
    obtain ⟨hpublishes, hnotOk⟩ := (DriversJson.failsLate_iff _ _).mp hlate
    have hzero := hclean doc hcanonical ((hfinal hpublishes).finishedCleanly (hf.clean hflawless))
    exact nomatch hnotOk.symm.trans (hf.result.symm.trans (hcode.mp hzero).2)
  · intro hgood
    have hnotLate := hgood status w ok ((hf.event _ _ _).mpr ⟨rfl, rfl, rfl⟩)
    have hunconvincing : exitCode ≠ 0 → saysCompleted doc = false ∧ finishedCleanly doc = false := by
      intro hne
      cases hpublishes : w.canonical.publishes with
      | false => exact unconvincing_of_running (hrunning hpublishes)
      | true =>
        refine (hfinal hpublishes).unconvincing (hf.failed fun hflawless => hnotLate ⟨hflawless, ?_⟩)
        refine (DriversJson.failsLate_iff _ _).mpr ⟨hpublishes, ?_⟩
        exact hf.result ▸ eq_false_of_ne_true fun hok => hne (hcode.mpr ⟨hflawless, hok⟩)
    refine ⟨fun hne doc' hdoc' => ?_, fun doc' hdoc' hclean => ?_⟩
    · obtain rfl := Option.some.inj (hcanonical.symm.trans hdoc')
      exact (hunconvincing hne).1
    · obtain rfl := Option.some.inj (hcanonical.symm.trans hdoc')
      by_contra hne
      exact nomatch (hunconvincing hne).2.symm.trans hclean

/-- The last write of a flawless run fails in the sync of the directory: the exit code is 1, and
the manifest says completed. -/
theorem manifest_disagrees :
    ∃ s, (system [⟨"AsteRx", "asterx"⟩]).Reachable s ∧ s.pc = .done 1 ∧
      ∃ doc, s.manifest.canonical = some doc ∧ saysCompleted doc = true ∧
        finishedCleanly doc = true := by
  obtain ⟨s, hreach, hs⟩ :=
    exists_ownEnd ⟨{ JsonWrite.done with dirSynced := false }, .done⟩
      (fun s => (s.pc, s.manifest.canonical.map fun doc => (saysCompleted doc, finishedCleanly doc)))
      (.done 1, some (true, true)) (by decide +kernel)
  obtain ⟨hpc, hdoc⟩ := Prod.mk.inj hs
  obtain ⟨doc, hcanonical, hdoc⟩ := Option.map_eq_some_iff.mp hdoc
  obtain ⟨hcompleted, hclean⟩ := Prod.mk.inj hdoc
  exact ⟨s, hreach, hpc, doc, hcanonical, hcompleted, hclean⟩

/-- A flawless run whose last write fails early: neither says completed. -/
theorem manifest_agrees_of_one :
    ∃ s, (system [⟨"AsteRx", "asterx"⟩]).Reachable s ∧ s.pc = .done 1 ∧
      ∀ doc, s.manifest.canonical = some doc → saysCompleted doc = false := by
  obtain ⟨s, hreach, hs⟩ :=
    exists_ownEnd ⟨{ JsonWrite.done with opened := false }, .done⟩
      (fun s => (s.pc, s.trace.all fun e =>
        match e with
        | .finalized _ w _ => !s.manifest.failsLate w
        | _ => true))
      (.done 1, true) (by decide +kernel)
  obtain ⟨hpc, hall⟩ := Prod.mk.inj hs
  have hagrees := (manifest_agrees_iff [⟨"AsteRx", "asterx"⟩] (by decide +kernel) s hreach 1 hpc).mpr
    fun status w ok hevent hlate => by
      have hnotLate := List.all_eq_true.mp hall _ hevent
      simp only [hlate.2] at hnotLate
      exact nomatch hnotLate
  exact ⟨s, hreach, hpc, hagrees.1 nofun⟩

end Runner
end Common
end AmigaDrivers
