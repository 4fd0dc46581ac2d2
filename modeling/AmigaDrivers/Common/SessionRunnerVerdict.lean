import AmigaDrivers.Common.SessionRunnerLifecycle
import Mathlib.Data.List.GetD

/-!
# The verdict on a session

* `Path`: how far `RunSession` is on its way to an exit code.
* `Causes`: what the coordinator's variables say of the disk, the watchdog and the writes of
  the manifest.
* `Tally`: what `CollectResults` has gathered, and where an exception leads.
* `Flawless`: nothing has gone wrong.
* `verdict_spec`: the decision is zero exactly for a flawless run.
-/

namespace AmigaDrivers
namespace Common

/-- The way to an exit code: in `Execute` before the monitor has stopped the run, behind that,
in `CollectResults` or behind it, with the outcome decided; behind the disk check before the
bring-up; in the catch block; done. -/
inductive Path
  | watching
  | stopping
  | collecting (i : Nat)
  | collected
  | decided (status : String) (exitCode : Nat)
  | leaving
  | handling
  | done (exitCode : Nat)
  deriving DecidableEq

def RunnerPc.path : RunnerPc → Path
  | .preflight | .publishing .first | .publishing (.ready _) | .publishing .running | .initCheck _
  | .initializing _ | .spawning _ | .entering | .monitor | .diskCheck | .watchdog => .watching
  | .publishing .stop | .stopping | .terminating .execute | .joining _ .execute
  | .shuttingDown _ .execute | .publishing .stopped | .disarming => .stopping
  | .collecting i false | .collectingFailed i false => .collecting i
  | .publishing .collected | .deciding => .collected
  | .finalizing status exitCode .execute => .decided status exitCode
  | .terminating .destructor | .joining _ .destructor | .shuttingDown _ .destructor
  | .finalizing _ _ .destructor => .leaving
  | .terminating .handler | .joining _ .handler | .shuttingDown _ .handler
  | .collecting _ true | .collectingFailed _ true | .finalizing _ _ .handler => .handling
  | .done exitCode => .done exitCode

namespace Path

/-- Behind the disk check before the bring-up, or done. -/
def leaves : Path → Bool
  | .leaving | .done _ => true
  | .watching | .stopping | .collecting _ | .collected | .decided _ _ | .handling => false

/-- In the catch block, or done. -/
def handles : Path → Bool
  | .handling | .done _ => true
  | .watching | .stopping | .collecting _ | .collected | .decided _ _ | .leaving => false

/-- In `Execute`, before `CollectResults`. -/
def uncollected : Path → Bool
  | .watching | .stopping => true
  | .collecting _ | .collected | .decided _ _ | .leaving | .handling | .done _ => false

/-- In `Execute`, with `HasFailed` read for the drivers below an index. -/
def gathered (n : Nat) : Path → Option Nat
  | .collecting i => some i
  | .collected => some n
  | .watching | .stopping | .decided _ _ | .leaving | .handling | .done _ => none

end Path

namespace Runner

variable {slots : List DriverSlot} {s s' : Runner}

/-- An event of another kind makes no difference to those of a kind. -/
theorem mem_log_iff {p : RunEvent → Bool} {trace : List RunEvent} {e e' : RunEvent}
    (he : p e = true) (he' : p e' = false) : e ∈ trace ++ [e'] ↔ e ∈ trace := by
  refine ⟨fun h => mem_of_log h fun heq => ?_, List.mem_append_left _⟩
  rw [heq] at he
  exact nomatch he.symm.trans he'

theorem path_afterPublication (p : Publication) :
    (afterPublication p).path = (RunnerPc.publishing p).path := by
  cases p <;> rfl

/-! ## Why the run ends -/

structure Causes (n : Nat) (s : Runner) : Prop where
  lifecycle : s.lifecycleOk = false ↔ RunEvent.lifecycle false ∈ s.trace
  watching : s.pc.path = .watching → s.firstToTerminate = "" ∧ s.driverRequestedStop = false ∧
    RunEvent.diskStop ∉ s.trace ∧ ∀ i, RunEvent.watchdogStop i ∉ s.trace
  stopped : s.firstToTerminate ≠ "" → s.driverRequestedStop = false →
    RunEvent.diskStop ∈ s.trace ∨ ∃ i, RunEvent.watchdogStop i ∈ s.trace
  disk : RunEvent.diskStop ∈ s.trace → s.firstToTerminate = "disk" ∧ s.driverRequestedStop = false
  watchdog : ∀ i, RunEvent.watchdogStop i ∈ s.trace → i < n ∧ s.failed i = true

/-- The events that tell why a run ends. -/
def RunEvent.isCause : RunEvent → Bool
  | .diskStop | .watchdogStop _ => true
  | .lifecycle ok => !ok
  | .initCalled _ | .initReturned _ _ | .runCalled _ | .runEnded _ | .joined _ | .shutdown _
  | .published _ | .collected _ _ | .preflightStop | .raised | .finalized _ _ _ => false

/-- Steps that give no reason to end the run. -/
theorem Causes.of_same (hs : Causes slots.length s)
    (hsame : (s'.lifecycleOk, s'.firstToTerminate, s'.driverRequestedStop) =
      (s.lifecycleOk, s.firstToTerminate, s.driverRequestedStop))
    (hkeep : Keeps s.failed s'.failed)
    (hpath : s'.pc.path = .watching → s.pc.path = .watching)
    (htrace : s'.trace = s.trace ∨ ∃ e, s'.trace = s.trace ++ [e] ∧ RunEvent.isCause e = false) :
    Causes slots.length s' := by
  simp only [Prod.mk.injEq] at hsame
  obtain ⟨hok, hfirst, hrequested⟩ := hsame
  have hmem : ∀ e, RunEvent.isCause e = true → (e ∈ s'.trace ↔ e ∈ s.trace) := by
    intro e he
    obtain htrace | ⟨e', htrace, he'⟩ := htrace <;> rw [htrace]
    exact mem_log_iff he he'
  refine ⟨?_, fun h => ?_, fun h h' => ?_, fun h => ?_, fun i h => ?_⟩
  · rw [hok, hmem _ rfl, hs.lifecycle]
  · obtain ⟨hfirst', hrequested', hdisk, hwatchdog⟩ := hs.watching (hpath h)
    exact ⟨hfirst.trans hfirst', hrequested.trans hrequested', mt (hmem _ rfl).mp hdisk,
      fun i => mt (hmem _ rfl).mp (hwatchdog i)⟩
  · obtain hdisk | ⟨i, hwatchdog⟩ := hs.stopped (hfirst ▸ h) (hrequested ▸ h')
    · exact .inl ((hmem _ rfl).mpr hdisk)
    · exact .inr ⟨i, (hmem _ rfl).mpr hwatchdog⟩
  · obtain ⟨hname, hnot⟩ := hs.disk ((hmem _ rfl).mp h)
    exact ⟨hfirst.trans hname, hrequested.trans hnot⟩
  · obtain ⟨hi, hfailed⟩ := hs.watchdog i ((hmem _ rfl).mp h)
    exact ⟨hi, hkeep i hfailed⟩

theorem Causes.step (hb : BringUp slots.length s) (hs : Causes slots.length s)
    (h : Step slots s s') : Causes slots.length s' := by
  cases h with
  | @publish p hpc w =>
    exact hs.of_same rfl (Keeps.refl _) (by rw [hpc]; exact fun h => path_afterPublication p ▸ h)
      (.inr ⟨_, rfl, rfl⟩)
  | @publishFailed p hpc w =>
    refine ⟨⟨fun _ => List.mem_append_right _ (List.mem_singleton.mpr rfl), fun _ => rfl⟩,
      fun h => ?_, fun h h' => ?_, fun h => hs.disk (mem_of_log h nofun),
      fun i h => hs.watchdog i (mem_of_log h nofun)⟩
    · obtain ⟨hfirst, hrequested, hdisk, hwatchdog⟩ :=
        hs.watching (by rw [hpc, ← path_afterPublication]; exact h)
      exact ⟨hfirst, hrequested, fun h => hdisk (mem_of_log h nofun),
        fun i h => hwatchdog i (mem_of_log h nofun)⟩
    · exact (hs.stopped h h').imp (List.mem_append_left _) fun ⟨i, hi⟩ =>
        ⟨i, List.mem_append_left _ hi⟩
  | @finish status exitCode c hpc w =>
    refine hs.of_same rfl (Keeps.refl _) ?_ (.inr ⟨_, rfl, rfl⟩)
    cases c <;> exact nofun
  | raiseStopped hraise hpast | raise hraise hpast =>
    exact hs.of_same rfl (Keeps.refl _) nofun (.inr ⟨_, rfl, rfl⟩)
  | runCalled _ => exact hs.of_same rfl (Keeps.refl _) id (.inr ⟨_, rfl, rfl⟩)
  | runEnded _ hkeep => exact hs.of_same rfl hkeep id (.inr ⟨_, rfl, rfl⟩)
  | threadEnd _ => exact hs.of_same rfl (Keeps.refl _) id (.inl rfl)
  | flags hkeep => exact hs.of_same rfl hkeep id (.inl rfl)
  | @shutdown _ c hpc _ _ hkeep | @collect _ c hpc _ _ _ _ hkeep name result =>
    refine hs.of_same rfl hkeep ?_ (.inr ⟨_, rfl, rfl⟩)
    cases c <;> exact nofun
  | @join _ c hpc | @collectedFailed _ c hpc | @collectedFine _ c hpc =>
    refine hs.of_same rfl (Keeps.refl _) ?_ (.inr ⟨_, rfl, rfl⟩)
    cases c <;> exact nofun
  | @stopFlags c | @joinSkip _ c | @joinEnd _ c | @collectSkip _ c =>
    refine hs.of_same rfl (Keeps.refl _) ?_ (.inl rfl)
    cases c <;> exact nofun
  | monitorDriver hpc i =>
    obtain ⟨-, -, hdisk, hwatchdog⟩ := hs.watching (by rw [hpc]; rfl)
    exact ⟨hs.lifecycle, nofun, nofun, fun h => absurd h hdisk, fun i h => absurd h (hwatchdog i)⟩
  | diskStop hpc =>
    obtain ⟨-, hrequested, -, hwatchdog⟩ := hs.watching (by rw [hpc]; rfl)
    refine ⟨⟨fun h => List.mem_append_left _ (hs.lifecycle.mp h),
      fun h => hs.lifecycle.mpr (mem_of_log h nofun)⟩, nofun, fun _ _ => .inl ?_,
      fun _ => ⟨rfl, hrequested⟩, fun i h => absurd (mem_of_log h nofun) (hwatchdog i)⟩
    exact List.mem_append_right _ (List.mem_singleton.mpr rfl)
  | @watchdogStop i hpc hi =>
    obtain ⟨-, -, hdisk, hwatchdog⟩ := hs.watching (by rw [hpc]; rfl)
    refine ⟨⟨fun h => List.mem_append_left _ (hs.lifecycle.mp h),
      fun h => hs.lifecycle.mpr (mem_of_log h nofun)⟩, nofun, fun _ _ => .inr ⟨i, ?_⟩,
      fun h => absurd (mem_of_log h nofun) hdisk, fun j h => ?_⟩
    · exact List.mem_append_right _ (List.mem_singleton.mpr rfl)
    · obtain h | h := List.mem_append.mp h
      · exact absurd h (hwatchdog j)
      · obtain rfl : j = i := RunEvent.watchdogStop.inj (List.mem_singleton.mp h)
        exact ⟨Nat.lt_of_lt_of_le hi hb.bound, set_self s.failed j true⟩
  | preflightStop hpc | initCall hpc _ | initReady hpc =>
    refine hs.of_same rfl (Keeps.refl _) ?_ (.inr ⟨_, rfl, rfl⟩)
    rw [hpc]
    exact fun _ => rfl
  | initFailed hpc _ _ hkeep =>
    exact hs.of_same rfl hkeep (by rw [hpc]; exact id) (.inr ⟨_, rfl, rfl⟩)
  | spawnFailed hpc hkeep => exact hs.of_same rfl hkeep (by rw [hpc]; exact id) (.inl rfl)
  | preflightPass hpc | initInterrupted hpc | initEnd hpc | spawn hpc _ | spawnEnd hpc
  | enterStopped hpc | enter hpc | monitorPass hpc | diskPass hpc | watchdogPass hpc =>
    exact hs.of_same rfl (Keeps.refl _) (by rw [hpc]; exact id) (.inl rfl)
  | _ => exact hs.of_same rfl (Keeps.refl _) nofun (.inl rfl)

/-! ## What has been gathered -/

/-- The results gathered so far, and where a stop before the bring-up or an exception leads. -/
structure Tally (n : Nat) (s : Runner) : Prop where
  preflight : RunEvent.preflightStop ∈ s.trace → s.pc.path.leaves = true
  raised : RunEvent.raised ∈ s.trace → s.pc.path.handles = true
  uncollected : s.pc.path.uncollected = true → ∀ i, RunEvent.collected i true ∉ s.trace
  failed : ∀ k, s.pc.path.gathered n = some k →
    (s.failedAtShutdown ≠ "" ↔ ∃ i, RunEvent.collected i true ∈ s.trace)
  reported : ∀ k, s.pc.path.gathered n = some k →
    ∀ i < k, RunEvent.watchdogStop i ∈ s.trace → RunEvent.collected i true ∈ s.trace
  index : ∀ i c, s.pc = .collectingFailed i c → i < n

theorem keyOf_ne_empty (hkeys : ∀ d ∈ slots, d.key ≠ "") {i : Nat} (hi : i < slots.length) :
    keyOf slots i ≠ "" := by
  unfold keyOf
  rw [List.getD_eq_getElem _ _ hi]
  exact hkeys _ (List.getElem_mem hi)

theorem append_ne_empty (a : String) {b : String} (hb : b ≠ "") : a ++ b ≠ "" := by
  intro h
  have hlist := congrArg String.toList h
  rw [String.toList_append] at hlist
  exact hb (String.toList_inj.mp (List.append_eq_nil_iff.mp hlist).2)

/-- The events `Tally` counts. -/
def RunEvent.isTallied : RunEvent → Bool
  | .collected _ failed => failed
  | .preflightStop | .watchdogStop _ | .raised => true
  | .initCalled _ | .initReturned _ _ | .runCalled _ | .runEnded _ | .joined _ | .shutdown _
  | .published _ | .diskStop | .lifecycle _ | .finalized _ _ _ => false

/-- Steps that leave the path and the results alone. -/
theorem Tally.of_same (hs : Tally slots.length s) (hpath : s'.pc.path = s.pc.path)
    (hfailed : s'.failedAtShutdown = s.failedAtShutdown)
    (hindex : ∀ i c, s'.pc = .collectingFailed i c → i < slots.length)
    (htrace : s'.trace = s.trace ∨
      ∃ e, s'.trace = s.trace ++ [e] ∧ RunEvent.isTallied e = false) : Tally slots.length s' := by
  have hmem : ∀ e, RunEvent.isTallied e = true → (e ∈ s'.trace ↔ e ∈ s.trace) := by
    intro e he
    obtain htrace | ⟨e', htrace, he'⟩ := htrace <;> rw [htrace]
    exact mem_log_iff he he'
  refine ⟨fun h => hpath ▸ hs.preflight ((hmem _ rfl).mp h),
    fun h => hpath ▸ hs.raised ((hmem _ rfl).mp h), fun h i hi => ?_, fun k hk => ?_,
    fun k hk i hi h => ?_, hindex⟩
  · exact hs.uncollected (hpath ▸ h) i ((hmem _ rfl).mp hi)
  · rw [hfailed, hs.failed k (hpath ▸ hk)]
    exact exists_congr fun i => (hmem _ rfl).symm
  · exact (hmem _ rfl).mpr (hs.reported k (hpath ▸ hk) i hi ((hmem _ rfl).mp h))

/-- Steps behind which `Execute` has gathered nothing, or nothing any more. -/
theorem Tally.of_ungathered (hs : Tally slots.length s)
    (hleaves : s.pc.path.leaves = true → s'.pc.path.leaves = true)
    (hhandles : s.pc.path.handles = true → s'.pc.path.handles = true)
    (huncollected : s'.pc.path.uncollected = true → s.pc.path.uncollected = true)
    (hgathered : s'.pc.path.gathered slots.length = none)
    (hindex : ∀ i c, s'.pc = .collectingFailed i c → i < slots.length)
    (hpreflight : RunEvent.preflightStop ∈ s'.trace → RunEvent.preflightStop ∈ s.trace)
    (hraised : RunEvent.raised ∈ s'.trace → RunEvent.raised ∈ s.trace)
    (hcollected : s'.pc.path.uncollected = true → ∀ i,
      RunEvent.collected i true ∈ s'.trace → RunEvent.collected i true ∈ s.trace) :
    Tally slots.length s' where
  preflight h := hleaves (hs.preflight (hpreflight h))
  raised h := hhandles (hs.raised (hraised h))
  uncollected h i hi := hs.uncollected (huncollected h) i (hcollected h i hi)
  failed _ hk := nomatch hgathered.symm.trans hk
  reported _ hk := nomatch hgathered.symm.trans hk
  index := hindex

theorem leaves_of_mayRaise {pc : RunnerPc} (h : mayRaise pc = true) : pc.path.leaves = false := by
  cases pc with
  | publishing p => cases p <;> rfl
  | collecting i caught | collectingFailed i caught =>
    cases caught with
    | false => rfl
    | true => exact nomatch h
  | _ => first | rfl | exact nomatch h

/-- An exception leads to the catch block. -/
theorem Tally.of_raise (hs : Tally slots.length s) (hraise : mayRaise s.pc = true)
    (htrace : s'.trace = s.trace ++ [.raised]) (hpath : s'.pc.path = .handling)
    (hindex : ∀ i c, s'.pc ≠ .collectingFailed i c) : Tally slots.length s' where
  preflight h := by
    rw [htrace] at h
    exact nomatch (leaves_of_mayRaise hraise).symm.trans (hs.preflight (mem_of_log h nofun))
  raised _ := by rw [hpath]; rfl
  uncollected h := by rw [hpath] at h; exact nomatch h
  failed k hk := by rw [hpath] at hk; exact nomatch hk
  reported k hk := by rw [hpath] at hk; exact nomatch hk
  index i c h := absurd h (hindex i c)

theorem Tally.step (hkeys : ∀ d ∈ slots, d.key ≠ "") (hc : Causes slots.length s)
    (hs : Tally slots.length s) (h : Step slots s s') : Tally slots.length s' := by
  have hwatchdog := hc.watchdog
  cases h with
  | @publish p hpc w | @publishFailed p hpc w =>
    refine hs.of_same ((path_afterPublication p).trans (by rw [hpc])) rfl ?_ (.inr ⟨_, rfl, rfl⟩)
    cases p <;> exact nofun
  | @finish status exitCode c hpc w =>
    cases c with
    | destructor =>
      exact hs.of_same (by rw [hpc]; rfl) rfl nofun (.inr ⟨_, rfl, rfl⟩)
    | handler | execute =>
      exact ⟨fun _ => rfl, fun _ => rfl, nofun, nofun, nofun, nofun⟩
  | raiseStopped hraise hpast => exact hs.of_raise hraise rfl rfl nofun
  | raise hraise hpast => exact hs.of_raise hraise rfl rfl nofun
  | preflightStop hpc =>
    refine ⟨fun _ => rfl, fun h => ?_, nofun, nofun, nofun, nofun⟩
    have hhandles := hs.raised (mem_of_log h nofun)
    rw [hpc] at hhandles
    exact nomatch hhandles
  | diskStop hpc | watchdogStop hpc _ =>
    exact hs.of_ungathered (by rw [hpc]; exact id) (by rw [hpc]; exact id) (by rw [hpc]; exact fun _ => rfl)
      rfl nofun (fun h => mem_of_log h nofun) (fun h => mem_of_log h nofun)
      fun _ _ h => mem_of_log h nofun
  | monitorStop hpc | monitorDriver hpc _ =>
    exact hs.of_ungathered (by rw [hpc]; exact id) (by rw [hpc]; exact id) (by rw [hpc]; exact fun _ => rfl)
      rfl nofun id id fun _ _ => id
  | stopEndHandler hpc | decide hpc =>
    exact hs.of_ungathered (by rw [hpc]; exact id) (by rw [hpc]; exact id) nofun rfl nofun id id
      fun _ _ => id
  | stopEndDestructor hpc =>
    exact hs.of_ungathered (fun _ => rfl) (fun _ => rfl) nofun rfl nofun id id fun _ _ => id
  | disarm hpc =>
    have hnone := hs.uncollected (by rw [hpc]; rfl)
    refine ⟨fun h => ?_, fun h => ?_, nofun, fun k _ => ?_, fun k hk i hi => ?_, nofun⟩
    · have hleaves := hs.preflight h
      rw [hpc] at hleaves
      exact hleaves
    · have hhandles := hs.raised h
      rw [hpc] at hhandles
      exact hhandles
    · exact ⟨fun h => absurd rfl h, fun ⟨i, hi⟩ => absurd hi (hnone i)⟩
    · obtain rfl : 0 = k := Option.some.inj hk
      exact nomatch hi
  | @collectSkip i caught hpc hi hpub =>
    refine hs.of_same (by rw [hpc]; cases caught <;> rfl) rfl (fun j c hj => ?_) (.inl rfl)
    obtain ⟨rfl, -⟩ := RunnerPc.collectingFailed.inj hj
    exact hi
  | @collect i caught hpc hi hpub _ _ hkeep name result =>
    refine hs.of_same (by rw [hpc]; cases caught <;> rfl) rfl (fun j c hj => ?_)
      (.inr ⟨_, rfl, rfl⟩)
    obtain ⟨rfl, -⟩ := RunnerPc.collectingFailed.inj hj
    exact hi
  | @collectedFailed i caught hpc hfailed =>
    have hkey := keyOf_ne_empty hkeys (hs.index i caught hpc)
    cases caught with
    | true =>
      exact hs.of_ungathered (by rw [hpc]; exact id) (by rw [hpc]; exact id) nofun rfl nofun
        (fun h => mem_of_log h nofun) (fun h => mem_of_log h nofun) nofun
    | false =>
      have hmem : RunEvent.collected i true ∈ s.trace ++ [.collected i (s.failed i)] := by
        rw [hfailed]
        exact List.mem_append_right _ (List.mem_singleton.mpr rfl)
      have hpath : s.pc.path = .collecting i := by rw [hpc]; rfl
      refine ⟨fun h => ?_, fun h => ?_, nofun, fun k _ => ?_, fun k hk j hj hstop => ?_, nofun⟩
      · exact nomatch (hpath ▸ hs.preflight (mem_of_log h nofun))
      · exact nomatch (hpath ▸ hs.raised (mem_of_log h nofun))
      · exact ⟨fun _ => ⟨i, hmem⟩, fun _ => append_ne_empty _ hkey⟩
      · obtain rfl : i + 1 = k := Option.some.inj hk
        by_cases hij : j = i
        · exact hij ▸ hmem
        · exact List.mem_append_left _ (hs.reported i (hpath ▸ rfl) j (by omega)
            (mem_of_log hstop nofun))
  | @collectedFine i caught hpc hfine =>
    cases caught with
    | true =>
      exact hs.of_ungathered (by rw [hpc]; exact id) (by rw [hpc]; exact id) nofun rfl nofun
        (fun h => mem_of_log h nofun) (fun h => mem_of_log h nofun) nofun
    | false =>
      have hpath : s.pc.path = .collecting i := by rw [hpc]; rfl
      have hsame : ∀ j, RunEvent.collected j true ∈ s.trace ++ [.collected i (s.failed i)] ↔
          RunEvent.collected j true ∈ s.trace := fun j =>
        ⟨fun h => mem_of_log h (by simp [hfine]), List.mem_append_left _⟩
      refine ⟨fun h => ?_, fun h => ?_, nofun, fun k _ => ?_, fun k hk j hj hstop => ?_, nofun⟩
      · exact nomatch (hpath ▸ hs.preflight (mem_of_log h nofun))
      · exact nomatch (hpath ▸ hs.raised (mem_of_log h nofun))
      · rw [hs.failed i (hpath ▸ rfl)]
        simp only [hsame]
      · obtain rfl : i + 1 = k := Option.some.inj hk
        have hstop := mem_of_log hstop nofun
        -- a driver the watchdog has stopped has failed, and this one has not
        have hij : j ≠ i := fun hij => by
          rw [hij] at hstop
          exact nomatch hfine.symm.trans (hwatchdog i hstop).2
        exact (hsame j).mpr (hs.reported i (hpath ▸ rfl) j (by omega) hstop)
  | @collectEnd i hpc hi =>
    have hpath : s.pc.path = .collecting i := by rw [hpc]; rfl
    refine ⟨fun h => ?_, fun h => ?_, nofun, fun k _ => hs.failed i (hpath ▸ rfl),
      fun k hk j hj => ?_, nofun⟩
    · exact nomatch (hpath ▸ hs.preflight h)
    · exact nomatch (hpath ▸ hs.raised h)
    · obtain rfl : slots.length = k := Option.some.inj hk
      exact hs.reported i (hpath ▸ rfl) j (Nat.lt_of_lt_of_le hj hi)
  | runCalled _ | runEnded _ _ => exact hs.of_same rfl rfl hs.index (.inr ⟨_, rfl, rfl⟩)
  | threadEnd _ | flags _ => exact hs.of_same rfl rfl hs.index (.inl rfl)
  | @stopFlags c hpc | @joinSkip _ c hpc | @joinEnd _ c hpc =>
    exact hs.of_same (by rw [hpc]; cases c <;> rfl) rfl nofun (.inl rfl)
  | @join _ c hpc | @shutdown _ c hpc =>
    exact hs.of_same (by rw [hpc]; cases c <;> rfl) rfl nofun (.inr ⟨_, rfl, rfl⟩)
  | initCall hpc _ | initReady hpc | initFailed hpc _ _ _ =>
    exact hs.of_same (by rw [hpc]; rfl) rfl nofun (.inr ⟨_, rfl, rfl⟩)
  | _ =>
    have hpc := ‹s.pc = _›
    exact hs.of_same (by rw [hpc]; rfl) rfl nofun (.inl rfl)

/-! ## The verdict -/

/-- Nothing has gone wrong: no driver has reported a failure at its collection, neither the
disk nor the watchdog has stopped the run, every update of the lifecycle was written, and the
coordinator has raised no exception. -/
structure Flawless (trace : List RunEvent) : Prop where
  collected : ∀ i, RunEvent.collected i true ∉ trace
  preflight : RunEvent.preflightStop ∉ trace
  disk : RunEvent.diskStop ∉ trace
  watchdog : ∀ i, RunEvent.watchdogStop i ∉ trace
  lifecycle : RunEvent.lifecycle false ∉ trace
  raised : RunEvent.raised ∉ trace

/-- The events that are flaws. -/
def RunEvent.isFlaw : RunEvent → Bool
  | .collected _ failed => failed
  | .preflightStop | .diskStop | .watchdogStop _ | .raised => true
  | .lifecycle ok => !ok
  | .initCalled _ | .initReturned _ _ | .runCalled _ | .runEnded _ | .joined _ | .shutdown _
  | .published _ | .finalized _ _ _ => false

theorem flawless_iff (trace : List RunEvent) :
    Flawless trace ↔ ∀ e ∈ trace, RunEvent.isFlaw e = false := by
  constructor
  · rintro ⟨hcollected, hpreflight, hdisk, hwatchdog, hlifecycle, hraised⟩ e he
    cases e with
    | collected i failed =>
      cases failed with
      | true => exact absurd he (hcollected i)
      | false => rfl
    | lifecycle ok =>
      cases ok with
      | true => rfl
      | false => exact absurd he hlifecycle
    | preflightStop => exact absurd he hpreflight
    | diskStop => exact absurd he hdisk
    | watchdogStop i => exact absurd he (hwatchdog i)
    | raised => exact absurd he hraised
    | _ => rfl
  · intro h
    have hnot : ∀ {e : RunEvent}, RunEvent.isFlaw e = true → e ∉ trace := fun htrue he =>
      nomatch htrue.symm.trans (h _ he)
    exact ⟨fun _ => hnot rfl, hnot rfl, hnot rfl, fun _ => hnot rfl, hnot rfl, hnot rfl⟩

theorem flawless_log {trace : List RunEvent} {e : RunEvent} (he : RunEvent.isFlaw e = false) :
    Flawless (trace ++ [e]) ↔ Flawless trace := by
  simp only [flawless_iff, List.mem_append, List.mem_singleton]
  constructor
  · exact fun h e' he' => h e' (.inl he')
  · rintro h e' (he' | rfl)
    · exact h e' he'
    · exact he

/-- A status of a run that has not failed. -/
def IsCleanStatus (status : String) : Prop :=
  status = "completed" ∨ ∃ n : Nat, status = "interrupted (signal " ++ toString n ++ ")"

theorem isFailedStatus_append (what : String) :
    DriversJson.isFailedStatus ("failed (" ++ what ++ ")") = true := by
  unfold DriversJson.isFailedStatus
  rw [String.toList_append, String.toList_append]
  rfl

theorem isFailedStatus_of_clean {status : String} (h : IsCleanStatus status) :
    DriversJson.isFailedStatus status = false := by
  obtain rfl | ⟨n, rfl⟩ := h
  · decide +kernel
  · unfold DriversJson.isFailedStatus
    rw [String.toList_append, String.toList_append]
    rfl

/-- The decision is zero exactly when nothing has gone wrong, and its status says so. -/
theorem verdict_spec (hc : Causes slots.length s) (ht : Tally slots.length s)
    (hpath : s.pc.path = .collected) :
    (s.verdict.2 = 0 ↔ Flawless s.trace) ∧ (s.verdict.2 = 0 → IsCleanStatus s.verdict.1) ∧
      (s.verdict.2 ≠ 0 → DriversJson.isFailedStatus s.verdict.1 = true) := by
  have hfailed := ht.failed slots.length (by rw [hpath]; rfl)
  have hreported := ht.reported slots.length (by rw [hpath]; rfl)
  have hpreflight : RunEvent.preflightStop ∉ s.trace := fun h =>
    nomatch (hpath ▸ ht.preflight h)
  have hraised : RunEvent.raised ∉ s.trace := fun h => nomatch (hpath ▸ ht.raised h)
  unfold verdict
  split
  · rename_i hlifecycle
    refine ⟨⟨nofun, fun h => absurd (hc.lifecycle.mp (by simpa using hlifecycle)) h.lifecycle⟩,
      nofun, fun _ => ?_⟩
    decide +kernel
  · rename_i hlifecycle
    split
    · rename_i hkeys
      obtain ⟨i, hi⟩ := hfailed.mp hkeys
      exact ⟨⟨nofun, fun h => absurd hi (h.collected i)⟩, nofun,
        fun _ => isFailedStatus_append _⟩
    · rename_i hkeys
      have hcollected : ∀ i, RunEvent.collected i true ∉ s.trace := fun i hi =>
        hkeys (hfailed.mpr ⟨i, hi⟩)
      -- the watchdog fails the driver it stops for, so only the disk is left as a cause
      have hwatchdog : ∀ i, RunEvent.watchdogStop i ∉ s.trace := fun i hi =>
        hcollected i (hreported i (hc.watchdog i hi).1 hi)
      split
      · rename_i hfirst
        obtain hdisk | ⟨i, hi⟩ := hc.stopped hfirst.1 hfirst.2
        · exact ⟨⟨nofun, fun h => absurd hdisk h.disk⟩, nofun, fun _ => isFailedStatus_append _⟩
        · exact absurd hi (hwatchdog i)
      · rename_i hfirst
        have hdisk : RunEvent.diskStop ∉ s.trace := fun h => by
          obtain ⟨hname, hrequested⟩ := hc.disk h
          exact hfirst ⟨by rw [hname]; decide, hrequested⟩
        have hflawless : Flawless s.trace :=
          ⟨hcollected, hpreflight, hdisk, hwatchdog,
            fun h => hlifecycle (by simpa using hc.lifecycle.mpr h), hraised⟩
        split
        · exact ⟨⟨fun _ => hflawless, fun _ => rfl⟩, fun _ => .inr ⟨_, rfl⟩, fun h => absurd rfl h⟩
        · exact ⟨⟨fun _ => hflawless, fun _ => rfl⟩, fun _ => .inl rfl, fun h => absurd rfl h⟩

end Runner
end Common
end AmigaDrivers
