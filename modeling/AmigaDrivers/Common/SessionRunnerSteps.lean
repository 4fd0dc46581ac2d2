import AmigaDrivers.Common.SessionRunner

/-!
# What a step of a run can do

`Step` lists the ways in which a step changes a run.  Failure flags are only ever set, so
where a step may set some it names the new ones; the termination flags of the drivers decide
nothing but when the run ends.
-/

namespace AmigaDrivers
namespace Common
namespace Runner

/-- Failure flags are sticky. -/
def Keeps (failed failed' : Nat → Bool) : Prop := ∀ i, failed i = true → failed' i = true

/-- Where the coordinator goes on behind `Finalize`. -/
def afterFinalize (c : Caller) (exitCode : Nat) (ok : Bool) : RunnerPc :=
  match c with
  | .destructor => .terminating .destructor
  | .handler => .done exitCode
  | .execute => .done (if ok then exitCode else 1)

/-- A step of a run, by what it does. -/
inductive Step (slots : List DriverSlot) (s : Runner) : Runner → Prop
  | preflightStop (hpc : s.pc = .preflight) :
      Step slots s
        { s with
          pc := .finalizing "failed (disk)" 1 .destructor
          trace := s.trace ++ [.preflightStop] }
  | preflightPass (hpc : s.pc = .preflight) : Step slots s { s with pc := .publishing .first }
  | publish {p : Publication} (hpc : s.pc = .publishing p) (w : ManifestWrite) :
      Step slots s
        { s with
          manifest :=
            (s.manifest.updateLifecycle (s.phaseOf slots.length p).1 (s.phaseOf slots.length p).2 w).1
          pc := afterPublication p
          trace := s.trace ++ [.lifecycle true] }
  | publishFailed {p : Publication} (hpc : s.pc = .publishing p) (w : ManifestWrite) :
      Step slots s
        { s with
          manifest :=
            (s.manifest.updateLifecycle (s.phaseOf slots.length p).1 (s.phaseOf slots.length p).2 w).1
          lifecycleOk := false
          terminate := true
          pc := afterPublication p
          trace := s.trace ++ [.lifecycle false] }
  | initInterrupted {i : Nat} (hpc : s.pc = .initCheck i) :
      Step slots s { s with terminate := true, pc := .spawning 0 }
  | initCall {i : Nat} (hpc : s.pc = .initCheck i) (hi : i < slots.length) :
      Step slots s { s with pc := .initializing i, trace := s.trace ++ [.initCalled i] }
  | initEnd {i : Nat} (hpc : s.pc = .initCheck i) : Step slots s { s with pc := .spawning 0 }
  | initReady {i : Nat} (hpc : s.pc = .initializing i) :
      Step slots s
        { s with
          initialized := s.initialized + 1
          pc := .publishing (.ready i)
          trace := s.trace ++ [.initReturned i .ready] }
  | initFailed {i : Nat} (hpc : s.pc = .initializing i) (result : InitResult)
      (hresult : result ≠ .ready) {failed terminateFlag : Nat → Bool} (hkeep : Keeps s.failed failed) :
      Step slots s
        { s with
          failed
          terminateFlag
          terminate := true
          pc := .spawning 0
          trace := s.trace ++ [.initReturned i result] }
  | spawn {i : Nat} (hpc : s.pc = .spawning i) (hi : i < s.initialized) :
      Step slots s { s with thread := set s.thread i .spawned, pc := .spawning (i + 1) }
  | spawnFailed {i : Nat} (hpc : s.pc = .spawning i) {failed terminateFlag : Nat → Bool}
      (hkeep : Keeps s.failed failed) :
      Step slots s { s with failed, terminateFlag, terminate := true, pc := .entering }
  | spawnEnd {i : Nat} (hpc : s.pc = .spawning i) : Step slots s { s with pc := .entering }
  | enterStopped (hpc : s.pc = .entering) : Step slots s { s with pc := .monitor }
  | enter (hpc : s.pc = .entering) : Step slots s { s with pc := .publishing .running }
  | monitorStop (hpc : s.pc = .monitor) : Step slots s { s with pc := .publishing .stop }
  | monitorDriver (hpc : s.pc = .monitor) (i : Nat) :
      Step slots s
        { s with
          firstToTerminate := nameOf slots i
          driverRequestedStop := true
          pc := .publishing .stop }
  | monitorPass (hpc : s.pc = .monitor) : Step slots s { s with pc := .diskCheck }
  | diskStop (hpc : s.pc = .diskCheck) :
      Step slots s
        { s with
          firstToTerminate := "disk"
          pc := .publishing .stop
          trace := s.trace ++ [.diskStop] }
  | diskPass (hpc : s.pc = .diskCheck) : Step slots s { s with pc := .watchdog }
  | watchdogStop {i : Nat} (hpc : s.pc = .watchdog) (hi : i < s.initialized)
      {terminateFlag : Nat → Bool} :
      Step slots s
        { s with
          failed := set s.failed i true
          terminateFlag
          firstToTerminate := nameOf slots i
          pc := .publishing .stop
          trace := s.trace ++ [.watchdogStop i] }
  | watchdogPass (hpc : s.pc = .watchdog) : Step slots s { s with pc := .monitor }
  | propagate (hpc : s.pc = .stopping) {terminateFlag : Nat → Bool} :
      Step slots s { s with terminateFlag, pc := .terminating .execute }
  | stopFlags {c : Caller} (hpc : s.pc = .terminating c) {terminateFlag : Nat → Bool} :
      Step slots s { s with stopped := true, terminateFlag, pc := .joining 0 c }
  | joinSkip {i : Nat} {c : Caller} (hpc : s.pc = .joining i c) (hi : i < slots.length)
      (hthread : s.thread i = .none ∨ s.thread i = .joined) :
      Step slots s { s with pc := .joining (i + 1) c }
  | join {i : Nat} {c : Caller} (hpc : s.pc = .joining i c) (hi : i < slots.length)
      (hthread : s.thread i = .finished) :
      Step slots s
        { s with
          thread := set s.thread i .joined
          pc := .joining (i + 1) c
          trace := s.trace ++ [.joined i] }
  | joinEnd {i : Nat} {c : Caller} (hpc : s.pc = .joining i c) (hi : slots.length ≤ i) :
      Step slots s { s with pc := .shuttingDown slots.length c }
  | shutdown {i : Nat} {c : Caller} (hpc : s.pc = .shuttingDown (i + 1) c)
      {failed terminateFlag : Nat → Bool} (hkeep : Keeps s.failed failed) :
      Step slots s
        { s with
          failed
          terminateFlag
          pc := .shuttingDown i c
          trace := s.trace ++ [.shutdown i] }
  | stopEndExecute (hpc : s.pc = .shuttingDown 0 .execute) :
      Step slots s { s with pc := .publishing .stopped }
  | stopEndHandler (hpc : s.pc = .shuttingDown 0 .handler) :
      Step slots s { s with failedAtShutdown := "", pc := .collecting 0 true }
  | stopEndDestructor (hpc : s.pc = .shuttingDown 0 .destructor) :
      Step slots s { s with pc := .done 1 }
  | disarm (hpc : s.pc = .disarming) :
      Step slots s { s with failedAtShutdown := "", pc := .collecting 0 false }
  | collectSkip {i : Nat} {caught : Bool} (hpc : s.pc = .collecting i caught) (hi : i < slots.length)
      (hpub : s.published i = true) : Step slots s { s with pc := .collectingFailed i caught }
  | collect {i : Nat} {caught : Bool} (hpc : s.pc = .collecting i caught) (hi : i < slots.length)
      (hpub : s.published i = false) {failed terminateFlag : Nat → Bool}
      (hkeep : Keeps s.failed failed) (name : String) (result : Bool) :
      Step slots s
        { s with
          failed
          terminateFlag
          manifest := s.manifest.addDriverResult name result
          published := set s.published i true
          pc := .collectingFailed i caught
          trace := s.trace ++ [.published i] }
  | collectEndHandler {i : Nat} (hpc : s.pc = .collecting i true) (hi : slots.length ≤ i) :
      Step slots s { s with pc := .finalizing "failed (session coordinator)" 1 .handler }
  | collectEnd {i : Nat} (hpc : s.pc = .collecting i false) (hi : slots.length ≤ i) :
      Step slots s { s with pc := .publishing .collected }
  | collectedFailed {i : Nat} {caught : Bool} (hpc : s.pc = .collectingFailed i caught)
      (hfailed : s.failed i = true) :
      Step slots s
        { s with
          failedAtShutdown :=
            (if s.failedAtShutdown = "" then "" else s.failedAtShutdown ++ ", ") ++ keyOf slots i
          pc := .collecting (i + 1) caught
          trace := s.trace ++ [.collected i (s.failed i)] }
  | collectedFine {i : Nat} {caught : Bool} (hpc : s.pc = .collectingFailed i caught)
      (hfine : s.failed i = false) :
      Step slots s
        { s with
          pc := .collecting (i + 1) caught
          trace := s.trace ++ [.collected i (s.failed i)] }
  | decide (hpc : s.pc = .deciding) :
      Step slots s { s with pc := .finalizing s.verdict.1 s.verdict.2 .execute }
  | finish {status : String} {exitCode : Nat} {c : Caller} (hpc : s.pc = .finalizing status exitCode c)
      (w : ManifestWrite) :
      Step slots s
        { s with
          manifest := (s.manifest.finalize status w).1
          pc := afterFinalize c exitCode (s.manifest.finalize status w).2
          trace := s.trace ++ [.finalized status w (s.manifest.finalize status w).2] }
  | raiseStopped (hraise : mayRaise s.pc = true) (hstopped : s.stopped = true) :
      Step slots s
        { s with
          failedAtShutdown := ""
          pc := .collecting 0 true
          trace := s.trace ++ [.raised] }
  | raise (hraise : mayRaise s.pc = true) (hstopped : s.stopped = false) :
      Step slots s { s with pc := .terminating .handler, trace := s.trace ++ [.raised] }
  | runCalled {i : Nat} (hthread : s.thread i = .spawned) :
      Step slots s { s with thread := set s.thread i .running, trace := s.trace ++ [.runCalled i] }
  | runEnded {i : Nat} (hthread : s.thread i = .running) {failed terminateFlag : Nat → Bool}
      (hkeep : Keeps s.failed failed) :
      Step slots s
        { s with
          failed
          terminateFlag
          thread := set s.thread i .ended
          trace := s.trace ++ [.runEnded i] }
  | threadEnd {i : Nat} (hthread : s.thread i = .ended) {terminateFlag : Nat → Bool} :
      Step slots s { s with terminateFlag, thread := set s.thread i .finished }
  | flags {failed terminateFlag : Nat → Bool} (hkeep : Keeps s.failed failed) {terminate : Bool}
      {signal : Nat} :
      Step slots s { s with failed, terminateFlag, terminate, signalReceived := signal }

theorem Keeps.refl (failed : Nat → Bool) : Keeps failed failed := fun _ h => h

theorem Keeps.set (failed : Nat → Bool) (i : Nat) : Keeps failed (Runner.set failed i true) :=
  fun j h => by
    by_cases hj : j = i
    · exact hj ▸ set_self failed i true
    · exact (set_of_ne failed true hj).trans h

theorem Keeps.trans {f g h : Nat → Bool} (hfg : Keeps f g) (hgh : Keeps g h) : Keeps f h :=
  fun i hi => hgh i (hfg i hi)

variable {slots : List DriverSlot} {s s' : Runner}

theorem Step.of_publish {p : Publication} (hpc : s.pc = .publishing p) (w : ManifestWrite) :
    Step slots s (s.publish slots.length p w) := by
  have hok : Step slots s _ := Step.publish hpc w
  have hfail : Step slots s _ := Step.publishFailed hpc w
  unfold Runner.publish
  rcases hwrite : s.manifest.updateLifecycle (s.phaseOf slots.length p).1
    (s.phaseOf slots.length p).2 w with ⟨manifest, _ | _⟩
  · rw [hwrite] at hfail
    exact hfail
  · rw [hwrite] at hok
    exact hok

theorem Step.of_afterInit {i : Nat} (hpc : s.pc = .initializing i) (result : InitResult) :
    Step slots s (s.afterInit slots.length i result) := by
  unfold afterInit
  cases result with
  | ready => exact .initReady hpc
  | notReady =>
    dsimp only
    split
    · exact .initFailed hpc .notReady nofun (Keeps.refl _)
    · exact .initFailed hpc .notReady nofun (Keeps.set _ i)
  | threw =>
    dsimp only
    split
    · exact .initFailed hpc .threw nofun (Keeps.set _ i)
    · exact .initFailed hpc .threw nofun ((Keeps.set _ i).trans (Keeps.set _ i))

theorem Step.of_spawn {i : Nat} (hpc : s.pc = .spawning i) (spawned : Bool) :
    Step slots s (s.spawn i spawned) := by
  unfold Runner.spawn
  split
  · rename_i hi
    split
    · exact .spawnEnd hpc
    · split
      · exact .spawn hpc hi
      · exact .spawnFailed hpc (Keeps.set _ i)
  · exact .spawnEnd hpc

theorem Step.of_join {i : Nat} {c : Caller} (hpc : s.pc = .joining i c)
    (h : s.join slots.length i c = some s') : Step slots s s' := by
  unfold Runner.join at h
  split at h
  · rename_i hi
    split at h
    · rename_i hthread
      exact Option.some.inj h ▸ .joinSkip hpc hi (.inl hthread)
    · rename_i hthread
      exact Option.some.inj h ▸ .joinSkip hpc hi (.inr hthread)
    · rename_i hthread
      exact Option.some.inj h ▸ .join hpc hi hthread
    · exact nomatch h
    · exact nomatch h
    · exact nomatch h
  · rename_i hi
    exact Option.some.inj h ▸ .joinEnd hpc (Nat.le_of_not_lt hi)

theorem Step.of_shutDown {left : Nat} {c : Caller} (hpc : s.pc = .shuttingDown left c)
    (threw : Bool) : Step slots s (s.shutDown left c threw) := by
  unfold Runner.shutDown
  cases left with
  | succ i =>
    dsimp only
    split
    · exact .shutdown hpc (Keeps.set _ i)
    · exact .shutdown hpc (Keeps.refl _)
  | zero =>
    cases c with
    | execute => exact .stopEndExecute hpc
    | handler => exact .stopEndHandler hpc
    | destructor => exact .stopEndDestructor hpc

theorem Step.of_collect {i : Nat} {caught : Bool} (hpc : s.pc = .collecting i caught) (threw : Bool) :
    Step slots s (Runner.collect slots s i caught threw) := by
  unfold Runner.collect
  split
  · rename_i hi
    split
    · rename_i hpub
      exact .collectSkip hpc hi hpub
    · rename_i hpub
      cases threw with
      | true => exact .collect hpc hi (eq_false_of_ne_true hpub) (Keeps.set _ i) _ _
      | false => exact .collect hpc hi (eq_false_of_ne_true hpub) (Keeps.refl _) _ _
  · rename_i hi
    have hi := Nat.le_of_not_lt hi
    cases caught with
    | true => exact .collectEndHandler hpc hi
    | false => exact .collectEnd hpc hi

theorem Step.of_collectFailed {i : Nat} {caught : Bool} (hpc : s.pc = .collectingFailed i caught) :
    Step slots s (collectFailed slots s i caught) := by
  unfold collectFailed
  dsimp only [log]
  split
  · rename_i hfailed
    exact .collectedFailed hpc hfailed
  · rename_i hfine
    exact .collectedFine hpc (eq_false_of_ne_true hfine)

theorem Step.of_finish {status : String} {exitCode : Nat} {c : Caller}
    (hpc : s.pc = .finalizing status exitCode c) (w : ManifestWrite) :
    Step slots s (s.finish status exitCode c w) := by
  have hstep : Step slots s _ := Step.finish hpc w
  unfold Runner.finish
  cases c <;> exact hstep

theorem Step.of_coordinatorStep {r : Answers} (h : coordinatorStep slots s r = some s') :
    Step slots s s' := by
  unfold coordinatorStep at h
  split at h
  case h_1 hpc =>
    split at h
    · exact Option.some.inj h ▸ .preflightStop hpc
    · exact Option.some.inj h ▸ .preflightPass hpc
  case h_2 hpc => exact Option.some.inj h ▸ .of_publish hpc r.write
  case h_3 hpc =>
    split at h
    · rename_i hi
      split at h
      · exact Option.some.inj h ▸ .initInterrupted hpc
      · exact Option.some.inj h ▸ .initCall hpc hi
    · exact Option.some.inj h ▸ .initEnd hpc
  case h_4 hpc => exact Option.some.inj h ▸ .of_afterInit hpc r.init
  case h_5 hpc => exact Option.some.inj h ▸ .of_spawn hpc r.spawned
  case h_6 hpc =>
    split at h
    · exact Option.some.inj h ▸ .enterStopped hpc
    · exact Option.some.inj h ▸ .enter hpc
  case h_7 hpc =>
    split at h
    · exact Option.some.inj h ▸ .monitorStop hpc
    · split at h
      · split at h
        · exact Option.some.inj h ▸ .monitorDriver hpc _
        · exact nomatch h
      · split at h
        · exact nomatch h
        · exact Option.some.inj h ▸ .monitorPass hpc
  case h_8 hpc =>
    split at h
    · exact Option.some.inj h ▸ .diskStop hpc
    · exact Option.some.inj h ▸ .diskPass hpc
  case h_9 hpc =>
    split at h
    · split at h
      · rename_i hi
        exact Option.some.inj h ▸ .watchdogStop hpc hi
      · exact nomatch h
    · exact Option.some.inj h ▸ .watchdogPass hpc
  case h_10 hpc => exact Option.some.inj h ▸ .propagate hpc
  case h_11 hpc => exact Option.some.inj h ▸ .stopFlags hpc
  case h_12 hpc => exact .of_join hpc h
  case h_13 hpc => exact Option.some.inj h ▸ .of_shutDown hpc r.shutdownThrew
  case h_14 hpc => exact Option.some.inj h ▸ .disarm hpc
  case h_15 hpc => exact Option.some.inj h ▸ .of_collect hpc r.statisticsThrew
  case h_16 hpc => exact Option.some.inj h ▸ .of_collectFailed hpc
  case h_17 hpc => exact Option.some.inj h ▸ .decide hpc
  case h_18 hpc => exact Option.some.inj h ▸ .of_finish hpc r.write
  case h_19 => exact nomatch h

theorem Step.of_threadStep {i : Nat} {threw : Bool} (h : s.threadStep i threw = some s') :
    Step slots s s' := by
  unfold threadStep at h
  split at h
  case h_1 hthread => exact Option.some.inj h ▸ .runCalled hthread
  case h_2 hthread =>
    cases threw with
    | true => exact Option.some.inj h ▸ .runEnded hthread (Keeps.set _ i)
    | false => exact Option.some.inj h ▸ .runEnded hthread (Keeps.refl _)
  case h_3 hthread => exact Option.some.inj h ▸ .threadEnd hthread
  all_goals exact nomatch h

theorem Step.of_raise (h : s.raise = some s') : Step slots s s' := by
  unfold Runner.raise at h
  split at h
  · rename_i hraise
    split at h
    · rename_i hstopped
      exact Option.some.inj h ▸ .raiseStopped hraise hstopped
    · rename_i hstopped
      exact Option.some.inj h ▸ .raise hraise (eq_false_of_ne_true hstopped)
  · exact nomatch h

/-- **Every step is on the list.** -/
theorem Step.of_step {a : RunnerAction} (h : step slots s a = some s') : Step slots s s' := by
  cases a with
  | coordinator r => exact .of_coordinatorStep h
  | raise => exact .of_raise h
  | thread i threw => exact .of_threadStep h
  | driverFails i => exact Option.some.inj h ▸ .flags (Keeps.set _ i)
  | driverStops i => exact Option.some.inj h ▸ .flags (Keeps.refl _)
  | signalNumber n => exact Option.some.inj h ▸ .flags (Keeps.refl _)
  | signalTerminate => exact Option.some.inj h ▸ .flags (Keeps.refl _)

end Runner
end Common
end AmigaDrivers
