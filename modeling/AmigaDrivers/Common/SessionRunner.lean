import AmigaDrivers.Common.DriversJson
import AmigaDrivers.Foundation.StepSystem

/-!
# The session runner

`common::RunSession` brings the drivers of a rig up one after another, runs each on a thread
of its own, watches them, and takes them down together.  The coordinator is a program counter
over `Execute`, its catch block and the destructor of `Cleanup`; each driver has a thread with
a program counter of its own; the failure and termination flags of the drivers, the
termination flag of the process and the signal number are atomics that the drivers' own
threads and the signal handler set at any time.

What a driver, the disk, the clock or a write of the manifest answers is an argument of the
step.  An exception of the coordinator may be raised wherever no `try` block of its own covers
the code: anywhere in `Execute` up to its last `Finalize`, behind which only log calls stand.
`Cleanup::Stop` is `noexcept`, and no exception is raised in the catch block.  A log call
raises none.  The SensorSync board and the sensor states of the manifest are left out.

`trace` records what has happened; nothing reads it.
-/

namespace AmigaDrivers
namespace Common

/-- What the runner knows of a driver beside its flags. -/
structure DriverSlot where
  name : String
  key : String
  deriving DecidableEq

/-- The thread of a driver: created, inside `Run`, behind it, behind the store of the
termination flag, joined. -/
inductive ThreadState
  | none
  | spawned
  | running
  | ended
  | finished
  | joined
  deriving DecidableEq

/-- How `Init` ends. -/
inductive InitResult
  | ready
  | notReady
  | threw
  deriving DecidableEq

/-- What happens in a run. -/
inductive RunEvent
  | initCalled (i : Nat)
  | initReturned (i : Nat) (result : InitResult)
  | runCalled (i : Nat)
  | runEnded (i : Nat)
  | joined (i : Nat)
  | shutdown (i : Nat)
  /-- `AddDriverResult` -/
  | published (i : Nat)
  /-- `HasFailed` as `CollectResults` reads it for the verdict -/
  | collected (i : Nat) (failed : Bool)
  /-- the disk check before the bring-up ends the run -/
  | preflightStop
  | diskStop
  | watchdogStop (i : Nat)
  | lifecycle (ok : Bool)
  | raised
  | finalized (status : String) (w : ManifestWrite) (ok : Bool)
  deriving DecidableEq

/-- Who has called `Cleanup::Stop`: `Execute`, the catch block, or the destructor behind the
early return of the disk check. -/
inductive Caller
  | execute
  | handler
  | destructor
  deriving DecidableEq

/-- The calls of `publish_lifecycle`, in the order of `Execute`. -/
inductive Publication
  | first
  | ready (i : Nat)
  | running
  | stop
  | stopped
  | collected
  deriving DecidableEq

/-- Where the coordinator stands. -/
inductive RunnerPc
  | preflight
  | publishing (p : Publication)
  | initCheck (i : Nat)
  | initializing (i : Nat)
  | spawning (i : Nat)
  | entering
  | monitor
  | diskCheck
  | watchdog
  | stopping
  | terminating (c : Caller)
  | joining (i : Nat) (c : Caller)
  /-- in the reverse loop of `Stop`, with `left` drivers to go -/
  | shuttingDown (left : Nat) (c : Caller)
  | disarming
  /-- in `CollectResults`, called by `Execute` or, when `caught`, by the catch block -/
  | collecting (i : Nat) (caught : Bool)
  | collectingFailed (i : Nat) (caught : Bool)
  | deciding
  | finalizing (status : String) (exitCode : Nat) (c : Caller)
  | done (exitCode : Nat)
  deriving DecidableEq

/-- A run of `RunSession`. -/
structure Runner where
  manifest : DriversJson
  pc : RunnerPc := .preflight
  terminate : Bool := false
  signalReceived : Nat := 0
  failed : Nat → Bool := fun _ => false
  terminateFlag : Nat → Bool := fun _ => false
  thread : Nat → ThreadState := fun _ => .none
  initialized : Nat := 0
  lifecycleOk : Bool := true
  firstToTerminate : String := ""
  driverRequestedStop : Bool := false
  /-- `Cleanup::stopped_` -/
  stopped : Bool := false
  published : Nat → Bool := fun _ => false
  /-- the result `CollectResults` builds -/
  failedAtShutdown : String := ""
  trace : List RunEvent := []

/-- What the surroundings answer in a step of the coordinator. -/
structure Answers where
  diskStop : Bool
  init : InitResult
  spawned : Bool
  /-- the driver whose termination flag the monitor finds set -/
  terminated : Option Nat
  /-- the driver the no-data watchdog stops -/
  silent : Option Nat
  shutdownThrew : Bool
  statisticsThrew : Bool
  write : ManifestWrite

/-- A step of the coordinator, of the thread of a driver, or of the surroundings. -/
inductive RunnerAction
  | coordinator (r : Answers)
  | raise
  | thread (i : Nat) (threw : Bool)
  | driverFails (i : Nat)
  | driverStops (i : Nat)
  | signalNumber (n : Nat)
  | signalTerminate

namespace Runner

/-- Set a flag of an array. -/
def set {α : Type} (f : Nat → α) (i : Nat) (a : α) : Nat → α := fun j => if j = i then a else f j

@[simp] theorem set_self {α : Type} (f : Nat → α) (i : Nat) (a : α) : set f i a i = a := if_pos rfl

theorem set_of_ne {α : Type} (f : Nat → α) {i j : Nat} (a : α) (h : j ≠ i) : set f i a j = f j :=
  if_neg h

def log (s : Runner) (e : RunEvent) : Runner := { s with trace := s.trace ++ [e] }

/-- `IDriverApp::RequestFailure` of driver `i`. -/
def requestFailure (s : Runner) (i : Nat) : Runner :=
  { s with failed := set s.failed i true, terminateFlag := set s.terminateFlag i true }

/-- The name of a slot. -/
def nameOf (slots : List DriverSlot) (i : Nat) : String := (slots.getD i ⟨"", ""⟩).name

/-- The key of a slot. -/
def keyOf (slots : List DriverSlot) (i : Nat) : String := (slots.getD i ⟨"", ""⟩).key

/-- `external_stop`. -/
def externalStop (s : Runner) (n : Nat) : Bool := s.terminate || (List.range n).any s.failed

/-- The arguments of a call of `publish_lifecycle`. -/
def phaseOf (s : Runner) (n : Nat) : Publication → String × Bool
  | .first => ("initializing", false)
  | .ready _ => ("initializing", s.initialized = n)
  | .running => ("running", true)
  | .stop | .stopped | .collected => ("stopping", s.initialized = n)

/-- Where `Execute` goes on behind it. -/
def afterPublication : Publication → RunnerPc
  | .first => .initCheck 0
  | .ready i => .initCheck (i + 1)
  | .running => .monitor
  | .stop => .stopping
  | .stopped => .disarming
  | .collected => .deciding

/-- `publish_lifecycle`. -/
def publish (s : Runner) (n : Nat) (p : Publication) (w : ManifestWrite) : Runner :=
  match s.manifest.updateLifecycle (s.phaseOf n p).1 (s.phaseOf n p).2 w with
  | (manifest, true) =>
    { s with manifest, pc := afterPublication p }.log (.lifecycle true)
  | (manifest, false) =>
    { s with
      manifest
      lifecycleOk := false
      terminate := true
      pc := afterPublication p }.log (.lifecycle false)

/-- Behind a call of `Init`. -/
def afterInit (s : Runner) (n i : Nat) (result : InitResult) : Runner :=
  let s := s.log (.initReturned i result)
  match result with
  | .ready => { s with initialized := s.initialized + 1, pc := .publishing (.ready i) }
  | .notReady =>
    if s.externalStop n then
      { s with terminate := true, pc := .spawning 0 }
    else
      { s.requestFailure i with terminate := true, pc := .spawning 0 }
  | .threw =>
    let s := s.requestFailure i
    if s.externalStop n then
      { s with terminate := true, pc := .spawning 0 }
    else
      { s.requestFailure i with terminate := true, pc := .spawning 0 }

/-- The start of the thread of driver `i`. -/
def spawn (s : Runner) (i : Nat) (spawned : Bool) : Runner :=
  if i < s.initialized then
    if s.terminate then
      { s with pc := .entering }
    else if spawned then
      { s with thread := set s.thread i .spawned, pc := .spawning (i + 1) }
    else
      { s.requestFailure i with terminate := true, pc := .entering }
  else
    { s with pc := .entering }

/-- One turn of `Cleanup::Stop`'s loop over the threads. -/
def join (s : Runner) (n i : Nat) (c : Caller) : Option Runner :=
  if i < n then
    match s.thread i with
    | .none | .joined => some { s with pc := .joining (i + 1) c }
    | .finished =>
      some ({ s with thread := set s.thread i .joined, pc := .joining (i + 1) c }.log (.joined i))
    | .spawned | .running | .ended => none
  else
    some { s with pc := .shuttingDown n c }

/-- One turn of its loop over the drivers in reverse; behind it, where its caller goes on. -/
def shutDown (s : Runner) (left : Nat) (c : Caller) (threw : Bool) : Runner :=
  match left with
  | i + 1 =>
    let s := { s with pc := .shuttingDown i c }.log (.shutdown i)
    if threw then s.requestFailure i else s
  | 0 =>
    match c with
    | .execute => { s with pc := .publishing .stopped }
    | .handler => { s with failedAtShutdown := "", pc := .collecting 0 true }
    | .destructor => { s with pc := .done 1 }

/-- The first half of a turn of `CollectResults`. -/
def collect (slots : List DriverSlot) (s : Runner) (i : Nat) (caught threw : Bool) : Runner :=
  if i < slots.length then
    if s.published i then
      { s with pc := .collectingFailed i caught }
    else
      let s := if threw then s.requestFailure i else s
      { s with
        manifest := s.manifest.addDriverResult (nameOf slots i) (s.failed i)
        published := set s.published i true
        pc := .collectingFailed i caught }.log (.published i)
  else if caught then
    { s with pc := .finalizing "failed (session coordinator)" 1 .handler }
  else
    { s with pc := .publishing .collected }

/-- The second half. -/
def collectFailed (slots : List DriverSlot) (s : Runner) (i : Nat) (caught : Bool) : Runner :=
  let s := s.log (.collected i (s.failed i))
  if s.failed i then
    { s with
      failedAtShutdown :=
        (if s.failedAtShutdown = "" then "" else s.failedAtShutdown ++ ", ") ++ keyOf slots i
      pc := .collecting (i + 1) caught }
  else
    { s with pc := .collecting (i + 1) caught }

/-- The outcome of the run: the status to persist and the exit code so far. -/
def verdict (s : Runner) : String × Nat :=
  if !s.lifecycleOk then ("failed (status persistence)", 1)
  else if s.failedAtShutdown ≠ "" then ("failed (" ++ s.failedAtShutdown ++ ")", 1)
  else if s.firstToTerminate ≠ "" ∧ s.driverRequestedStop = false then
    ("failed (" ++ s.firstToTerminate ++ ")", 1)
  else if s.signalReceived ≠ 0 then
    ("interrupted (signal " ++ toString s.signalReceived ++ ")", 0)
  else ("completed", 0)

/-- `Finalize` and what follows it. -/
def finish (s : Runner) (status : String) (exitCode : Nat) (c : Caller) (w : ManifestWrite) :
    Runner :=
  match s.manifest.finalize status w with
  | (manifest, ok) =>
    let s := { s with manifest }.log (.finalized status w ok)
    match c with
    | .destructor => { s with pc := .terminating .destructor }
    | .handler => { s with pc := .done exitCode }
    | .execute => { s with pc := .done (if ok then exitCode else 1) }

/-- A step of the coordinator. -/
def coordinatorStep (slots : List DriverSlot) (s : Runner) (r : Answers) : Option Runner :=
  match s.pc with
  | .preflight =>
    if r.diskStop then
      some ({ s with pc := .finalizing "failed (disk)" 1 .destructor }.log .preflightStop)
    else
      some { s with pc := .publishing .first }
  | .publishing p => some (s.publish slots.length p r.write)
  | .initCheck i =>
    if i < slots.length then
      if s.externalStop slots.length then
        some { s with terminate := true, pc := .spawning 0 }
      else
        some ({ s with pc := .initializing i }.log (.initCalled i))
    else
      some { s with pc := .spawning 0 }
  | .initializing i => some (s.afterInit slots.length i r.init)
  | .spawning i => some (s.spawn i r.spawned)
  | .entering =>
    if s.terminate then some { s with pc := .monitor }
    else some { s with pc := .publishing .running }
  | .monitor =>
    if s.terminate then
      some { s with pc := .publishing .stop }
    else
      match r.terminated with
      | some i =>
        if i < slots.length ∧ s.terminateFlag i = true then
          some
            { s with
              firstToTerminate := nameOf slots i
              driverRequestedStop := true
              pc := .publishing .stop }
        else
          none
      | none =>
        if (List.range slots.length).any s.terminateFlag then none
        else some { s with pc := .diskCheck }
  | .diskCheck =>
    if r.diskStop then
      some ({ s with firstToTerminate := "disk", pc := .publishing .stop }.log .diskStop)
    else
      some { s with pc := .watchdog }
  | .watchdog =>
    match r.silent with
    | some i =>
      if i < s.initialized then
        some
          ({ s.requestFailure i with
            firstToTerminate := nameOf slots i
            pc := .publishing .stop }.log (.watchdogStop i))
      else
        none
    | none => some { s with pc := .monitor }
  | .stopping => some { s with terminateFlag := fun _ => true, pc := .terminating .execute }
  | .terminating c =>
    some { s with stopped := true, terminateFlag := fun _ => true, pc := .joining 0 c }
  | .joining i c => s.join slots.length i c
  | .shuttingDown left c => some (s.shutDown left c r.shutdownThrew)
  | .disarming => some { s with failedAtShutdown := "", pc := .collecting 0 false }
  | .collecting i caught => some (collect slots s i caught r.statisticsThrew)
  | .collectingFailed i caught => some (collectFailed slots s i caught)
  | .deciding => some { s with pc := .finalizing s.verdict.1 s.verdict.2 .execute }
  | .finalizing status exitCode c => some (s.finish status exitCode c r.write)
  | .done _ => none

/-- An exception of the coordinator may be raised here. -/
def mayRaise : RunnerPc → Bool
  | .preflight | .publishing _ | .initCheck _ | .spawning _ | .entering | .monitor | .diskCheck
  | .watchdog | .stopping | .disarming | .collecting _ false | .collectingFailed _ false
  | .deciding => true
  | .initializing _ | .terminating _ | .joining _ _ | .shuttingDown _ _ | .collecting _ true
  | .collectingFailed _ true | .finalizing _ _ _ | .done _ => false

/-- The catch block of `RunSession`, up to the first step of its `Stop`. -/
def raise (s : Runner) : Option Runner :=
  if mayRaise s.pc then
    if s.stopped then
      some ({ s with failedAtShutdown := "", pc := .collecting 0 true }.log .raised)
    else
      some ({ s with pc := .terminating .handler }.log .raised)
  else
    none

/-- A step of the thread of driver `i`. -/
def threadStep (s : Runner) (i : Nat) (threw : Bool) : Option Runner :=
  match s.thread i with
  | .spawned => some ({ s with thread := set s.thread i .running }.log (.runCalled i))
  | .running =>
    let s := { s with thread := set s.thread i .ended }.log (.runEnded i)
    some (if threw then s.requestFailure i else s)
  | .ended =>
    some
      { s with
        terminateFlag := set s.terminateFlag i true
        thread := set s.thread i .finished }
  | .none | .finished | .joined => none

/-- A step of a run. -/
def step (slots : List DriverSlot) (s : Runner) : RunnerAction → Option Runner
  | .coordinator r => coordinatorStep slots s r
  | .raise => s.raise
  | .thread i threw => s.threadStep i threw
  | .driverFails i => some (s.requestFailure i)
  | .driverStops i => some { s with terminateFlag := set s.terminateFlag i true }
  | .signalNumber n => some { s with signalReceived := n }
  | .signalTerminate => some { s with terminate := true }

/-- The runs of `RunSession` on a list of drivers.  Its caller has written the manifest with
`WriteRunning`, and may have been told to stop already. -/
def system (slots : List DriverSlot) : StepSystem Runner RunnerAction where
  Init s :=
    ∃ (doc : RunDoc) (hasControl : Bool) (control : Option RunDoc) (terminate : Bool)
      (signal : Nat),
      doc.status = "running" ∧
        s =
          { manifest := { doc, hasControl, canonical := some doc, control }
            terminate
            signalReceived := signal }
  step := step slots

end Runner
end Common
end AmigaDrivers
