import AmigaDrivers.Lms.FrameReceiverAccounts
import AmigaDrivers.Lms.ReceiveMonitor
import AmigaDrivers.Lms.RawRecorderStop

/-!
# The recording of a scanner

From the socket to the files: `ReceiveLoop` of `Lms4xxxDriver::Impl` feeds what it reads to the
frame receiver, whose callbacks are `HandleFrame` and the error callback, and the telegram
callback of the driver is `RawRecorder::OnFrame`, installed before the recorder is started and
for the whole run.  `StopScanning` joins the receive thread and calls `Finish`; the recorder is
stopped by its own `Stop`.

The receiver's state belongs to the thread that calls it, so a call of `Feed` or `Finish` is one
step, and the callbacks it makes follow one by one.  `OnFrame` is the producer of the recorder,
and the receive thread waits for it.  The NTP watch thread and the owner set atomics of the
driver at any time.  `fed` records the chunks given to `Feed`; nothing reads it.  Exceptions are
left out: only a failed allocation raises one.
-/

namespace AmigaDrivers
namespace Lms

/-- Where the receive thread stands, and behind its end the owner in `StopScanning`. -/
inductive ReceivePc
  | reading
  /-- in `Feed` -/
  | feeding
  /-- in `HandleFrame`, before the call of the telegram callback -/
  | handing (record : RawRecord)
  /-- in `OnFrame` -/
  | recording
  | exited
  /-- in `Finish` -/
  | finishing
  | finished
  deriving DecidableEq, Repr

/-- A driver with its recorder. -/
structure Recording where
  receiver : FrameReceiver
  monitor : ReceiveMonitor := {}
  recorder : RawRecorder
  pc : ReceivePc := .reading
  /-- the callbacks of the current `Feed` or `Finish` that are still to be made -/
  pending : List FrameEvent := []
  /-- the chunks given to `Feed` -/
  fed : List (List UInt8) := []
  deriving DecidableEq

/-- A step of the recording. -/
inductive RecordingAction
  /-- `ReadSome` returns bytes -/
  | read (chunk : List UInt8)
  /-- the receive loop ends, on a read error or because it was told to -/
  | exit (readError : Bool)
  /-- the receiver goes on to its next callback, or returns -/
  | callback (clock : HostClock)
  /-- `HandleFrame` calls the telegram callback -/
  | handOver
  /-- the telegram callback returns -/
  | goOn
  /-- the owner has joined the receive thread and calls `Finish` -/
  | finish
  /-- the recorder goes on inside `OnFrame`, `WriteLoop`, `Start` or `Stop`, or is stopped -/
  | recorder (a : RecorderAction)
  /-- the NTP watch thread has probed the server -/
  | ntpWatch (reachable givenUp : Bool)
  /-- the owner asks the device to stop the stream -/
  | stopStream

/-- The settings of a recording. -/
structure RecordingConfig where
  monitor : MonitorConfig
  maxFrameSize : Nat
  maxFileBytes : Nat
  queueCapacity : Nat

namespace Recording

/-- `ReceiveLoop` up to the first callback of `Feed`. -/
def read (s : Recording) (chunk : List UInt8) : Recording :=
  { s with
    receiver := s.receiver.feed chunk
    monitor := s.monitor.count fun stats =>
      { stats with bytesReceived := stats.bytesReceived + chunk.length }
    pc := .feeding
    pending := (s.receiver.feed chunk).events.drop s.receiver.events.length
    fed := s.fed ++ [chunk] }

/-- The next callback of `Feed`. -/
def callback (cfg : RecordingConfig) (s : Recording) (clock : HostClock) : Recording :=
  match s.pending with
  | [] => { s with pc := .reading }
  | .error error _ _ consecutive :: pending =>
    { s with monitor := s.monitor.onFrameError error consecutive, pending }
  | .frame _ frame :: pending =>
    match s.monitor.handleFrame cfg.monitor frame clock with
    | (monitor, record) => { s with monitor, pending, pc := .handing record }

/-- `Finish` up to its callback. -/
def finish (s : Recording) : Recording :=
  { s with
    receiver := s.receiver.finish
    pc := .finishing
    pending := s.receiver.finish.events.drop s.receiver.events.length }

/-- The callback of `Finish`, which only reports errors. -/
def finishCallback (s : Recording) : Recording :=
  match s.pending with
  | .error error _ _ consecutive :: pending =>
    { s with monitor := s.monitor.onFrameError error consecutive, pending }
  | _ => { s with pc := .finished }

/-- `NtpWatchLoop` behind a probe. -/
def ntpWatch (m : ReceiveMonitor) (reachable givenUp : Bool) : ReceiveMonitor :=
  let m := m.count fun stats => { stats with ntpServerReachable := reachable }
  if !reachable && givenUp then
    { m.count fun stats => { stats with ntpStatus := .unreachable } with
      timeFault := true
      fault := true }
  else
    m

/-- A step of the recording. -/
def step (cfg : RecordingConfig) (s : Recording) : RecordingAction → Option Recording
  | .read chunk => if s.pc = .reading ∧ chunk ≠ [] then some (s.read chunk) else none
  | .exit readError =>
    if s.pc = .reading then
      some
        { s with
          pc := .exited
          monitor := { s.monitor with fault := s.monitor.fault || readError } }
    else
      none
  | .callback clock =>
    match s.pc with
    | .feeding => some (s.callback cfg clock)
    | .finishing => some s.finishCallback
    | _ => none
  | .handOver =>
    match s.pc with
    | .handing record =>
      (s.recorder.step (.onFrame record)).map fun recorder => { s with recorder, pc := .recording }
    | _ => none
  | .goOn =>
    if s.pc = .recording ∧ s.recorder.producerPc = .idle then some { s with pc := .feeding }
    else none
  | .finish => if s.pc = .exited then some s.finish else none
  | .recorder a =>
    match a with
    | .onFrame _ => none
    | a => (s.recorder.step a).map fun recorder => { s with recorder }
  | .ntpWatch reachable givenUp =>
    some { s with monitor := ntpWatch s.monitor reachable givenUp }
  | .stopStream => some { s with monitor := { s.monitor with stopStreamRequested := true } }

/-- A recording before its recorder is started. -/
def new (cfg : RecordingConfig) : Recording where
  receiver := .new cfg.maxFrameSize
  recorder := .new cfg.maxFileBytes cfg.queueCapacity

/-- A driver and its recorder with their threads. -/
def system (cfg : RecordingConfig) : StepSystem Recording RecordingAction where
  Init s := s = new cfg
  step := step cfg

/-- What `AssessRecording` says of the counters as they stand. -/
def assess (s : Recording) (alreadyFailed : Bool) : RecordingStatus :=
  assessRecording s.monitor.stats s.recorder.statistics s.monitor.fault s.recorder.failed
    alreadyFailed

end Recording
end Lms
end AmigaDrivers
