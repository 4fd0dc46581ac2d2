import AmigaDrivers.Asterx.SbfWriteQueue

/-!
# The AsteRx session

`asterx::Session` lives on the Qt thread: signals of the vendor SDK, timers and the calls of
its wrapper arrive one after another, and each handler runs to its end before the next
begins.  What interleaves with a handler are the clock and the writer thread of the queue
below it, so a handler is cut where it waits for the queue (`Start`, `Enqueue`, `Close`) and
where it reads the clock a second time.  The SDK raises signals inside `closeConnection`;
these run nested in the handler that closes.  A signal raised inside another call of the SDK
comes last in its handler, where it is the next signal.

Building and verifying commands and parsing SBF blocks is left to a `CommandLayer`: nothing
here depends on what it answers.  Log lines, the CSV side channel and the liveness stamp are
left out.  The counters are unbounded: no run counts to `2 ^ 64`.
-/

namespace AmigaDrivers
namespace Asterx

/-! ## The command layer -/

inductive CommandKind
  | plain
  | checkCapabilities
  | listAntennaInfo
  | listConfig
  | verifyEcho
  deriving DecidableEq

structure Command where
  text : String
  kind : CommandKind := .plain
  verifyKey : String := ""
  verifyFields : List String := []
  deriving DecidableEq

structure ConfigLine where
  permanent : Bool := false
  commandName : String
  fullLine : String
  deriving DecidableEq

structure ReceiverCapabilities where
  hasMain : Bool := false
  hasAux1 : Bool := false
  deriving DecidableEq

/-- What the session reads of a ReceiverStatus block. -/
structure ReceiverStatus where
  upTime : UInt32
  rxStatus : UInt32
  deriving DecidableEq

/-- The functions the session calls on commands, replies and blocks; `Except.error` is a
`ConfigError`. -/
structure CommandLayer where
  buildCommandList : String → Except String (List Command)
  driverCommandWhitelist : List Command → List String
  commandNameOf : String → String
  equalsCi : String → String → Bool
  parseReceiverCapabilitiesReply : String → Except String ReceiverCapabilities
  verifyFirstFields : String → String → List String → Except String String
  parseAntennaOverview : String → List String
  verifyAntennaTypes : List String → Except String Unit
  parseConfigFileListing : String → List ConfigLine
  verifyConfigListing : List ConfigLine → List String → Except String Unit
  /-- `PeekId` and `ParseReceiverStatus`; `none` for any other block -/
  receiverStatus : List UInt8 → Option ReceiverStatus

/-! ## The warm-up gate -/

/-- `WarmupGate`; times are nanoseconds of the steady clock. -/
structure WarmupGate where
  minRecordingS : Int := 90
  requireFinetime : Bool := false
  upTimeS : Option UInt32 := none
  finetime : Bool := false
  recordingStarted : Option Nat := none

namespace WarmupGate

/-- ReceiverStatus.RxState bit 6. -/
def fineTime : UInt32 := (1 : UInt32) <<< 6

/-- `Observe`; the flag says that the up-time went backwards. -/
def observe (g : WarmupGate) (upTime rxStatus : UInt32) : WarmupGate × Bool :=
  ({ g with upTimeS := some upTime, finetime := rxStatus &&& fineTime ≠ 0 },
    match g.upTimeS with
    | none => false
    | some previous => upTime < previous)

def startRecording (g : WarmupGate) (now : Nat) : WarmupGate :=
  match g.recordingStarted with
  | none => { g with recordingStarted := some now }
  | some _ => g

/-- `Ready`. -/
def ready (g : WarmupGate) (now : Nat) : Bool :=
  (decide (g.minRecordingS ≤ 0) ||
    match g.recordingStarted with
    | none => false
    | some started => decide ((now : Int) - started ≥ g.minRecordingS * 10 ^ 9)) &&
  (!g.requireFinetime || g.finetime)

def resetReceiverStatus (g : WarmupGate) : WarmupGate :=
  { g with upTimeS := none, finetime := false }

def reset (g : WarmupGate) : WarmupGate :=
  { g with recordingStarted := none, upTimeS := none, finetime := false }

end WarmupGate

/-! ## The state of a session -/

/-- `Session::State`. -/
inductive SessionState
  | idle
  | connecting
  | waitingDescriptor
  | configuring
  | warmingUp
  | recording
  | backoff
  | stopping
  deriving DecidableEq

inductive SessionTimer
  | connect
  | retry
  | recovery
  | watchdog
  | command
  | stats
  | warmupLog
  deriving DecidableEq

/-- The timers; an active one carries the time it was started at. -/
structure Timers where
  connect : Option Nat := none
  retry : Option Nat := none
  recovery : Option Nat := none
  watchdog : Option Nat := none
  command : Option Nat := none
  stats : Option Nat := none
  warmupLog : Option Nat := none

/-- `isActive`. -/
def Timers.isActive (timers : Timers) : SessionTimer → Bool
  | .connect => timers.connect.isSome
  | .retry => timers.retry.isSome
  | .recovery => timers.recovery.isSome
  | .watchdog => timers.watchdog.isSome
  | .command => timers.command.isSome
  | .stats => timers.stats.isSome
  | .warmupLog => timers.warmupLog.isSome

/-- A single-shot timer is inactive once it has fired. -/
def Timers.fire (timers : Timers) : SessionTimer → Timers
  | .connect => { timers with connect := none }
  | .retry => { timers with retry := none }
  | .recovery => { timers with recovery := none }
  | .watchdog => { timers with watchdog := none }
  | .command => { timers with command := none }
  | .stats | .warmupLog => timers

/-- The signals of a session. -/
inductive Notification
  | fatalError
  | configured
  deriving DecidableEq

/-- A handler inside a call of the queue. -/
inductive QueueCall
  | start
  | enqueue (block : QByteArray)
  /-- in `Shutdown`; the flag says that its caller emits `FatalError` afterwards -/
  | close (fatal : Bool)
  deriving DecidableEq

def QueueCall.call : QueueCall → Call
  | .start => .start
  | .enqueue block => .enqueue block
  | .close _ => .close

/-- Where the Qt thread stands.

* `ready`: in no handler;
* `calling`: before a call of the queue; for `Close`, inside `closeConnection`;
* `waiting`: in that call;
* `gateCheck`: in `OnSbfBlock`, before the gate is asked;
* `backingOff`: in `HandleFailure`, inside `closeConnection`. -/
inductive SessionPc
  | ready
  | calling (c : QueueCall)
  | waiting (c : QueueCall)
  | gateCheck
  | backingOff
  deriving DecidableEq

/-- What calls on the Qt thread. -/
inductive SessionEvent
  | start
  | shutdown
  | connected
  | newConnectionDescriptor (descriptor : String)
  | newCommandReply (reply : String) (error : Bool)
  | newFormattedInformationBlock (contents : String)
  | newPrompt
  | newSBFBlock (block : QByteArray)
  | sbfCRCError
  | discardedBytes (n : Int)
  | communicationError (message : String)
  | connectionClosed
  | timeout (timer : SessionTimer)
  | writeFailed

/-- `Session` with the queue it owns. -/
structure Session where
  writer : SbfWriteQueue
  state : SessionState := .idle
  everConfigured : Bool := false
  /-- there is an `SsnRx` whose signals are connected -/
  rx : Bool := false
  descriptor : String := ""
  cmds : List Command := []
  cmdIndex : Nat := 0
  whitelist : List String := []
  lstReplySeen : Bool := false
  lstText : String := ""
  timers : Timers := {}
  warmup : WarmupGate := {}
  crcErrors : Nat := 0
  lengthErrors : Nat := 0
  discardedBytes : Nat := 0
  recoveryEvents : Nat := 0
  recordingErrors : Nat := 0
  pc : SessionPc := .ready
  /-- the steady clock -/
  clock : Nat := 0
  /-- the queued invocations of `OnWriteFailed` -/
  posted : Nat := 0
  /-- the commands handed to the `SsnRx` of this attempt -/
  sent : List String := []
  /-- the signals emitted -/
  notifications : List Notification := []
  /-- the non-empty blocks delivered while the session was not stopping -/
  delivered : List QByteArray := []

/-- A step: the Qt thread takes up an event or goes on with its handler, one of the threads
inside the queue goes on, or time passes. -/
inductive SessionAction
  | event (e : SessionEvent)
  | resume
  | queueOwner (r : WriteResult)
  | queueWriter (r : WriteResult)
  | tick (elapsed : Nat)

/-- The settings of a session. -/
structure SessionConfig where
  queue : SbfWriteQueue.Config
  minRecordingS : Int
  requireFinetime : Bool
  layer : CommandLayer

namespace Session

/-- `RecordingIncomplete`. -/
def recordingIncomplete (s : Session) : Bool := s.recordingErrors ≠ 0

def emit (s : Session) (n : Notification) : Session :=
  { s with notifications := s.notifications ++ [n] }

/-! ## Failures -/

/-- `Shutdown` up to `closeConnection`, followed by `emit FatalError()` when `fatal`. -/
def shutdown (s : Session) (fatal : Bool) : Session :=
  if s.state = .stopping then
    if fatal then s.emit .fatalError else s
  else
    { s with state := .stopping, timers := {}, pc := .calling (.close fatal) }

def failStartup (s : Session) : Session :=
  if s.state = .stopping then s else s.shutdown true

/-- `HandleFailure` up to `closeConnection`. -/
def handleFailure (s : Session) : Session :=
  if s.state = .stopping ∨ s.state = .backoff then
    s
  else
    let s := { s with recordingErrors := s.recordingErrors + 1 }
    if !s.everConfigured then
      s.failStartup
    else if s.state = .recording then
      s.shutdown true
    else
      { s with
        recoveryEvents := s.recoveryEvents + 1
        state := .backoff
        timers :=
          { s.timers with
            connect := none
            command := none
            watchdog := none
            warmupLog := none
            recovery := s.timers.recovery.or (some s.clock) }
        pc := .backingOff }

def onStreamDamage (s : Session) : Session :=
  if s.state = .stopping then
    s
  else
    let s := { s with recordingErrors := s.recordingErrors + 1 }
    if s.state ≠ .recording then s else s.shutdown true

def onWriteFailed (s : Session) : Session :=
  if s.state = .stopping then
    s
  else
    { s with recordingErrors := s.recordingErrors + 1 }.shutdown true

/-- `message.find(part) != npos`. -/
def containsText (part message : List Char) : Bool :=
  match message with
  | [] => part.isEmpty
  | c :: rest => part.isPrefixOf (c :: rest) || containsText part rest

def onCommunicationError (s : Session) (message : String) : Session :=
  if containsText "SBF CRC error".toList message.toList then
    s
  else if containsText "Invalid SBF block length".toList message.toList then
    { s with lengthErrors := s.lengthErrors + 1 }.onStreamDamage
  else
    s.handleFailure

/-! ## From the connection to the recording -/

/-- `EnterRecording`. -/
def enterRecording (s : Session) : Session :=
  if s.state ≠ .warmingUp then
    s
  else if s.writer.failed then
    s.onWriteFailed
  else
    { s with
      state := .recording
      timers :=
        { s.timers with
          recovery := none
          command := none
          warmupLog := none
          watchdog := some s.clock } }.emit .configured

def enterWarmup (s : Session) : Session :=
  let s :=
    { s with
      state := .warmingUp
      everConfigured := true
      timers := { s.timers with command := none, watchdog := some s.clock }
      warmup := s.warmup.resetReceiverStatus }
  if s.warmup.ready s.clock then
    s.enterRecording
  else
    { s with timers := { s.timers with warmupLog := some s.clock } }

def startConnect (s : Session) : Session :=
  { s with
    state := .connecting
    warmup := s.warmup.resetReceiverStatus
    descriptor := ""
    cmds := []
    cmdIndex := 0
    whitelist := []
    lstReplySeen := false
    lstText := ""
    rx := true
    sent := []
    timers := { s.timers with connect := some s.clock } }

def sendCurrentCommand (s : Session) : Session :=
  match s.cmds[s.cmdIndex]? with
  | none => s.enterWarmup
  | some cmd =>
    { s with
      lstReplySeen := false
      lstText := ""
      timers := { s.timers with command := some s.clock }
      sent := s.sent ++ [cmd.text] }

def onConnected (s : Session) : Session :=
  { s with
    state := .waitingDescriptor
    timers := { s.timers with connect := none, command := some s.clock } }

def onConnectionDescriptor (L : CommandLayer) (s : Session) (d : String) : Session :=
  let s := { s with descriptor := d }
  if s.state ≠ .waitingDescriptor then
    s
  else
    match L.buildCommandList d with
    | .error _ => s.failStartup
    | .ok cmds =>
      { s with
        cmds
        whitelist := L.driverCommandWhitelist cmds
        cmdIndex := 0
        state := .configuring }.sendCurrentCommand

/-! ## Replies -/

/-- The reply echoes the command that produced it: `$R:`, `$R;` or `$R?`. -/
def echoesCommand (reply : String) : Bool :=
  match reply.toList with
  | '$' :: 'R' :: c :: _ => c = ':' || c = ';' || c = '?'
  | _ => false

/-- The reply opens a listing: `$R;`. -/
def listingHeader (reply : String) : Bool :=
  match reply.toList with
  | '$' :: 'R' :: ';' :: _ => true
  | _ => false

def firstLine (s : String) : String :=
  String.ofList (s.toList.takeWhile fun c => c ≠ '\r' && c ≠ '\n')

/-- The reply echoes another command than the outstanding one. -/
def foreign (L : CommandLayer) (reply : String) (cmd : Command) : Bool :=
  let echoed := L.commandNameOf (firstLine reply)
  echoed ≠ "" && !L.equalsCi echoed (L.commandNameOf cmd.text)

def CommandKind.isListing : CommandKind → Bool
  | .listConfig | .listAntennaInfo => true
  | .plain | .checkCapabilities | .verifyEcho => false

/-- The `try` block of `HandleCommandReply`. -/
def verifyReply (L : CommandLayer) (cmd : Command) (reply : String) : Except String Unit :=
  match cmd.kind with
  | .checkCapabilities => do
    let caps ← L.parseReceiverCapabilitiesReply reply
    if !caps.hasAux1 then
      throw "receiver capabilities do not include Aux1; dual-antenna collection is not available"
  | .verifyEcho => do
    let _ ← L.verifyFirstFields reply cmd.verifyKey cmd.verifyFields
  | .plain | .listAntennaInfo | .listConfig => pure ()

def handleCommandReply (L : CommandLayer) (s : Session) (reply : String) (error : Bool) : Session :=
  if s.state ≠ .configuring then
    s
  else
    match s.cmds[s.cmdIndex]? with
    | none => s
    | some cmd =>
      if echoesCommand reply && foreign L reply cmd then
        s
      else
        let s := { s with timers := { s.timers with command := none } }
        if error then
          s.handleFailure
        else if listingHeader reply ≠ CommandKind.isListing cmd.kind then
          s.handleFailure
        else if listingHeader reply then
          { s with
            lstText := reply ++ "\n"
            lstReplySeen := true
            timers := { s.timers with command := some s.clock } }
        else
          match verifyReply L cmd reply with
          | .error _ => s.handleFailure
          | .ok () => { s with cmdIndex := s.cmdIndex + 1 }.sendCurrentCommand

/-- The check of `CompleteListCommand`. -/
def verifyListing (L : CommandLayer) (s : Session) (cmd : Command) : Except String Unit :=
  if cmd.kind = .listAntennaInfo then
    L.verifyAntennaTypes (L.parseAntennaOverview s.lstText)
  else
    L.verifyConfigListing (L.parseConfigFileListing s.lstText) s.whitelist

def completeListCommand (L : CommandLayer) (s : Session) (cmd : Command) : Session :=
  let s := { s with timers := { s.timers with command := none } }
  match verifyListing L s cmd with
  | .error _ => s.handleFailure
  | .ok () =>
    { s with
      lstReplySeen := false
      lstText := ""
      cmdIndex := s.cmdIndex + 1 }.sendCurrentCommand

def onFormattedInformationBlock (s : Session) (contents : String) : Session :=
  if s.state ≠ .configuring ∨ s.lstReplySeen = false then
    s
  else
    { s with
      lstText := s.lstText ++ contents ++ "\n"
      timers := { s.timers with command := some s.clock } }

def onPrompt (L : CommandLayer) (s : Session) : Session :=
  if s.state = .configuring ∧ s.lstReplySeen = true then
    match s.cmds[s.cmdIndex]? with
    | none => s
    | some cmd => completeListCommand L s cmd
  else
    s

/-! ## Blocks and timers -/

def onReceiverStatus (L : CommandLayer) (s : Session) (block : QByteArray) : Session :=
  match L.receiverStatus block.bytes with
  | none => s
  | some status =>
    match s.warmup.observe status.upTime status.rxStatus with
    | (warmup, wentBack) =>
      let s := { s with warmup }
      if s.state = .warmingUp then
        if wentBack then { s with recordingErrors := s.recordingErrors + 1 } else s
      else if s.state = .recording ∧ wentBack = true then
        { s with recordingErrors := s.recordingErrors + 1 }.shutdown true
      else
        s

/-- `OnSbfBlock` up to its call of `Enqueue`. -/
def onSbfBlock (s : Session) (block : QByteArray) : Session :=
  if s.state = .backoff then
    { s with delivered := s.delivered ++ nonEmpty block }
  else if s.state = .stopping then
    s
  else
    { s with
      delivered := s.delivered ++ nonEmpty block
      pc := .calling (.enqueue block) }

/-- `OnSbfBlock` behind its call of `Enqueue`, up to the gate. -/
def onEnqueued (L : CommandLayer) (s : Session) (block : QByteArray) (queued : Bool) : Session :=
  if !queued then
    { s with recordingErrors := s.recordingErrors + 1 }.shutdown true
  else
    let s :=
      { s with
        warmup := if block.bytes = [] then s.warmup else s.warmup.startRecording s.clock
        pc := .gateCheck }
    if s.state = .warmingUp ∨ s.state = .recording then
      onReceiverStatus L { s with timers := { s.timers with watchdog := some s.clock } } block
    else
      s

/-- The end of `OnSbfBlock`. -/
def askGate (s : Session) : Session :=
  let s := { s with pc := .ready }
  if s.state = .warmingUp ∧ s.warmup.ready s.clock = true then s.enterRecording else s

def onWatchdog (s : Session) : Session :=
  if s.state ≠ .recording ∧ s.state ≠ .warmingUp then s else s.handleFailure

def onCommandTimeout (s : Session) : Session :=
  if s.state ≠ .configuring ∧ s.state ≠ .waitingDescriptor then s else s.handleFailure

/-- The slot of a timer. -/
def onTimeout (s : Session) (timer : SessionTimer) : Session :=
  let s := { s with timers := s.timers.fire timer }
  match timer with
  | .connect => if s.state = .connecting then s.handleFailure else s
  | .retry => if s.state = .backoff then s.startConnect else s
  | .recovery => s.failStartup
  | .watchdog => s.onWatchdog
  | .command => s.onCommandTimeout
  | .stats => s
  | .warmupLog =>
    if s.state = .warmingUp ∧ s.warmup.ready s.clock = true then s.enterRecording else s

/-! ## The step function -/

/-- `Start` up to its call of `SbfWriteQueue::Start`. -/
def start (cfg : SessionConfig) (s : Session) : Session :=
  { s with
    warmup :=
      { s.warmup with
        minRecordingS := cfg.minRecordingS
        requireFinetime := cfg.requireFinetime }.reset
    pc := .calling .start }

/-- The handler of an event. -/
def handle (cfg : SessionConfig) (s : Session) : SessionEvent → Session
  | .start => s.start cfg
  | .shutdown => s.shutdown false
  | .connected => s.onConnected
  | .newConnectionDescriptor d => onConnectionDescriptor cfg.layer s d
  | .newCommandReply reply error => handleCommandReply cfg.layer s reply error
  | .newFormattedInformationBlock contents => s.onFormattedInformationBlock contents
  | .newPrompt => onPrompt cfg.layer s
  | .newSBFBlock block => s.onSbfBlock block
  | .sbfCRCError => { s with crcErrors := s.crcErrors + 1 }.onStreamDamage
  | .discardedBytes n => { s with discardedBytes := s.discardedBytes + n.toNat }
  | .communicationError message => s.onCommunicationError message
  | .connectionClosed => s.handleFailure
  | .timeout timer => s.onTimeout timer
  | .writeFailed => { s with posted := s.posted - 1 }.onWriteFailed

/-- The event can occur while no handler runs. -/
def pending (s : Session) : SessionEvent → Bool
  | .start | .shutdown => true
  | .timeout timer => s.timers.isActive timer
  | .writeFailed => decide (0 < s.posted)
  | _ => s.rx

/-- The event can occur inside `closeConnection`. -/
def nested (s : Session) : SessionEvent → Bool
  | .communicationError _ | .connectionClosed => s.rx
  | _ => false

/-- The event can occur. -/
def enabled (s : Session) (e : SessionEvent) : Bool :=
  match s.pc with
  | .ready => s.pending e
  | .backingOff | .calling (.close _) => s.nested e
  | _ => false

/-- Outside `closeConnection` an event finds no handler running. -/
theorem ready_of_enabled {s : Session} {e : SessionEvent} (h : s.enabled e = true) (hnot : s.nested e = false) :
    s.pc = .ready := by
  unfold enabled at h
  split at h
  · assumption
  · exact nomatch hnot.symm.trans h
  · exact nomatch hnot.symm.trans h
  · exact nomatch h

/-- A handler goes on behind its call of the queue. -/
def onReturn (cfg : SessionConfig) (s : Session) : QueueCall → Session
  | .start =>
    { s with timers := { s.timers with stats := some s.clock }, pc := .ready }.startConnect
  | .enqueue block => onEnqueued cfg.layer { s with pc := .ready } block (s.writer.returned = some true)
  | .close fatal =>
    let s := { s with pc := .ready }
    let s :=
      if s.writer.returned = some true then s
      else { s with recordingErrors := s.recordingErrors + 1 }.emit .fatalError
    if fatal then s.emit .fatalError else s

/-- The queue takes a step; each callback posts an invocation of `OnWriteFailed`. -/
def withWriter (s : Session) (writer : SbfWriteQueue) : Session :=
  { s with writer, posted := s.posted + (writer.callbacks - s.writer.callbacks) }

/-- The Qt thread goes on with its handler. -/
def resume (cfg : SessionConfig) (s : Session) : Option Session :=
  match s.pc with
  | .ready => none
  | .calling c =>
    (s.writer.step (.call c.call)).map fun writer => { s.withWriter writer with pc := .waiting c }
  | .waiting c => if s.writer.ownerPc = .idle then some (s.onReturn cfg c) else none
  | .gateCheck => some s.askGate
  | .backingOff =>
    some { s with timers := { s.timers with retry := some s.clock }, pc := .ready }

/-- A step of the session. -/
def step (cfg : SessionConfig) (s : Session) : SessionAction → Option Session
  | .event e => if s.enabled e then some (s.handle cfg e) else none
  | .resume => s.resume cfg
  | .queueOwner r =>
    match s.pc with
    | .waiting _ => (s.writer.step (.owner r)).map s.withWriter
    | _ => none
  | .queueWriter r => (s.writer.step (.writer r)).map s.withWriter
  | .tick elapsed => some { s with clock := s.clock + elapsed }

/-- A session as its constructor leaves it. -/
def new (cfg : SessionConfig) : Session where
  writer := SbfWriteQueue.new cfg.queue

/-- The session with its queue and the writer thread. -/
def system (cfg : SessionConfig) : StepSystem Session SessionAction where
  Init s := s = new cfg
  step := step cfg

end Session
end Asterx
end AmigaDrivers
