import AmigaDrivers.Lms.ClockQuality
import AmigaDrivers.Lms.ColaBCodec
import AmigaDrivers.Lms.FrameReceiver
import AmigaDrivers.Lms.RecordingStatus

/-!
# The monitor of the receive thread

`Lms4xxxDriver::Impl` looks at every frame before it hands it on: `MonitorFrame` counts it,
reads its counters and its clock, and fills in what the recorder writes beside it.  The state
below is what the receive thread owns of `Impl`, with the atomics that others read or set.

The clocks of the host are arguments.  The fault flag and the reachability of the NTP server
are also set by the NTP watch thread, and `stop_stream_requested` by the owner.  Telemetry
values and the last method answer are left out, as is an exception of the monitor, which only a
failed allocation raises.

* `tallies_handleFrame`, `tallies_onFrameError`: what a frame and an error add to the counters.
* `handleFrame_frame`: the monitor leaves the frame as it is.
-/

namespace AmigaDrivers
namespace Lms

open ByteUtil (ascii)

/-- The settings the monitor reads.  `scanProblem` is whether `VerifyScanContent` finds a
problem in the first scan. -/
structure MonitorConfig where
  ntpEnabled : Bool
  maxTimeStepMs : Nat
  scanProblem : ScanData → Bool

/-- `RawRecord`. -/
structure RawRecord where
  frame : RawFrame
  receiveTimestampUs : Nat
  isScan : Bool := false
  deviceTimeUnixUs : Int := 0
  clockStepUs : Int := 0
  clockQualityFlags : ClockFlags := {}
  deriving DecidableEq, Repr

/-- What the host clocks say while a frame is handled. -/
structure HostClock where
  receiveTimestampUs : Nat
  /-- `SteadyNowUs` -/
  nowUs : Nat
  /-- the deadline of the time gate has passed -/
  pastDeadline : Bool
  deriving DecidableEq, Repr

/-- `TimeGate`. -/
structure TimeGate where
  plausibleSeen : Bool := false
  anomalySeen : Bool := false
  tracker : ClockQualityTracker := {}
  deriving DecidableEq, Repr

/-- `Lms4xxxDriver::Impl`, as far as the receive thread goes. -/
structure ReceiveMonitor where
  stats : DriverStatistics := {}
  fault : Bool := false
  timeFault : Bool := false
  stopStreamRequested : Bool := false
  deviceWarningsMonotonicUs : Nat := 0
  deviceNoNtp : Bool := false
  firstScan : Bool := true
  previousScanCounterValid : Bool := false
  timeGate : TimeGate := {}
  deriving DecidableEq, Repr

/-- `kMaxConsecutiveFramingErrors`. -/
def maxConsecutiveFramingErrors : Nat := 1000

/-- The loop of `DecodeActiveMessages`: the messages, and the bytes behind the last one. -/
def activeMessages : Nat → List UInt8 → List (List Char) × List UInt8
  | 0, p => ([], p)
  | count + 1, p =>
    if p.length < 4 then
      ([], p)
    else
      let id := ByteUtil.loadBigU16 p
      let len := ByteUtil.loadBigU16 (p.drop 2)
      let rest := p.drop 4
      if rest.length < len then
        ([], rest)
      else
        let text := (rest.take len).map fun b => Char.ofNat b.toNat
        let (messages, behind) := activeMessages count (rest.drop len)
        (((toString id).toList ++ [':', ' '] ++ text) :: messages, behind)

/-- `DecodeActiveMessages`: the messages, and `complete`. -/
def decodeActiveMessages (p : List UInt8) : List (List Char) × Bool :=
  if p.length < 2 then
    ([], false)
  else
    let count := ByteUtil.loadBigU16 p
    let (messages, behind) := activeMessages count (p.drop 2)
    (messages, decide (behind = [] ∧ messages.length = count))

namespace ReceiveMonitor

/-- An update of the statistics. -/
def count (m : ReceiveMonitor) (f : DriverStatistics → DriverStatistics) : ReceiveMonitor :=
  { m with stats := f m.stats }

/-- The same on a condition. -/
def countIf (m : ReceiveMonitor) (c : Bool) (f : DriverStatistics → DriverStatistics) :
    ReceiveMonitor :=
  if c then m.count f else m

/-- The error callback of the frame receiver. -/
def onFrameError (m : ReceiveMonitor) (error : FrameError) (consecutive : Nat) : ReceiveMonitor :=
  let m :=
    if error = .checksumMismatch then
      m.count fun s => { s with crcErrors := s.crcErrors + 1 }
    else
      m.count fun s => { s with framingErrors := s.framingErrors + 1 }
  if consecutive ≥ maxConsecutiveFramingErrors then { m with fault := true } else m

def unexpectedReply (m : ReceiveMonitor) : ReceiveMonitor :=
  m.count fun s => { s with unexpectedReplies := s.unexpectedReplies + 1 }

/-- `HandleNonScanFrame`, the branch of `EMActiveCustomerInfo`. -/
def handleActiveMessages (cfg : MonitorConfig) (m : ReceiveMonitor) (payload : List UInt8)
    (clock : HostClock) : ReceiveMonitor :=
  let (warnings, complete) := decodeActiveMessages payload
  let m := { m with deviceWarningsMonotonicUs := if complete then clock.nowUs else 0 }
  if complete then
    let noNtp := warnings.any fun warning => "38:".toList.isPrefixOf warning
    let m := m.countIf (cfg.ntpEnabled && noNtp && !m.deviceNoNtp) fun s =>
      { s with deviceNoNtpEvents := s.deviceNoNtpEvents + 1 }
    let m := { m with deviceNoNtp := noNtp }
    m.countIf (cfg.ntpEnabled && noNtp) fun s => { s with ntpStatus := .noSignal }
  else
    m

/-- `HandleNonScanFrame`. -/
def handleNonScanFrame (cfg : MonitorConfig) (m : ReceiveMonitor) (msg : ColaBMessage)
    (clock : HostClock) : ReceiveMonitor :=
  if msg.commandType = CommandType.eventAnswer ∧ msg.commandName = ascii "LMDscandata" then
    if msg.payload = [if m.stopStreamRequested then 0 else 1] then m else m.unexpectedReply
  else if msg.commandType = CommandType.methodAnswer then
    m
  else if msg.commandType = CommandType.errorAnswer then
    m
  else if msg.commandType ≠ CommandType.readAnswer then
    m.unexpectedReply
  else if msg.commandName = ascii "OPcurtmpdev" ∧ msg.payload.length ≥ 4 then
    m
  else if msg.commandName = ascii "SCdevicestate" ∧ msg.payload ≠ [] then
    m
  else if msg.commandName = ascii "EMActiveCustomerInfo" then
    m.handleActiveMessages cfg msg.payload clock
  else
    m.unexpectedReply

/-- The warning list of the device has been read lately. -/
def warningsFresh (m : ReceiveMonitor) (clock : HostClock) : Bool :=
  m.deviceWarningsMonotonicUs ≠ 0 && clock.nowUs ≥ m.deviceWarningsMonotonicUs &&
    clock.nowUs - m.deviceWarningsMonotonicUs ≤ 30000000

/-- `AssessScanTime`: the observation. -/
def observeScan (cfg : MonitorConfig) (m : ReceiveMonitor) (scan : ScanData) (isPlausible : Bool)
    (clock : HostClock) : ReceiveMonitor × ClockObservation :=
  let (tracker, observation) :=
    m.timeGate.tracker.observe (deviceTimeUnixUs scan.timestamp) isPlausible scan.timeSinceStartupUs
      cfg.maxTimeStepMs
  let flags :=
    if !m.warningsFresh clock then { observation.flags with deviceNtpUnknown := true }
    else if m.deviceNoNtp then { observation.flags with deviceNoNtp := true }
    else observation.flags
  ({ m with timeGate := { m.timeGate with tracker } }, { observation with flags })

/-- `large_step` of `AssessScanTime`. -/
def largeStep (observation : ClockObservation) : Bool :=
  observation.flags.stepExceeded || observation.flags.uptimeDiscontinuity

/-- `AssessScanTime`: the counters. -/
def countObservation (m : ReceiveMonitor) (o : ClockObservation) : ReceiveMonitor :=
  let m := m.countIf o.flags.backwardUtc fun s => { s with utcBackwards := s.utcBackwards + 1 }
  let m := m.countIf (isTimeAnomaly o) fun s =>
    { s with timeAnomalyEvents := s.timeAnomalyEvents + 1 }
  let m :=
    { m with
      timeGate := { m.timeGate with anomalySeen := m.timeGate.anomalySeen || isTimeAnomaly o } }
  let m := m.countIf o.flags.repeatedUtc fun s => { s with utcRepeated := s.utcRepeated + 1 }
  let m := m.countIf (largeStep o) fun s => { s with clockStepEvents := s.clockStepEvents + 1 }
  m.count fun s =>
    { s with maxTimeStepUs := max s.maxTimeStepUs (ClockQualityTracker.magnitude o.stepUs) }

/-- `AssessScanTime`: the published status. -/
def publishNtpStatus (m : ReceiveMonitor) (isPlausible warningsFresh : Bool) : ReceiveMonitor :=
  let status : NtpStatus :=
    if !isPlausible then .notLocked
    else if !warningsFresh then .stale
    else if m.deviceNoNtp then .noSignal
    else .unverified
  let status : NtpStatus :=
    if m.timeGate.anomalySeen && status ≠ .noSignal then .clockAnomaly else status
  let status : NtpStatus :=
    if !m.stats.ntpServerReachable && m.fault then .unreachable else status
  m.count fun s => { s with ntpStatus := status }

/-- `AssessScanTime`: the latched time fault, and the gate. -/
def latchTimeFault (m : ReceiveMonitor) (isPlausible largeStep : Bool) (clock : HostClock) :
    ReceiveMonitor :=
  let invalidAfterStart := !isPlausible && (m.timeGate.plausibleSeen || clock.pastDeadline)
  let m :=
    if (invalidAfterStart || largeStep) && !m.timeFault then
      { m with timeFault := true, fault := true }
    else
      m
  if isPlausible then { m with timeGate := { m.timeGate with plausibleSeen := true } } else m

/-- `AssessScanTime`: the observation goes into the record. -/
def assessScanTime (cfg : MonitorConfig) (m : ReceiveMonitor) (scan : ScanData)
    (clock : HostClock) : ReceiveMonitor × ClockObservation :=
  if !cfg.ntpEnabled then
    (m, { flags := { assessed := true, ntpDisabled := true, absoluteTimeUnverified := true } })
  else
    let isPlausible := scan.hasTimestamp && deviceTimePlausible scan.timestamp
    let warningsFresh := m.warningsFresh clock
    let (m, observation) := m.observeScan cfg scan isPlausible clock
    let m := m.countObservation observation
    let m := m.publishNtpStatus isPlausible warningsFresh
    (m.latchTimeFault isPlausible (largeStep observation) clock, observation)

/-- `MonitorFrame` on a parsed scan, up to its clock. -/
def countScan (cfg : MonitorConfig) (m : ReceiveMonitor) (scan : ScanData) : ReceiveMonitor :=
  let m :=
    if m.firstScan then { m with firstScan := false, fault := m.fault || cfg.scanProblem scan }
    else m
  let expected := (m.stats.lastTelegramCounter + 1) % 2 ^ 16
  let m :=
    m.countIf (m.previousScanCounterValid && scan.telegramCounter ≠ expected) fun s =>
      { s with counterGaps := s.counterGaps + 1 }
  let m := { m with previousScanCounterValid := true }
  m.count fun s =>
    { s with
      framesParsed := s.framesParsed + 1
      lastTelegramCounter := scan.telegramCounter
      lastScanCounter := scan.scanCounter }

/-- The scan path of `MonitorFrame`. -/
def monitorScan (cfg : MonitorConfig) (m : ReceiveMonitor) (record : RawRecord)
    (payload : List UInt8) (clock : HostClock) : ReceiveMonitor × RawRecord :=
  let m := m.count fun s => { s with lastFrameTimeUs := record.receiveTimestampUs }
  match if m.firstScan then ScanDataParser.parse payload else ScanDataParser.parseTimestamp payload with
  | .error _ => (m.count fun s => { s with parseErrors := s.parseErrors + 1 }, record)
  | .ok (scan, _) =>
    let m := m.countScan cfg scan
    let (m, observation) := m.assessScanTime cfg scan clock
    (m.countIf (cfg.ntpEnabled && !scan.hasTimestamp) fun s => { s with ntpStatus := .noTimestamp },
      { record with
        deviceTimeUnixUs := if scan.hasTimestamp then deviceTimeUnixUs scan.timestamp else 0
        clockStepUs := observation.stepUs
        clockQualityFlags := observation.flags })

/-- `MonitorFrame`. -/
def monitorFrame (cfg : MonitorConfig) (m : ReceiveMonitor) (record : RawRecord)
    (clock : HostClock) : ReceiveMonitor × RawRecord :=
  if !record.frame.checksumValid then
    (m, record)
  else
    let bytes := record.frame.data
    if bytes.length < 9 then
      (m.count fun s => { s with parseErrors := s.parseErrors + 1 }, record)
    else
      let data := (bytes.drop 8).take (bytes.length - 9)
      if (ascii "sSN LMDscandata ").isPrefixOf data || (ascii "sRA LMDscandata ").isPrefixOf data then
        m.monitorScan cfg { record with isScan := true } (data.drop 16) clock
      else
        match ColaBCodec.decode data with
        | .error _ => (m.count fun s => { s with parseErrors := s.parseErrors + 1 }, record)
        | .ok msg =>
          let record := { record with isScan := isScanMessage msg }
          if isScanMessage msg then
            m.monitorScan cfg record msg.payload clock
          else
            ((m.count fun s => { s with nonScanFrames := s.nonScanFrames + 1 }).handleNonScanFrame
              cfg msg clock, record)

/-- `HandleFrame` up to its call of the telegram callback. -/
def handleFrame (cfg : MonitorConfig) (m : ReceiveMonitor) (frame : RawFrame) (clock : HostClock) :
    ReceiveMonitor × RawRecord :=
  let m := m.count fun s => { s with framesReceived := s.framesReceived + 1 }
  m.monitorFrame cfg { frame, receiveTimestampUs := clock.receiveTimestampUs } clock

/-! ## What a frame adds to the counters -/

/-- The counters that decide on the data, with the three that sort the valid frames added up. -/
def tallies (m : ReceiveMonitor) : Nat × Nat × Nat × Nat × Nat :=
  (m.stats.framesReceived, m.stats.framesDropped, m.stats.crcErrors, m.stats.framingErrors,
    m.stats.nonScanFrames + m.stats.parseErrors + m.stats.framesParsed)

theorem tallies_countIf (m : ReceiveMonitor) (c : Bool) {f : DriverStatistics → DriverStatistics}
    (hf : (m.count f).tallies = m.tallies) : (m.countIf c f).tallies = m.tallies := by
  cases c
  · rfl
  · exact hf

theorem tallies_handleActiveMessages (cfg : MonitorConfig) (m : ReceiveMonitor)
    (payload : List UInt8) (clock : HostClock) :
    (m.handleActiveMessages cfg payload clock).tallies = m.tallies := by
  unfold handleActiveMessages
  rcases decodeActiveMessages payload with ⟨warnings, _ | _⟩
  · rfl
  · exact (tallies_countIf _ _ rfl).trans (tallies_countIf _ _ rfl)

theorem tallies_handleNonScanFrame (cfg : MonitorConfig) (m : ReceiveMonitor) (msg : ColaBMessage)
    (clock : HostClock) : (m.handleNonScanFrame cfg msg clock).tallies = m.tallies := by
  have hactive := tallies_handleActiveMessages cfg m msg.payload clock
  have hreply : m.unexpectedReply.tallies = m.tallies := rfl
  unfold handleNonScanFrame
  split_ifs <;> first | rfl | exact hreply | exact hactive

theorem tallies_countObservation (m : ReceiveMonitor) (o : ClockObservation) :
    (m.countObservation o).tallies = m.tallies := by
  unfold countObservation
  exact (tallies_countIf _ _ rfl).trans ((tallies_countIf _ _ rfl).trans
    ((tallies_countIf _ _ rfl).trans (tallies_countIf _ _ rfl)))

theorem tallies_latchTimeFault (m : ReceiveMonitor) (isPlausible largeStep : Bool)
    (clock : HostClock) : (m.latchTimeFault isPlausible largeStep clock).tallies = m.tallies := by
  unfold latchTimeFault
  dsimp only
  split_ifs <;> rfl

theorem tallies_assessScanTime (cfg : MonitorConfig) (m : ReceiveMonitor) (scan : ScanData)
    (clock : HostClock) : (m.assessScanTime cfg scan clock).1.tallies = m.tallies := by
  unfold assessScanTime
  split
  · rfl
  · exact (tallies_latchTimeFault _ _ _ _).trans (tallies_countObservation _ _)

/-- One valid frame more. -/
def sortOne (t : Nat × Nat × Nat × Nat × Nat) : Nat × Nat × Nat × Nat × Nat :=
  (t.1, t.2.1, t.2.2.1, t.2.2.2.1, t.2.2.2.2 + 1)

theorem tallies_countScan (cfg : MonitorConfig) (m : ReceiveMonitor) (scan : ScanData) :
    (m.countScan cfg scan).tallies = sortOne m.tallies := by
  have hverified : (if m.firstScan then
      { m with firstScan := false, fault := m.fault || cfg.scanProblem scan } else m).tallies =
      m.tallies := by
    split <;> rfl
  unfold countScan
  exact congrArg sortOne ((tallies_countIf _ _ rfl).trans hverified)

/-- A scan is counted as parsed or as a parse error. -/
theorem tallies_monitorScan (cfg : MonitorConfig) (m : ReceiveMonitor) (record : RawRecord)
    (payload : List UInt8) (clock : HostClock) :
    (m.monitorScan cfg record payload clock).1.tallies = sortOne m.tallies := by
  have herror : ((m.count fun s => { s with lastFrameTimeUs := record.receiveTimestampUs }).count
      fun s => { s with parseErrors := s.parseErrors + 1 }).tallies = sortOne m.tallies := by
    simp only [tallies, count, sortOne]
    rw [← Nat.add_assoc, Nat.add_right_comm]
  unfold monitorScan
  dsimp only
  split
  · exact herror
  · refine (tallies_countIf _ _ rfl).trans ((tallies_assessScanTime _ _ _ _).trans ?_)
    exact tallies_countScan _ _ _

theorem monitorScan_frame (cfg : MonitorConfig) (m : ReceiveMonitor) (record : RawRecord)
    (payload : List UInt8) (clock : HostClock) :
    (m.monitorScan cfg record payload clock).2.frame = record.frame := by
  unfold monitorScan
  dsimp only
  split <;> rfl

/-- A valid frame is sorted; a frame with a bad checksum is not. -/
theorem tallies_monitorFrame (cfg : MonitorConfig) (m : ReceiveMonitor) (record : RawRecord)
    (clock : HostClock) :
    (m.monitorFrame cfg record clock).1.tallies =
      if record.frame.checksumValid then sortOne m.tallies else m.tallies := by
  have herror : (m.count fun s => { s with parseErrors := s.parseErrors + 1 }).tallies =
      sortOne m.tallies := by
    simp only [tallies, count, sortOne]
    rw [← Nat.add_assoc, Nat.add_right_comm]
  have hnonScan : (m.count fun s => { s with nonScanFrames := s.nonScanFrames + 1 }).tallies =
      sortOne m.tallies := by
    simp only [tallies, count, sortOne]
    rw [Nat.add_right_comm m.stats.nonScanFrames, Nat.add_right_comm _ 1]
  unfold monitorFrame
  cases hvalid : record.frame.checksumValid with
  | false => rfl
  | true =>
    simp only [Bool.not_true, Bool.false_eq_true, if_false, if_true]
    split
    · exact herror
    · split
      · exact tallies_monitorScan _ _ _ _ _
      · split
        · exact herror
        · split
          · exact tallies_monitorScan _ _ _ _ _
          · exact (tallies_handleNonScanFrame _ _ _ _).trans hnonScan

theorem monitorFrame_frame (cfg : MonitorConfig) (m : ReceiveMonitor) (record : RawRecord)
    (clock : HostClock) : (m.monitorFrame cfg record clock).2.frame = record.frame := by
  unfold monitorFrame
  dsimp only
  split
  · rfl
  · split
    · rfl
    · split
      · exact monitorScan_frame _ _ _ _ _
      · split
        · rfl
        · split
          · exact monitorScan_frame _ _ _ _ _
          · rfl

/-- **What a frame adds**: one to the frames received, and one to those sorted if its checksum
is valid. -/
theorem tallies_handleFrame (cfg : MonitorConfig) (m : ReceiveMonitor) (frame : RawFrame)
    (clock : HostClock) :
    (m.handleFrame cfg frame clock).1.tallies =
      (m.tallies.1 + 1, m.tallies.2.1, m.tallies.2.2.1, m.tallies.2.2.2.1,
        m.tallies.2.2.2.2 + if frame.checksumValid then 1 else 0) := by
  unfold handleFrame
  refine (tallies_monitorFrame _ _ _ _).trans ?_
  dsimp only
  cases frame.checksumValid <;> rfl

/-- The monitor leaves the frame as it is. -/
theorem handleFrame_frame (cfg : MonitorConfig) (m : ReceiveMonitor) (frame : RawFrame)
    (clock : HostClock) : (m.handleFrame cfg frame clock).2.frame = frame :=
  monitorFrame_frame _ _ _ _

/-- What an error report adds. -/
theorem tallies_onFrameError (m : ReceiveMonitor) (error : FrameError) (consecutive : Nat) :
    (m.onFrameError error consecutive).tallies =
      (m.tallies.1, m.tallies.2.1,
        m.tallies.2.2.1 + (if error = .checksumMismatch then 1 else 0),
        m.tallies.2.2.2.1 + (if error = .checksumMismatch then 0 else 1), m.tallies.2.2.2.2) := by
  unfold onFrameError
  by_cases h : error = .checksumMismatch
  · simp only [if_pos h]
    split <;> rfl
  · simp only [if_neg h]
    split <;> rfl

end ReceiveMonitor
end Lms
end AmigaDrivers
