import AmigaDrivers.Lms.Recording
import AmigaDrivers.Foundation.History

/-!
# A clock anomaly sticks

The status of the clock is published from the scan path, from the replies of the device and from
the NTP watch thread.

* `MonitorAction`, `ReceiveMonitor.system`: what sets the monitor's state, in any order.
* `handleFrame_of_noScan`, `handleFrame_of_scan`: what a frame does to the gate and the status.
* `monitor_of_reachable`: the monitor of a recording is one of these runs.
* `clock_anomaly_sticks`: behind an anomaly the status stays degraded until the next start.
-/

namespace AmigaDrivers
namespace Lms

/-- What happens to the monitor. -/
inductive MonitorAction
  /-- `StartScanning` past its guards -/
  | startScanning
  /-- `ReadSome` returns that many bytes -/
  | read (size : Nat)
  /-- the frame receiver delivers -/
  | frame (frame : RawFrame) (clock : HostClock)
  | frameError (error : FrameError) (consecutive : Nat)
  | readFailed
  /-- the NTP watch thread has probed the server -/
  | ntpWatch (reachable givenUp : Bool)
  | stopStream

namespace ReceiveMonitor

/-- `StartScanning` resets the state of a run; the fields about NTP keep what `Configure` set. -/
def startScanning (cfg : MonitorConfig) (m : ReceiveMonitor) : ReceiveMonitor where
  stats :=
    { ntpServerReachable := m.stats.ntpServerReachable
      ntpStatus := if cfg.ntpEnabled then .notLocked else m.stats.ntpStatus }

/-- What each of them does. -/
def step (cfg : MonitorConfig) (m : ReceiveMonitor) : MonitorAction → Option ReceiveMonitor
  | .startScanning => some (m.startScanning cfg)
  | .read size => some (m.count fun s => { s with bytesReceived := s.bytesReceived + size })
  | .frame frame clock => some (m.handleFrame cfg frame clock).1
  | .frameError error consecutive => some (m.onFrameError error consecutive)
  | .readFailed => some { m with fault := true }
  | .ntpWatch reachable givenUp => some (Recording.ntpWatch m reachable givenUp)
  | .stopStream => some { m with stopStreamRequested := true }

/-- The monitor, with all that sets its state. -/
def system (cfg : MonitorConfig) : StepSystem ReceiveMonitor MonitorAction where
  Init m := m = {}
  step := step cfg

/-! ## What is seen and what is published -/

/-- The payload of a scan that a frame holds. -/
def scanPayload (frame : RawFrame) : Option (List UInt8) :=
  if !frame.checksumValid || decide (frame.data.length < 9) then none
  else
    let data := (frame.data.drop 8).take (frame.data.length - 9)
    if (ByteUtil.ascii "sSN LMDscandata ").isPrefixOf data ||
        (ByteUtil.ascii "sRA LMDscandata ").isPrefixOf data then
      some (data.drop 16)
    else
      match ColaBCodec.decode data with
      | .error _ => none
      | .ok msg => if isScanMessage msg then some msg.payload else none

/-- The scan in a payload, as far as the monitor reads it. -/
def scanOfPayload (m : ReceiveMonitor) (payload : List UInt8) : Option ScanData :=
  match if m.firstScan then ScanDataParser.parse payload
    else ScanDataParser.parseTimestamp payload with
  | .error _ => none
  | .ok (scan, _) => some scan

/-- The scan that a frame holds. -/
def scanOf (m : ReceiveMonitor) (frame : RawFrame) : Option ScanData :=
  match scanPayload frame with
  | none => none
  | some payload => m.scanOfPayload payload

/-- The observation of a scan. -/
def observationOf (cfg : MonitorConfig) (m : ReceiveMonitor) (scan : ScanData)
    (clock : HostClock) : ClockObservation :=
  (m.observeScan cfg scan (scan.hasTimestamp && deviceTimePlausible scan.timestamp) clock).2

/-- The step is a scan whose observation is an anomaly. -/
def SeesAnomaly (cfg : MonitorConfig) (u : Taken ReceiveMonitor MonitorAction) : Prop :=
  ∃ frame clock scan, u.action = .frame frame clock ∧ u.before.scanOf frame = some scan ∧
    isTimeAnomaly (u.before.observationOf cfg scan clock) = true

/-- A status that tells of a clock that cannot be relied on. -/
def Degraded (status : NtpStatus) : Prop :=
  status = .clockAnomaly ∨ status = .noSignal ∨ status = .unreachable ∨ status = .noTimestamp

/-- An anomaly that was seen shows in the status. -/
def Sticky (m : ReceiveMonitor) : Prop :=
  m.timeGate.anomalySeen = true → Degraded m.stats.ntpStatus

/-! ## The parts of a frame -/

/-- An update that has nothing to do with the clock. -/
def KeepsClock (m m' : ReceiveMonitor) : Prop :=
  m'.timeGate.anomalySeen = m.timeGate.anomalySeen ∧
    (m'.stats.ntpStatus = m.stats.ntpStatus ∨ m'.stats.ntpStatus = .noSignal)

theorem KeepsClock.refl (m : ReceiveMonitor) : KeepsClock m m := ⟨rfl, .inl rfl⟩

theorem KeepsClock.trans {m m' m'' : ReceiveMonitor} (h : KeepsClock m m')
    (h' : KeepsClock m' m'') : KeepsClock m m'' := by
  refine ⟨h'.1.trans h.1, ?_⟩
  obtain hstatus | hstatus := h'.2
  · exact h.2.imp hstatus.trans hstatus.trans
  · exact .inr hstatus

theorem KeepsClock.sticky {m m' : ReceiveMonitor} (h : KeepsClock m m') (hm : m.Sticky) :
    m'.Sticky := by
  intro hseen
  obtain hstatus | hstatus := h.2
  · exact hstatus ▸ hm (h.1 ▸ hseen)
  · exact .inr (.inl hstatus)

theorem keepsClock_handleActiveMessages (cfg : MonitorConfig) (m : ReceiveMonitor)
    (payload : List UInt8) (clock : HostClock) :
    KeepsClock m (m.handleActiveMessages cfg payload clock) := by
  unfold handleActiveMessages
  rcases decodeActiveMessages payload with ⟨warnings, _ | _⟩
  · exact ⟨rfl, .inl rfl⟩
  · simp only [countIf, if_true]
    split_ifs <;> first | exact ⟨rfl, .inl rfl⟩ | exact ⟨rfl, .inr rfl⟩

theorem keepsClock_handleNonScanFrame (cfg : MonitorConfig) (m : ReceiveMonitor)
    (msg : ColaBMessage) (clock : HostClock) :
    KeepsClock m (m.handleNonScanFrame cfg msg clock) := by
  have hactive := keepsClock_handleActiveMessages cfg m msg.payload clock
  have hreply : KeepsClock m m.unexpectedReply := ⟨rfl, .inl rfl⟩
  unfold handleNonScanFrame
  split_ifs <;> first | exact .refl m | exact hreply | exact hactive

theorem keepsClock_onFrameError (m : ReceiveMonitor) (error : FrameError) (consecutive : Nat) :
    KeepsClock m (m.onFrameError error consecutive) := by
  unfold onFrameError
  dsimp only
  split_ifs <;> exact ⟨rfl, .inl rfl⟩

/-! ## A scan -/

/-- The gate remembers an anomaly. -/
theorem anomalySeen_countObservation (m : ReceiveMonitor) (o : ClockObservation) :
    (m.countObservation o).timeGate.anomalySeen = (m.timeGate.anomalySeen || isTimeAnomaly o) := by
  simp only [countObservation, countIf]
  split_ifs <;> rfl

/-- What is published behind an anomaly. -/
theorem sticky_publishNtpStatus (m : ReceiveMonitor) (isPlausible warningsFresh : Bool) :
    (m.publishNtpStatus isPlausible warningsFresh).Sticky := by
  intro hseen
  have hseen : m.timeGate.anomalySeen = true := hseen
  unfold publishNtpStatus
  dsimp only [count]
  generalize (if !isPlausible then NtpStatus.notLocked else if !warningsFresh then .stale
    else if m.deviceNoNtp then .noSignal else .unverified) = status
  have hstatus : Degraded
      (if m.timeGate.anomalySeen && decide (status ≠ .noSignal) then .clockAnomaly else status) := by
    by_cases hsignal : status = .noSignal
    · rw [if_neg (by simp [hsignal])]
      exact .inr (.inl hsignal)
    · rw [if_pos (by simp [hseen, hsignal])]
      exact .inl rfl
  split
  · exact .inr (.inr (.inl rfl))
  · exact hstatus

theorem keepsClock_latchTimeFault (m : ReceiveMonitor) (isPlausible largeStep : Bool)
    (clock : HostClock) : KeepsClock m (m.latchTimeFault isPlausible largeStep clock) := by
  unfold latchTimeFault
  dsimp only
  split_ifs <;> exact ⟨rfl, .inl rfl⟩

/-- The gate remembers an anomaly, and the status tells of it. -/
theorem assessScanTime_sticky {cfg : MonitorConfig} (hntp : cfg.ntpEnabled = true)
    (m : ReceiveMonitor) (scan : ScanData) (clock : HostClock) :
    (m.assessScanTime cfg scan clock).1.Sticky ∧
      (m.assessScanTime cfg scan clock).1.timeGate.anomalySeen =
        (m.timeGate.anomalySeen || isTimeAnomaly (m.observationOf cfg scan clock)) := by
  unfold assessScanTime observationOf
  rw [if_neg (by rw [hntp]; exact Bool.false_ne_true)]
  dsimp only
  have hlatch := keepsClock_latchTimeFault
    (((m.observeScan cfg scan (scan.hasTimestamp && deviceTimePlausible scan.timestamp)
      clock).1.countObservation (m.observeScan cfg scan
        (scan.hasTimestamp && deviceTimePlausible scan.timestamp) clock).2).publishNtpStatus
      (scan.hasTimestamp && deviceTimePlausible scan.timestamp) (m.warningsFresh clock))
    (scan.hasTimestamp && deviceTimePlausible scan.timestamp)
    (largeStep (m.observeScan cfg scan
      (scan.hasTimestamp && deviceTimePlausible scan.timestamp) clock).2) clock
  refine ⟨hlatch.sticky (sticky_publishNtpStatus _ _ _), hlatch.1.trans ?_⟩
  exact anomalySeen_countObservation _ _

/-- Counting a scan does not change what its clock says. -/
theorem countScan_clock (cfg : MonitorConfig) (m : ReceiveMonitor) (scan : ScanData) :
    (m.countScan cfg scan).timeGate = m.timeGate ∧
      (m.countScan cfg scan).deviceWarningsMonotonicUs = m.deviceWarningsMonotonicUs ∧
      (m.countScan cfg scan).deviceNoNtp = m.deviceNoNtp := by
  simp only [countScan, countIf]
  split_ifs <;> exact ⟨rfl, rfl, rfl⟩

/-- An observation depends on the gate and the device's warnings only. -/
theorem observationOf_congr {cfg : MonitorConfig} {m m' : ReceiveMonitor} {scan : ScanData}
    {clock : HostClock} (hgate : m'.timeGate = m.timeGate)
    (hread : m'.deviceWarningsMonotonicUs = m.deviceWarningsMonotonicUs)
    (hnoNtp : m'.deviceNoNtp = m.deviceNoNtp) :
    m'.observationOf cfg scan clock = m.observationOf cfg scan clock := by
  unfold observationOf observeScan warningsFresh
  rw [hgate, hread, hnoNtp]

theorem monitorScan_of_none (cfg : MonitorConfig) {m : ReceiveMonitor} {payload : List UInt8}
    (h : m.scanOfPayload payload = none) (record : RawRecord) (clock : HostClock) :
    KeepsClock m (m.monitorScan cfg record payload clock).1 := by
  unfold monitorScan
  dsimp only
  split
  · exact ⟨rfl, .inl rfl⟩
  · rename_i scan r hparse
    unfold scanOfPayload at h
    rw [show (if m.firstScan then ScanDataParser.parse payload
      else ScanDataParser.parseTimestamp payload) = .ok (scan, r) from hparse] at h
    exact nomatch h

theorem monitorScan_of_some {cfg : MonitorConfig} (hntp : cfg.ntpEnabled = true)
    {m : ReceiveMonitor} {payload : List UInt8} {scan : ScanData}
    (h : m.scanOfPayload payload = some scan) (record : RawRecord) (clock : HostClock) :
    (m.monitorScan cfg record payload clock).1.Sticky ∧
      (m.monitorScan cfg record payload clock).1.timeGate.anomalySeen =
        (m.timeGate.anomalySeen || isTimeAnomaly (m.observationOf cfg scan clock)) := by
  unfold scanOfPayload at h
  split at h
  · cases h
  · rename_i scan' r hparse
    obtain rfl := Option.some.inj h
    unfold monitorScan
    dsimp only
    split
    · rename_i hparse'
      cases hparse.symm.trans hparse'
    · rename_i scan' r' hparse'
      obtain ⟨rfl, -⟩ := Prod.mk.inj (Except.ok.inj (hparse.symm.trans hparse'))
      have hclock := countScan_clock cfg
        (m.count fun s => { s with lastFrameTimeUs := record.receiveTimestampUs }) scan'
      obtain ⟨hsticky, hseen⟩ := assessScanTime_sticky hntp
        ((m.count fun s => { s with lastFrameTimeUs := record.receiveTimestampUs }).countScan cfg
          scan') scan' clock
      rw [observationOf_congr (hclock.1.trans rfl) (hclock.2.1.trans rfl) (hclock.2.2.trans rfl),
        hclock.1] at hseen
      unfold countIf
      split
      · exact ⟨fun _ => .inr (.inr (.inr rfl)), hseen⟩
      · exact ⟨hsticky, hseen⟩

/-! ## A frame -/

/-- A frame is monitored as the scan it holds, or its clock is not looked at. -/
theorem monitorFrame_cases (cfg : MonitorConfig) (m : ReceiveMonitor) (record : RawRecord)
    (clock : HostClock) :
    (scanPayload record.frame = none ∧ KeepsClock m (m.monitorFrame cfg record clock).1) ∨
      ∃ payload record', scanPayload record.frame = some payload ∧
        (m.monitorFrame cfg record clock).1 = (m.monitorScan cfg record' payload clock).1 := by
  have herror : KeepsClock m (m.count fun s => { s with parseErrors := s.parseErrors + 1 }) :=
    ⟨rfl, .inl rfl⟩
  unfold scanPayload monitorFrame
  dsimp only
  cases hvalid : record.frame.checksumValid with
  | false => exact .inl ⟨rfl, .refl m⟩
  | true =>
    by_cases hshort : record.frame.data.length < 9
    · simp only [hshort, decide_true, Bool.not_true, Bool.false_or, if_true, Bool.false_eq_true,
        if_false]
      exact .inl ⟨trivial, herror⟩
    · simp only [hshort, decide_false, Bool.not_true, Bool.or_false, if_false, Bool.false_eq_true]
      split
      · exact .inr ⟨_, _, rfl, rfl⟩
      · cases hdecode : ColaBCodec.decode ((record.frame.data.drop 8).take
            (record.frame.data.length - 9)) with
        | error e => exact .inl ⟨rfl, herror⟩
        | ok msg =>
          dsimp only
          cases hscan : isScanMessage msg with
          | true => exact .inr ⟨_, _, rfl, rfl⟩
          | false =>
            refine .inl ⟨rfl, ?_⟩
            exact .trans ⟨rfl, .inl rfl⟩ (keepsClock_handleNonScanFrame cfg _ msg clock)

/-- **A frame**: the gate remembers an anomaly, and the status tells of it. -/
theorem handleFrame_sticky {cfg : MonitorConfig} (hntp : cfg.ntpEnabled = true)
    {m : ReceiveMonitor} (hsticky : m.Sticky) (frame : RawFrame) (clock : HostClock) :
    (m.handleFrame cfg frame clock).1.Sticky ∧
      (m.timeGate.anomalySeen = true → (m.handleFrame cfg frame clock).1.timeGate.anomalySeen = true) ∧
      (∀ scan, m.scanOf frame = some scan → isTimeAnomaly (m.observationOf cfg scan clock) = true →
        (m.handleFrame cfg frame clock).1.timeGate.anomalySeen = true) := by
  have hcount : KeepsClock m (m.count fun s => { s with framesReceived := s.framesReceived + 1 }) :=
    ⟨rfl, .inl rfl⟩
  unfold handleFrame scanOf
  dsimp only
  obtain ⟨hnone, hkeeps⟩ | ⟨payload, record, hpayload, hscan⟩ := monitorFrame_cases cfg
    (m.count fun s => { s with framesReceived := s.framesReceived + 1 })
    { frame, receiveTimestampUs := clock.receiveTimestampUs } clock
  · refine ⟨(hcount.trans hkeeps).sticky hsticky, fun hseen => hkeeps.1.trans hseen, ?_⟩
    intro scan hscan
    rw [show scanPayload frame = none from hnone] at hscan
    exact nomatch hscan
  · rw [show scanPayload frame = some payload from hpayload, hscan]
    dsimp only
    cases hparse : m.scanOfPayload payload with
    | none =>
      have hkeeps := monitorScan_of_none cfg
        (m := m.count fun s => { s with framesReceived := s.framesReceived + 1 }) hparse record clock
      exact ⟨(hcount.trans hkeeps).sticky hsticky, fun hseen => hkeeps.1.trans hseen, nofun⟩
    | some scan =>
      obtain ⟨hafter, hseen⟩ := monitorScan_of_some hntp
        (m := m.count fun s => { s with framesReceived := s.framesReceived + 1 }) hparse record clock
      refine ⟨hafter, fun h => ?_, ?_⟩
      · rw [hseen]
        exact Bool.or_eq_true_iff.mpr (.inl h)
      · intro scan' hscan' hanomaly
        obtain rfl := Option.some.inj hscan'
        rw [hseen]
        exact Bool.or_eq_true_iff.mpr (.inr hanomaly)

/-! ## The verdict -/

section Verdict

variable {result : RecordingStatus} (h : result.timeQualityDegraded = true)
include h

theorem dataError_degraded (name : String) (count : Nat) :
    (RecordingStatus.dataError name count result).timeQualityDegraded = true := by
  unfold RecordingStatus.dataError
  split <;> exact h

theorem timeError_degraded (name : String) (count : Nat) :
    (RecordingStatus.timeError name count result).timeQualityDegraded = true := by
  unfold RecordingStatus.timeError
  split
  · exact h
  · rfl

theorem dataFailure_degraded (failed : Bool) (reason : String) :
    (RecordingStatus.dataFailure failed reason result).timeQualityDegraded = true := by
  unfold RecordingStatus.dataFailure
  split <;> exact h

theorem otherFailure_degraded (failed : Bool) (reason : String) :
    (RecordingStatus.otherFailure failed reason result).timeQualityDegraded = true := by
  unfold RecordingStatus.otherFailure
  split <;> exact h

end Verdict

/-- No later counter takes back what the status says of the time. -/
theorem timeQualityDegraded_of_degraded {drv : DriverStatistics} (h : Degraded drv.ntpStatus)
    (wr : RecorderStatistics) (driverFault writerFailed alreadyFailed : Bool) :
    (assessRecording drv wr driverFault writerFailed alreadyFailed).timeQualityDegraded = true := by
  have hstatus : (decide (drv.ntpStatus = .noTimestamp) || decide (drv.ntpStatus = .notLocked) ||
      decide (drv.ntpStatus = .noSignal) || decide (drv.ntpStatus = .unreachable) ||
      decide (drv.ntpStatus = .clockAnomaly)) = true := by
    obtain h | h | h | h := h <;> rw [h] <;> rfl
  unfold assessRecording
  refine otherFailure_degraded (otherFailure_degraded ?_ _ _) _ _
  refine timeError_degraded (timeError_degraded (timeError_degraded ?_ _ _) _ _) _ _
  refine dataFailure_degraded (dataFailure_degraded ?_ _ _) _ _
  refine dataError_degraded (dataError_degraded (dataError_degraded ?_ _ _) _ _) _ _
  exact dataError_degraded (dataError_degraded (dataError_degraded hstatus _ _) _ _) _ _

/-! ## Every run -/

theorem ntpWatch_sticky {m : ReceiveMonitor} (hsticky : m.Sticky) (reachable givenUp : Bool) :
    (Recording.ntpWatch m reachable givenUp).Sticky ∧
      (Recording.ntpWatch m reachable givenUp).timeGate = m.timeGate := by
  unfold Recording.ntpWatch
  dsimp only
  split
  · exact ⟨fun _ => .inr (.inr (.inl rfl)), rfl⟩
  · exact ⟨hsticky, rfl⟩

/-- What a step keeps. -/
theorem sticky_step {cfg : MonitorConfig} (hntp : cfg.ntpEnabled = true) {m m' : ReceiveMonitor}
    {a : MonitorAction} (h : m.step cfg a = some m') (hsticky : m.Sticky) :
    m'.Sticky ∧
      (a ≠ .startScanning → m.timeGate.anomalySeen = true → m'.timeGate.anomalySeen = true) := by
  cases a with
  | startScanning =>
    obtain rfl := Option.some.inj h
    exact ⟨nofun, fun hne => absurd rfl hne⟩
  | read size =>
    obtain rfl := Option.some.inj h
    exact ⟨hsticky, fun _ hseen => hseen⟩
  | frame frame clock =>
    obtain rfl := Option.some.inj h
    have hframe := handleFrame_sticky hntp hsticky frame clock
    exact ⟨hframe.1, fun _ => hframe.2.1⟩
  | frameError error consecutive =>
    obtain rfl := Option.some.inj h
    have hkeeps := keepsClock_onFrameError m error consecutive
    exact ⟨hkeeps.sticky hsticky, fun _ hseen => hkeeps.1.trans hseen⟩
  | readFailed =>
    obtain rfl := Option.some.inj h
    exact ⟨hsticky, fun _ hseen => hseen⟩
  | ntpWatch reachable givenUp =>
    obtain rfl := Option.some.inj h
    have hwatch := ntpWatch_sticky hsticky reachable givenUp
    exact ⟨hwatch.1, fun _ hseen => hwatch.2 ▸ hseen⟩
  | stopStream =>
    obtain rfl := Option.some.inj h
    exact ⟨hsticky, fun _ hseen => hseen⟩

theorem sticky_of_reachable {cfg : MonitorConfig} (hntp : cfg.ntpEnabled = true)
    {m : ReceiveMonitor} (h : (system cfg).Reachable m) : m.Sticky := by
  refine h.invariant ?_ ?_
  · rintro _ rfl
    exact nofun
  · intro m a m' hsticky hstep
    exact (sticky_step hntp hstep hsticky).1

/-- An anomaly since the last start is remembered. -/
def Remembered (cfg : MonitorConfig)
    (s : ReceiveMonitor × List (Taken ReceiveMonitor MonitorAction)) : Prop :=
  ∀ newer u older, s.2 = newer ++ u :: older → SeesAnomaly cfg u →
    (∀ v ∈ newer, v.action ≠ .startScanning) → s.1.timeGate.anomalySeen = true

theorem remembered_of_reachable {cfg : MonitorConfig} (hntp : cfg.ntpEnabled = true)
    {s : ReceiveMonitor × List (Taken ReceiveMonitor MonitorAction)}
    (h : (system cfg).recorded.Reachable s) : Remembered cfg s := by
  refine h.invariant_of (fun s hs => sticky_of_reachable hntp hs.of_recorded) ?_ ?_
  · rintro s ⟨-, hhistory⟩ newer u older hsplit
    rw [hhistory] at hsplit
    exact absurd hsplit.symm (by simp)
  · intro s a s' hsticky ih hstep newer u older hsplit hsees hnewer
    obtain ⟨hafter, hhistory⟩ := StepSystem.recorded_step hstep
    rw [hhistory] at hsplit
    cases newer with
    | nil =>
      obtain ⟨rfl, -⟩ := List.cons.inj hsplit
      obtain ⟨frame, clock, scan, haction, hscan, hanomaly⟩ := hsees
      have haction : a = .frame frame clock := haction
      subst haction
      rw [← Option.some.inj hafter]
      exact (handleFrame_sticky hntp hsticky frame clock).2.2 scan hscan hanomaly
    | cons w newer =>
      obtain ⟨rfl, hrest⟩ := List.cons.inj hsplit
      refine (sticky_step hntp hafter hsticky).2 (hnewer _ List.mem_cons_self) ?_
      exact ih newer u older hrest hsees fun v hv => hnewer v (List.mem_cons_of_mem _ hv)

/-- **A clock anomaly sticks.**  Whatever happens after a scan whose observation is an anomaly, up
to the next start, the published status is one of a clock anomaly, no signal, an unreachable
server or no timestamp, and the verdict on the recording says that its time is degraded. -/
theorem clock_anomaly_sticks {cfg : MonitorConfig} (hntp : cfg.ntpEnabled = true)
    {m : ReceiveMonitor} {history : List (Taken ReceiveMonitor MonitorAction)}
    (h : (system cfg).recorded.Reachable (m, history))
    {newer older : List (Taken ReceiveMonitor MonitorAction)}
    {u : Taken ReceiveMonitor MonitorAction} (hsplit : history = newer ++ u :: older)
    (hsees : SeesAnomaly cfg u) (hnewer : ∀ v ∈ newer, v.action ≠ .startScanning) :
    Degraded m.stats.ntpStatus ∧
      ∀ (wr : RecorderStatistics) (driverFault writerFailed alreadyFailed : Bool),
        (assessRecording m.stats wr driverFault writerFailed alreadyFailed).timeQualityDegraded =
          true := by
  have hseen := remembered_of_reachable hntp h newer u older hsplit hsees hnewer
  have hdegraded := sticky_of_reachable hntp h.of_recorded hseen
  exact ⟨hdegraded, timeQualityDegraded_of_degraded hdegraded⟩

/-- A scan at a second of a minute in 2026, that many times 256 microseconds after the start of the
device. -/
def scanAt (second uptime : UInt8) : RawFrame where
  data := List.flatten
    [List.replicate 8 0, ByteUtil.ascii "sSN LMDscandata ", List.replicate 14 0,
      [0, 0, uptime, 0, 0, 0, 1, 1], List.replicate 14 0, List.replicate 12 0,
      [0, 1, 7, 234, 5, 4, 3, 2, second, 0, 0, 0, 6], [0]]
  checksumValid := true

/-- The settings of a scanner with NTP. -/
def withNtp : MonitorConfig := ⟨true, 2000, fun _ => false⟩

/-- The clock goes back a second; then the server answers and the clock runs on. -/
def backOneSecond : List MonitorAction :=
  [.startScanning, .frame (scanAt 9 0) ⟨0, 0, false⟩, .frame (scanAt 8 80) ⟨0, 0, false⟩,
    .ntpWatch true false, .frame (scanAt 9 160) ⟨0, 0, false⟩]

theorem clock_anomaly_sticks_of_backOneSecond :
    ∃ m history, (system withNtp).recorded.exec ({}, []) backOneSecond = some (m, history) ∧
      Degraded m.stats.ntpStatus := by
  have hexec : (system withNtp).recorded.exec ({}, []) backOneSecond = some _ := rfl
  have hinit : (system withNtp).recorded.Init ({}, []) := ⟨rfl, rfl⟩
  refine ⟨_, _, hexec, ?_⟩
  refine (clock_anomaly_sticks rfl (StepSystem.reachable_of_exec (.init hinit) hexec)
    (show _ = [_, _] ++ _ :: _ from rfl) ?_ ?_).1
  · exact ⟨scanAt 8 80, _, _, rfl, rfl, rfl⟩
  · exact List.forall_mem_cons.mpr ⟨nofun, List.forall_mem_singleton.mpr nofun⟩

end ReceiveMonitor

/-! ## A recording -/

namespace Recording

/-- A step of a recording is a step of its monitor, or leaves the monitor alone. -/
theorem monitor_step {cfg : RecordingConfig} {s s' : Recording} {a : RecordingAction}
    (h : s.step cfg a = some s') :
    s'.monitor = s.monitor ∨ ∃ b, s.monitor.step cfg.monitor b = some s'.monitor := by
  cases a with
  | read chunk =>
    dsimp only [Recording.step] at h
    split_ifs at h
    obtain rfl := Option.some.inj h
    exact .inr ⟨.read chunk.length, rfl⟩
  | exit readError =>
    dsimp only [Recording.step] at h
    split_ifs at h
    obtain rfl := Option.some.inj h
    cases readError with
    | false => exact .inl (by rw [Bool.or_false])
    | true => exact .inr ⟨.readFailed, by rw [Bool.or_true]; rfl⟩
  | callback clock =>
    dsimp only [Recording.step] at h
    split at h
    · obtain rfl := Option.some.inj h
      unfold callback
      split
      · exact .inl rfl
      · exact .inr ⟨.frameError _ _, rfl⟩
      · exact .inr ⟨.frame _ clock, rfl⟩
    · obtain rfl := Option.some.inj h
      unfold finishCallback
      split
      · exact .inr ⟨.frameError _ _, rfl⟩
      · exact .inl rfl
    · exact nomatch h
  | handOver =>
    dsimp only [Recording.step] at h
    split at h
    · obtain ⟨recorder, -, rfl⟩ := Option.map_eq_some_iff.mp h
      exact .inl rfl
    · exact nomatch h
  | goOn =>
    dsimp only [Recording.step] at h
    split_ifs at h
    obtain rfl := Option.some.inj h
    exact .inl rfl
  | finish =>
    dsimp only [Recording.step] at h
    split_ifs at h
    obtain rfl := Option.some.inj h
    exact .inl rfl
  | recorder a =>
    dsimp only [Recording.step] at h
    split at h
    · exact nomatch h
    · obtain ⟨recorder, -, rfl⟩ := Option.map_eq_some_iff.mp h
      exact .inl rfl
  | ntpWatch reachable givenUp =>
    obtain rfl := Option.some.inj h
    exact .inr ⟨.ntpWatch reachable givenUp, rfl⟩
  | stopStream =>
    obtain rfl := Option.some.inj h
    exact .inr ⟨.stopStream, rfl⟩

/-- The monitor of a recording is in one of its own runs. -/
theorem monitor_of_reachable {cfg : RecordingConfig} {s : Recording}
    (h : (Recording.system cfg).Reachable s) :
    (ReceiveMonitor.system cfg.monitor).Reachable s.monitor := by
  refine h.invariant (P := fun s => (ReceiveMonitor.system cfg.monitor).Reachable s.monitor) ?_ ?_
  · rintro _ rfl
    exact .init rfl
  · intro s a s' ih hstep
    obtain hsame | ⟨b, hb⟩ := monitor_step hstep
    · exact hsame ▸ ih
    · exact .step ih hb

end Recording
end Lms
end AmigaDrivers
