import Mathlib.Data.List.Basic

/-!
# The verdict on a recording

`lms4xxx::FirstDataLoss` and `lms4xxx::AssessRecording` judge a run by the counters of the
driver and of the recorder alone.

* `dataIntegrityFailed_iff`: which counters fail the data.
* `dataIntegrityFailed_of_firstDataLoss`: the online check never sees a loss that the final
  verdict leaves out.
-/

namespace AmigaDrivers
namespace Lms

/-- `DriverStatistics::NtpStatus`. -/
inductive NtpStatus
  | off
  | unverified
  | noTimestamp
  | unreachable
  | notLocked
  | noSignal
  | stale
  | clockAnomaly
  deriving DecidableEq, Repr

/-- `DriverStatistics`, and its `Snapshot`. -/
structure DriverStatistics where
  bytesReceived : Nat := 0
  framesReceived : Nat := 0
  /-- a legacy field: there is no intermediate receive queue -/
  framesDropped : Nat := 0
  crcErrors : Nat := 0
  framingErrors : Nat := 0
  framesParsed : Nat := 0
  nonScanFrames : Nat := 0
  parseErrors : Nat := 0
  counterGaps : Nat := 0
  unexpectedReplies : Nat := 0
  maxTimeStepUs : Int := 0
  utcBackwards : Nat := 0
  utcRepeated : Nat := 0
  clockStepEvents : Nat := 0
  timeAnomalyEvents : Nat := 0
  deviceNoNtpEvents : Nat := 0
  ntpServerReachable : Bool := false
  lastFrameTimeUs : Nat := 0
  lastTelegramCounter : Nat := 0
  lastScanCounter : Nat := 0
  ntpStatus : NtpStatus := .off
  deriving DecidableEq, Repr

/-- `Snapshot::ScanCandidateFrames`. -/
def DriverStatistics.scanCandidateFrames (s : DriverStatistics) : Nat :=
  if s.framesReceived > s.nonScanFrames then s.framesReceived - s.nonScanFrames else 0

/-- `RawRecorder::Statistics`. -/
structure RecorderStatistics where
  framesQueued : Nat := 0
  framesWritten : Nat := 0
  framesDropped : Nat := 0
  scansQueued : Nat := 0
  scansWritten : Nat := 0
  bytesWritten : Nat := 0
  filesCreated : Nat := 0
  deriving DecidableEq, Repr

/-- `FirstDataLoss`. -/
def firstDataLoss (drv : DriverStatistics) (wr : RecorderStatistics) : Option String :=
  if drv.framesDropped ≠ 0 then some "receive ring overflow"
  else if wr.framesDropped ≠ 0 then some "writer rejected or dropped telegrams"
  else if drv.crcErrors ≠ 0 then some "frame checksum error"
  else if drv.framingErrors ≠ 0 then some "framing error"
  else if drv.parseErrors ≠ 0 then some "parse error"
  else none

/-- `RecordingStatus`. -/
structure RecordingStatus where
  dataIntegrityFailed : Bool := false
  timeQualityDegraded : Bool := false
  failureReasons : List String := []
  deriving DecidableEq, Repr

namespace RecordingStatus

/-- `Failed`. -/
def hasFailed (s : RecordingStatus) : Bool := !s.failureReasons.isEmpty

/-- The lambda `data_error` of `AssessRecording`. -/
def dataError (name : String) (count : Nat) (result : RecordingStatus) : RecordingStatus :=
  if count = 0 then result
  else
    { result with
      dataIntegrityFailed := true
      failureReasons := result.failureReasons ++ [name ++ "=" ++ toString count] }

/-- The lambda `time_error`. -/
def timeError (name : String) (count : Nat) (result : RecordingStatus) : RecordingStatus :=
  if count = 0 then result
  else
    { result with
      timeQualityDegraded := true
      failureReasons := result.failureReasons ++ [name ++ "=" ++ toString count] }

/-- A reason to fail that concerns the data. -/
def dataFailure (failed : Bool) (reason : String) (result : RecordingStatus) : RecordingStatus :=
  if failed then
    { result with
      dataIntegrityFailed := true
      failureReasons := result.failureReasons ++ [reason] }
  else
    result

/-- A reason to fail that concerns neither the data nor the time. -/
def otherFailure (failed : Bool) (reason : String) (result : RecordingStatus) : RecordingStatus :=
  if failed then { result with failureReasons := result.failureReasons ++ [reason] } else result

end RecordingStatus

open RecordingStatus in
/-- `AssessRecording`. -/
def assessRecording (drv : DriverStatistics) (wr : RecorderStatistics)
    (driverFault writerFailed alreadyFailed : Bool) : RecordingStatus :=
  let result : RecordingStatus :=
    { timeQualityDegraded :=
        drv.ntpStatus = .noTimestamp || drv.ntpStatus = .notLocked || drv.ntpStatus = .noSignal ||
          drv.ntpStatus = .unreachable || drv.ntpStatus = .clockAnomaly }
  let result := dataError "dropped_ring" drv.framesDropped result
  let result := dataError "dropped_writer" wr.framesDropped result
  let result := dataError "counter_gaps" drv.counterGaps result
  let result := dataError "crc_errors" drv.crcErrors result
  let result := dataError "framing_errors" drv.framingErrors result
  let result := dataError "parse_errors" drv.parseErrors result
  let result := dataFailure writerFailed "writer failure (see RawRecorder error)" result
  let result :=
    dataFailure (drv.framesReceived ≠ wr.framesQueued || wr.framesQueued ≠ wr.framesWritten)
      ("telegram recording count mismatch: received=" ++ toString drv.framesReceived ++
        " queued=" ++ toString wr.framesQueued ++ " written=" ++ toString wr.framesWritten) result
  let result := timeError "device reported No NTP signal: ntp_device_loss" drv.deviceNoNtpEvents result
  let result := timeError "device time anomaly: time_anomaly_events" drv.timeAnomalyEvents result
  let result := timeError "device clock discontinuity: clock_step_events" drv.clockStepEvents result
  let result := otherFailure driverFault "driver fault (see preceding driver error)" result
  otherFailure (alreadyFailed && !result.hasFailed)
    "earlier run/shutdown failure (see preceding error)" result

/-! ## What fails the data -/

namespace RecordingStatus

@[simp] theorem dataError_failed (name : String) (count : Nat) (result : RecordingStatus) :
    (dataError name count result).dataIntegrityFailed =
      (result.dataIntegrityFailed || decide (count ≠ 0)) := by
  unfold dataError
  split
  · rename_i hzero
    simp [hzero]
  · rename_i hcount
    simp [hcount]

@[simp] theorem timeError_failed (name : String) (count : Nat) (result : RecordingStatus) :
    (timeError name count result).dataIntegrityFailed = result.dataIntegrityFailed := by
  unfold timeError
  split <;> rfl

@[simp] theorem dataFailure_failed (failed : Bool) (reason : String) (result : RecordingStatus) :
    (dataFailure failed reason result).dataIntegrityFailed =
      (result.dataIntegrityFailed || failed) := by
  cases failed
  · exact (Bool.or_false _).symm
  · exact (Bool.or_true _).symm

@[simp] theorem otherFailure_failed (failed : Bool) (reason : String) (result : RecordingStatus) :
    (otherFailure failed reason result).dataIntegrityFailed = result.dataIntegrityFailed := by
  cases failed <;> rfl

end RecordingStatus

/-- The data fails by a counter, by the latch of the writer or by a mismatch of the totals. -/
theorem dataIntegrityFailed_iff (drv : DriverStatistics) (wr : RecorderStatistics)
    (driverFault writerFailed alreadyFailed : Bool) :
    (assessRecording drv wr driverFault writerFailed alreadyFailed).dataIntegrityFailed = true ↔
      drv.framesDropped ≠ 0 ∨ wr.framesDropped ≠ 0 ∨ drv.counterGaps ≠ 0 ∨ drv.crcErrors ≠ 0 ∨
        drv.framingErrors ≠ 0 ∨ drv.parseErrors ≠ 0 ∨ writerFailed = true ∨
        drv.framesReceived ≠ wr.framesQueued ∨ wr.framesQueued ≠ wr.framesWritten := by
  simp only [assessRecording, RecordingStatus.otherFailure_failed,
    RecordingStatus.timeError_failed, RecordingStatus.dataFailure_failed,
    RecordingStatus.dataError_failed, Bool.or_eq_true, decide_eq_true_eq, Bool.false_eq_true,
    false_or, or_assoc]

/-- What the online check stops the run for fails the data in the end. -/
theorem dataIntegrityFailed_of_firstDataLoss {drv : DriverStatistics} {wr : RecorderStatistics}
    {reason : String} (h : firstDataLoss drv wr = some reason)
    (driverFault writerFailed alreadyFailed : Bool) :
    (assessRecording drv wr driverFault writerFailed alreadyFailed).dataIntegrityFailed = true := by
  rw [dataIntegrityFailed_iff]
  by_contra hnone
  simp only [not_or, not_not] at hnone
  obtain ⟨hring, hwriter, -, hcrc, hframing, hparse, -⟩ := hnone
  simp [firstDataLoss, hring, hwriter, hcrc, hframing, hparse] at h

end Lms
end AmigaDrivers
