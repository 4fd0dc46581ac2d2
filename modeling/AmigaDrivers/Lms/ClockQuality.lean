import AmigaDrivers.Lms.ScanDataParser

/-!
# The clock of the scanner

The calendar of `scan_time.cpp` and the tracker of `clock_quality.h`: device time in Unix
microseconds, and how it moves against the uptime of the device from one scan to the next.
A set of flags is a record of its bits; `ClockFlags.value` is the number the index file shows.

* `previousValid_observe`: only a plausible sample leaves a baseline behind.
-/

namespace AmigaDrivers
namespace Lms

/-! ## The calendar -/

/-- `DaysFromCivil`.  The month and the day are unsigned. -/
def daysFromCivil (y : Int) (m d : Nat) : Int :=
  let y := if m ≤ 2 then y - 1 else y
  let era := (if y ≥ 0 then y else y - 399).tdiv 400
  let yoe := (y - era * 400).toNat
  let doy := (153 * (if m > 2 then m - 3 else m + 9) + 2) / 5 + d - 1
  let doe := yoe * 365 + yoe / 4 - yoe / 100 + doy
  era * 146097 + (doe : Int) - 719468

/-- `DeviceTimeUnixUs`. -/
def deviceTimeUnixUs (ts : ScanTimestamp) : Int :=
  if ts.month < 1 ∨ ts.month > 12 ∨ ts.day < 1 ∨ ts.day > 31 ∨ ts.hour > 23 ∨ ts.minute > 59 ∨
      ts.second > 60 ∨ ts.microsecond > 999999 then
    0
  else
    let days := daysFromCivil ts.year ts.month ts.day
    let secs := days * 86400 + ts.hour * 3600 + ts.minute * 60 + ts.second
    secs * 1000000 + ts.microsecond

/-- `kEarliestPlausibleDeviceTimeUs`. -/
def earliestPlausibleDeviceTimeUs : Int := 1767225600 * 1000000

/-- `DeviceTimePlausible`. -/
def deviceTimePlausible (ts : ScanTimestamp) : Bool :=
  decide (deviceTimeUnixUs ts ≥ earliestPlausibleDeviceTimeUs)

/-! ## The tracker -/

/-- The bits of `ClockFlag`. -/
structure ClockFlags where
  assessed : Bool := false
  invalidTimestamp : Bool := false
  firstSample : Bool := false
  repeatedUtc : Bool := false
  backwardUtc : Bool := false
  stepExceeded : Bool := false
  ntpDisabled : Bool := false
  deviceNoNtp : Bool := false
  deviceNtpUnknown : Bool := false
  uptimeDiscontinuity : Bool := false
  absoluteTimeUnverified : Bool := false
  deriving DecidableEq, Repr

/-- The number the bits stand for. -/
def ClockFlags.value (f : ClockFlags) : Nat :=
  f.assessed.toNat * 0x001 + f.invalidTimestamp.toNat * 0x002 + f.firstSample.toNat * 0x004 +
    f.repeatedUtc.toNat * 0x008 + f.backwardUtc.toNat * 0x010 + f.stepExceeded.toNat * 0x020 +
    f.ntpDisabled.toNat * 0x040 + f.deviceNoNtp.toNat * 0x080 + f.deviceNtpUnknown.toNat * 0x100 +
    f.uptimeDiscontinuity.toNat * 0x200 + f.absoluteTimeUnverified.toNat * 0x400

/-- `ClockObservation`. -/
structure ClockObservation where
  flags : ClockFlags := {}
  stepUs : Int := 0
  utcDeltaUs : Int := 0
  uptimeDeltaUs : Nat := 0
  deriving DecidableEq, Repr

/-- `kUtcRegressionAnomalyThresholdUs`. -/
def utcRegressionAnomalyThresholdUs : Int := 1000

/-- `kClockStepAnomalyThresholdUs`. -/
def clockStepAnomalyThresholdUs : Int := 10000

/-- `IsTimeAnomaly`. -/
def isTimeAnomaly (o : ClockObservation) : Bool :=
  if !o.flags.assessed || (o.flags.firstSample || o.flags.invalidTimestamp || o.flags.ntpDisabled) then
    false
  else if o.utcDeltaUs < -utcRegressionAnomalyThresholdUs then
    true
  else if o.flags.uptimeDiscontinuity then
    false
  else
    decide (o.stepUs > clockStepAnomalyThresholdUs) || decide (o.stepUs < -clockStepAnomalyThresholdUs)

/-- `ClockQualityTracker`. -/
structure ClockQualityTracker where
  previousValid : Bool := false
  previousUtc : Int := 0
  previousUptime : Nat := 0
  deriving DecidableEq, Repr

namespace ClockQualityTracker

/-- The magnitude of a signed number. -/
def magnitude (n : Int) : Int := if n < 0 then -n else n

/-- What `Observe` says of a plausible sample behind a valid one. -/
def compare (t : ClockQualityTracker) (utc : Int) (uptime maxStepMs : Nat) : ClockObservation :=
  -- the uptime is an unsigned 32-bit number and wraps
  let du := (uptime + (2 ^ 32 - t.previousUptime % 2 ^ 32)) % 2 ^ 32
  let dt := utc - t.previousUtc
  let flags : ClockFlags :=
    { assessed := true
      absoluteTimeUnverified := true
      backwardUtc := decide (dt < 0)
      repeatedUtc := decide (dt = 0) }
  if du = 0 ∨ du > 0x7fffffff then
    { flags := { flags with uptimeDiscontinuity := true }, utcDeltaUs := dt, uptimeDeltaUs := du }
  else
    let stepUs := dt - du
    { flags := { flags with stepExceeded := decide (magnitude stepUs > (maxStepMs : Int) * 1000) }
      stepUs, utcDeltaUs := dt, uptimeDeltaUs := du }

/-- `Observe`. -/
def observe (t : ClockQualityTracker) (utc : Int) (isPlausible : Bool) (uptime maxStepMs : Nat) :
    ClockQualityTracker × ClockObservation :=
  if !isPlausible then
    ({ t with previousValid := false },
      { flags := { assessed := true, absoluteTimeUnverified := true, invalidTimestamp := true } })
  else
    ({ previousValid := true, previousUtc := utc, previousUptime := uptime },
      if !t.previousValid then
        { flags := { assessed := true, absoluteTimeUnverified := true, firstSample := true } }
      else
        t.compare utc uptime maxStepMs)

/-- Only a plausible sample leaves a baseline behind. -/
theorem previousValid_observe (t : ClockQualityTracker) (utc : Int) (isPlausible : Bool)
    (uptime maxStepMs : Nat) :
    (t.observe utc isPlausible uptime maxStepMs).1.previousValid = isPlausible := by
  cases isPlausible <;> rfl

end ClockQualityTracker
end Lms
end AmigaDrivers
