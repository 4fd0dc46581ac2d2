import Mathlib.Algebra.BigOperators.Intervals
import AmigaDrivers.Lms.ReceiveMonitor

/-!
# The uptime counter of the scanner rolls over

`ClockQualityTracker::Observe` compares the UTC of two consecutive plausible scans with their
uptime, a counter of 32 bits that starts again every 71 minutes.

* `uptimeDelta_eq`: the difference of two readings is the true one, across a rollover too.
* `stepUs_succ`: the step between two plausible samples.
* `sum_stepUs`: the steps of a stretch of plausible samples add up.
* `shouldLog_of_anomaly`: an anomaly is always logged.
-/

namespace AmigaDrivers
namespace Lms

open Finset

/-! ## What is logged -/

/-- `kClockStepLogThresholdUs`. -/
def clockStepLogThresholdUs : Int := 1000

/-- `ShouldLogClockChange`. -/
def shouldLogClockChange (o : ClockObservation) : Bool :=
  if !o.flags.assessed || (o.flags.firstSample || o.flags.invalidTimestamp || o.flags.ntpDisabled) then
    false
  else if o.flags.backwardUtc then
    true
  else if o.flags.uptimeDiscontinuity then
    false
  else
    decide (o.stepUs ≥ clockStepLogThresholdUs) || decide (o.stepUs ≤ -clockStepLogThresholdUs)

namespace ClockQualityTracker

/-! ## Samples one after another -/

/-- The arguments of a call of `Observe`. -/
structure Sample where
  utc : Int
  isPlausible : Bool
  uptime : Nat
  maxStepMs : Nat
  deriving DecidableEq, Repr

/-- The call. -/
def observeSample (t : ClockQualityTracker) (s : Sample) : ClockQualityTracker × ClockObservation :=
  t.observe s.utc s.isPlausible s.uptime s.maxStepMs

/-- The tracker before sample `k`. -/
def before (t : ClockQualityTracker) (samples : Nat → Sample) : Nat → ClockQualityTracker
  | 0 => t
  | k + 1 => ((t.before samples k).observeSample (samples k)).1

/-- What `Observe` says of sample `k`. -/
def observation (t : ClockQualityTracker) (samples : Nat → Sample) (k : Nat) : ClockObservation :=
  ((t.before samples k).observeSample (samples k)).2

/-- Sample `k` is plausible, and its uptime is the true one as far as 32 bits show it. -/
structure Reports (samples : Nat → Sample) (trueUptime : Nat → Nat) (k : Nat) : Prop where
  isPlausible : (samples k).isPlausible = true
  uptime : (samples k).uptime = trueUptime k % 2 ^ 32

/-- Between sample `k` and the next one the true uptime grows, by less than half the range. -/
def Advances (trueUptime : Nat → Nat) (k : Nat) : Prop :=
  1 ≤ trueUptime (k + 1) - trueUptime k ∧ trueUptime (k + 1) - trueUptime k ≤ 2 ^ 31 - 1

/-! ## One step -/

/-- A plausible sample is the next baseline. -/
theorem before_succ_of_isPlausible (t : ClockQualityTracker) {samples : Nat → Sample} {k : Nat}
    (h : (samples k).isPlausible = true) :
    t.before samples (k + 1) = ⟨true, (samples k).utc, (samples k).uptime⟩ := by
  unfold before observeSample observe
  rw [h]
  rfl

/-- Behind a baseline a plausible sample is compared with it. -/
theorem observation_succ_of_isPlausible (t : ClockQualityTracker) {samples : Nat → Sample} {k : Nat}
    (h : (samples k).isPlausible = true) (h' : (samples (k + 1)).isPlausible = true) :
    t.observation samples (k + 1) =
      compare ⟨true, (samples k).utc, (samples k).uptime⟩ (samples (k + 1)).utc
        (samples (k + 1)).uptime (samples (k + 1)).maxStepMs := by
  unfold observation
  rw [before_succ_of_isPlausible t h]
  unfold observeSample observe
  rw [h']
  rfl

/-- **The modular difference is the true one.** -/
theorem uptimeDelta_eq {a b : Nat} (hpos : 1 ≤ b - a) (hlt : b - a ≤ 2 ^ 31 - 1) :
    (b % 2 ^ 32 + (2 ^ 32 - a % 2 ^ 32 % 2 ^ 32)) % 2 ^ 32 = b - a := by
  omega

/-- What is computed between two plausible samples. -/
theorem stepUs_succ (t : ClockQualityTracker) {samples : Nat → Sample} {trueUptime : Nat → Nat}
    {k : Nat} (h : Reports samples trueUptime k) (h' : Reports samples trueUptime (k + 1))
    (hadvance : Advances trueUptime k) :
    (t.observation samples (k + 1)).flags.firstSample = false ∧
      (t.observation samples (k + 1)).flags.uptimeDiscontinuity = false ∧
      (t.observation samples (k + 1)).stepUs =
        ((samples (k + 1)).utc - (samples k).utc) - ((trueUptime (k + 1) : Int) - trueUptime k) := by
  obtain ⟨hpos, hlt⟩ := hadvance
  have hdelta := uptimeDelta_eq hpos hlt
  have hsmall : ¬(trueUptime (k + 1) - trueUptime k = 0 ∨
      trueUptime (k + 1) - trueUptime k > 0x7fffffff) := by
    omega
  have hcast : ((trueUptime (k + 1) - trueUptime k : Nat) : Int) =
      (trueUptime (k + 1) : Int) - trueUptime k := by
    omega
  rw [observation_succ_of_isPlausible t h.isPlausible h'.isPlausible, h.uptime, h'.uptime]
  unfold compare
  dsimp only
  rw [hdelta, if_neg hsmall, hcast]
  exact ⟨rfl, rfl, rfl⟩

/-- **Steps telescope** over a stretch of plausible samples. -/
theorem sum_stepUs (t : ClockQualityTracker) {samples : Nat → Sample} {trueUptime : Nat → Nat}
    {i j : Nat} (hle : i ≤ j) (hreports : ∀ k, i ≤ k → k ≤ j → Reports samples trueUptime k)
    (hadvances : ∀ k, i ≤ k → k < j → Advances trueUptime k) :
    ∑ k ∈ Ico i j, (t.observation samples (k + 1)).stepUs =
      ((samples j).utc - (samples i).utc) - ((trueUptime j : Int) - trueUptime i) := by
  induction j, hle using Nat.le_induction with
  | base =>
    rw [Ico_self, sum_empty]
    omega
  | succ j hle ih =>
    have hstep := (stepUs_succ t (hreports j hle (Nat.le_succ j))
      (hreports (j + 1) (Nat.le_succ_of_le hle) (Nat.le_refl _))
      (hadvances j hle (Nat.lt_succ_self j))).2.2
    rw [sum_Ico_succ_top hle, hstep,
      ih (fun k hk hk' => hreports k hk (Nat.le_succ_of_le hk'))
        fun k hk hk' => hadvances k hk (Nat.lt_succ_of_lt hk')]
    omega

/-- Where the UTC of the samples is what `DeviceTimeUnixUs` returns, no difference overflows. -/
theorem deltas_fit (t : ClockQualityTracker) {utc : Int} (isPlausible : Bool)
    (uptime maxStepMs : Nat) (hprevious : -2 ^ 61 ≤ t.previousUtc ∧ t.previousUtc ≤ 2 ^ 61)
    (hutc : -2 ^ 61 ≤ utc ∧ utc ≤ 2 ^ 61) :
    let o := (t.observe utc isPlausible uptime maxStepMs).2
    (-2 ^ 63 < o.utcDeltaUs ∧ o.utcDeltaUs < 2 ^ 63) ∧ -2 ^ 63 < o.stepUs ∧ o.stepUs < 2 ^ 63 := by
  have hzero : ((-2 ^ 63 : Int) < 0 ∧ (0 : Int) < 2 ^ 63) ∧ (-2 ^ 63 : Int) < 0 ∧ (0 : Int) < 2 ^ 63 := by
    decide
  dsimp only
  unfold observe
  cases isPlausible with
  | false => exact hzero
  | true =>
    cases t.previousValid with
    | false => exact hzero
    | true =>
      unfold compare
      simp only [Bool.not_true, Bool.false_eq_true, if_false]
      split <;> dsimp only <;> omega

/-- Behind an invalid sample a plausible one is a first sample again. -/
theorem firstSample_of_invalid (t : ClockQualityTracker) {samples : Nat → Sample} {k : Nat}
    (h : (samples k).isPlausible = false) (h' : (samples (k + 1)).isPlausible = true) :
    (t.observation samples (k + 1)).flags.firstSample = true ∧
      (t.observation samples (k + 1)).stepUs = 0 := by
  have hprevious : (t.before samples (k + 1)).previousValid = false := by
    show ((t.before samples k).observeSample (samples k)).1.previousValid = false
    rw [observeSample, previousValid_observe, h]
  unfold observation observeSample observe
  rw [h', hprevious]
  exact ⟨rfl, rfl⟩

/-! ## Anomalies are logged -/

/-- A change that is an anomaly is large enough to be logged. -/
theorem shouldLog_observe (t : ClockQualityTracker) (utc : Int) (isPlausible : Bool)
    (uptime maxStepMs : Nat)
    (h : isTimeAnomaly (t.observe utc isPlausible uptime maxStepMs).2 = true) :
    shouldLogClockChange (t.observe utc isPlausible uptime maxStepMs).2 = true := by
  unfold observe at h ⊢
  cases isPlausible with
  | false => exact nomatch h
  | true =>
    cases hprevious : t.previousValid with
    | false =>
      rw [hprevious] at h
      exact nomatch h
    | true =>
      rw [hprevious] at h
      simp only [Bool.not_true, Bool.false_eq_true, if_false] at h ⊢
      unfold isTimeAnomaly at h
      unfold shouldLogClockChange
      unfold compare at h ⊢
      generalize (uptime + (2 ^ 32 - t.previousUptime % 2 ^ 32)) % 2 ^ 32 = du at h ⊢
      generalize utc - t.previousUtc = dt at h ⊢
      unfold utcRegressionAnomalyThresholdUs clockStepAnomalyThresholdUs at h
      unfold clockStepLogThresholdUs
      dsimp only at h ⊢
      by_cases hdu : du = 0 ∨ du > 0x7fffffff
      · rw [if_pos hdu] at h ⊢
        simp at h ⊢
        omega
      · rw [if_neg hdu] at h ⊢
        simp at h ⊢
        omega

end ClockQualityTracker

namespace ReceiveMonitor

/-- The flags of the device decide neither. -/
theorem verdicts_observeScan (cfg : MonitorConfig) (m : ReceiveMonitor) (scan : ScanData)
    (isPlausible : Bool) (clock : HostClock) :
    let observed := (m.timeGate.tracker.observe (deviceTimeUnixUs scan.timestamp) isPlausible
      scan.timeSinceStartupUs cfg.maxTimeStepMs).2
    isTimeAnomaly (m.observeScan cfg scan isPlausible clock).2 = isTimeAnomaly observed ∧
      shouldLogClockChange (m.observeScan cfg scan isPlausible clock).2 =
        shouldLogClockChange observed := by
  unfold observeScan
  dsimp only
  split_ifs <;> exact ⟨rfl, rfl⟩

/-- Whatever the monitor makes of a scan, an anomaly of its clock is logged. -/
theorem shouldLog_of_anomaly (cfg : MonitorConfig) (m : ReceiveMonitor) (scan : ScanData)
    (clock : HostClock) (h : isTimeAnomaly (m.assessScanTime cfg scan clock).2 = true) :
    shouldLogClockChange (m.assessScanTime cfg scan clock).2 = true := by
  unfold assessScanTime at h ⊢
  split at h
  · exact nomatch h
  · next hntp =>
    rw [if_neg hntp]
    dsimp only at h ⊢
    obtain ⟨hanomaly, hlog⟩ := verdicts_observeScan cfg m scan
      (scan.hasTimestamp && deviceTimePlausible scan.timestamp) clock
    rw [hanomaly] at h
    rw [hlog]
    exact ClockQualityTracker.shouldLog_observe _ _ _ _ _ h

end ReceiveMonitor

open ClockQualityTracker

/-- **The rollover of the uptime is exact.**  Over a stretch of plausible samples, whatever the
tracker has seen before, each step is the difference in UTC less the true difference in uptime,
and the steps add up; a sample that is not plausible makes the next one a first sample; and what
counts as an anomaly is logged, by the tracker and by the monitor that uses it. -/
theorem rollover_exact :
    (∀ (t : ClockQualityTracker) (samples : Nat → Sample) (trueUptime : Nat → Nat) (i j : Nat),
      i ≤ j → (∀ k, i ≤ k → k ≤ j → Reports samples trueUptime k) →
      (∀ k, i ≤ k → k < j → Advances trueUptime k) →
      (∀ k, i ≤ k → k < j →
        (t.observation samples (k + 1)).flags.firstSample = false ∧
          (t.observation samples (k + 1)).flags.uptimeDiscontinuity = false ∧
          (t.observation samples (k + 1)).stepUs = ((samples (k + 1)).utc - (samples k).utc) -
            ((trueUptime (k + 1) : Int) - trueUptime k)) ∧
      ∑ k ∈ Ico i j, (t.observation samples (k + 1)).stepUs =
        ((samples j).utc - (samples i).utc) - ((trueUptime j : Int) - trueUptime i)) ∧
    (∀ (t : ClockQualityTracker) (samples : Nat → Sample) (k : Nat),
      (samples k).isPlausible = false → (samples (k + 1)).isPlausible = true →
      (t.observation samples (k + 1)).flags.firstSample = true ∧
        (t.observation samples (k + 1)).stepUs = 0) ∧
    (∀ (t : ClockQualityTracker) (samples : Nat → Sample) (k : Nat),
      isTimeAnomaly (t.observation samples k) = true →
      shouldLogClockChange (t.observation samples k) = true) ∧
    (∀ (cfg : MonitorConfig) (m : ReceiveMonitor) (scan : ScanData) (clock : HostClock),
      isTimeAnomaly (m.assessScanTime cfg scan clock).2 = true →
      shouldLogClockChange (m.assessScanTime cfg scan clock).2 = true) := by
  refine ⟨?_, fun t samples k h h' => firstSample_of_invalid t h h',
    fun t samples k h => shouldLog_observe _ _ _ _ _ h, ReceiveMonitor.shouldLog_of_anomaly⟩
  intro t samples trueUptime i j hle hreports hadvances
  refine ⟨fun k hk hk' => ?_, sum_stepUs t hle hreports hadvances⟩
  exact stepUs_succ t (hreports k hk (Nat.le_of_lt hk'))
    (hreports (k + 1) (Nat.le_succ_of_le hk) hk') (hadvances k hk hk')

/-- A rollover between two scans, a clock that jumps, and a scan without a date behind them. -/
theorem rollover_exact_of_jump :
    let samples : Nat → Sample
      | 0 => ⟨1000, true, 4294967290, 50⟩
      | 1 => ⟨1100, true, 94, 50⟩
      | 2 => ⟨91200, true, 194, 50⟩
      | 3 => ⟨0, false, 294, 50⟩
      | _ => ⟨91400, true, 394, 50⟩
    (∑ k ∈ Ico 0 2, (({} : ClockQualityTracker).observation samples (k + 1)).stepUs = 90000) ∧
      (({} : ClockQualityTracker).observation samples 4).flags.firstSample = true ∧
      shouldLogClockChange (({} : ClockQualityTracker).observation samples 2) = true := by
  intro samples
  let trueUptime : Nat → Nat := fun k => 4294967290 + 100 * k
  have hreports : ∀ k, 0 ≤ k → k ≤ 2 → Reports samples trueUptime k := by
    intro k _ hk
    obtain rfl | rfl | rfl : k = 0 ∨ k = 1 ∨ k = 2 := by omega
    · exact ⟨rfl, by decide⟩
    · exact ⟨rfl, by decide⟩
    · exact ⟨rfl, by decide⟩
  have hadvances : ∀ k, 0 ≤ k → k < 2 → Advances trueUptime k := by
    intro k _ _
    show 1 ≤ 4294967290 + 100 * (k + 1) - (4294967290 + 100 * k) ∧
      4294967290 + 100 * (k + 1) - (4294967290 + 100 * k) ≤ 2 ^ 31 - 1
    omega
  have hsum := (rollover_exact.1 {} samples trueUptime 0 2 (by decide) hreports hadvances).2
  refine ⟨hsum.trans ?_, (rollover_exact.2.1 _ samples 3 rfl rfl).1,
    rollover_exact.2.2.1 _ samples 2 (by decide)⟩
  show (91200 - 1000 : Int) - ((4294967290 + 100 * 2 : Nat) - (4294967290 + 100 * 0 : Nat)) = 90000
  omega

end Lms
end AmigaDrivers
