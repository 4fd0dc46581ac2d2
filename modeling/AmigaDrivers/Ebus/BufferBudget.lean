import AmigaDrivers.Common.Double
import AmigaDrivers.Foundation.ExactArithmetic

/-!
# The buffers of a camera

`camera_driver.cpp`: `Allocate` divides the memory that a camera may use into buffers of the size
that the device reports, some for the SDK and the rest for the queue of the recording.

The counts are `std::uint64_t` and computed as the machine does, with a note whether an operation
wraps.  What the SDK answers is a parameter.

* `allocate_within_budget`: **no operation wraps or divides by zero, and the buffers fit the
  memory.**
-/

namespace AmigaDrivers
namespace Ebus

open ByteUtil MachineWord ExactArithmetic

/-- `CameraOptions`, as far as the buffers depend on it. -/
structure CameraOptions where
  sdkBuffers : UInt32 := 16
  queueFrames : UInt32 := 0
  maxBufferMemoryMb : UInt32 := 512
  retrieveTimeoutMs : UInt32 := 1000
  expectedRateHz : Double := 1
  stallBudgetS : Double := 2
  telemetryIntervalS : Double := 5
  statisticsIntervalS : Double := .finite (5 / 2)
  maxDurationS : Double := 0

/-- What the SDK answers. -/
structure Sdk where
  /-- `GetPayloadSize`. -/
  payloadSize : UInt32
  /-- `GetQueuedBufferMaximum`, zero without a maximum. -/
  queuedBufferMaximum : UInt32
  /-- Whether the buffer of a number is allocated. -/
  alloc : Nat → Bool
  /-- Whether the buffer of a number is queued. -/
  queueBuffer : Nat → Bool

/-- What `Allocate` throws. -/
inductive AllocateError
  | runtime (what : Text)
  | sdk (operation : Text)
  deriving DecidableEq

/-- The buffers, and what is noted about them. -/
structure Allocation where
  payloadCapacity : UInt32
  queueCapacity : UInt32
  sdkBufferCount : UInt64
  recordingPoolSlots : UInt64
  payloadBufferBytes : UInt64
  estimatedQueueStallSeconds : Double
  queueWasClamped : Bool
  sdkBuffersWereClamped : Bool

variable {options : CameraOptions}

/-! ## `Allocate` -/

/-- `static_cast<std::uint64_t>` of a double, which is defined from zero to 2^64. -/
def toWord (v : Double) : Noted AllocateError UInt64 :=
  (.ok (UInt64.ofNat v.toNat), decide (0 ≤ v ∧ v < .finite (2 ^ 64)))

/-- The quotient of two doubles. -/
def quotient (a b : Double) : Noted AllocateError Double := (.ok (a.div b), decide (b ≠ 0))

theorem meets_quotient {b : Double} (h : b ≠ 0) (a : Double) :
    Meets (quotient a b) fun _ => True := ⟨decide_eq_true h, fun _ _ => trivial⟩

/-- The options that are refused. -/
def invalidOptions (options : CameraOptions) : Bool :=
  !options.expectedRateHz.isFinite || options.expectedRateHz ≤ 0 ||
  !options.stallBudgetS.isFinite || options.stallBudgetS < 0 ||
  !options.maxDurationS.isFinite || options.maxDurationS < 0 ||
  !options.telemetryIntervalS.isFinite || options.telemetryIntervalS ≤ 0 ||
  !options.statisticsIntervalS.isFinite || options.statisticsIntervalS < 0 ||
  options.retrieveTimeoutMs == 0 || 10000 < options.retrieveTimeoutMs

/-- The length of the queue that is wanted. -/
def wantedQueue (options : CameraOptions) : Noted AllocateError UInt64 := do
  let desired := (options.expectedRateHz.mul options.stallBudgetS).ceil
  raise (¬desired.isFinite ∨ 4294967295 < desired)
    (.runtime (ascii "configured queue stall budget is too large"))
  if options.queueFrames ≠ 0 then pure options.queueFrames.toUInt64
  else do
    let frames ← toWord desired
    pure (max 2 frames)

/-- The number of SDK buffers. -/
def sdkCount (options : CameraOptions) (sdkMax : UInt32) (slots : UInt64) :
    Noted AllocateError UInt64 := do
  let wanted := max 4 options.sdkBuffers.toUInt64
  let count := if sdkMax ≠ 0 then min wanted sdkMax.toUInt64 else wanted
  let room ← sub slots 4
  pure (min count room)

/-- `Allocate`. -/
def allocate (options : CameraOptions) (sdk : Sdk) : Noted AllocateError Allocation := do
  let payloadCapacity := sdk.payloadSize
  raise (payloadCapacity = 0) (.runtime (ascii "camera reports zero PayloadSize"))
  raise (invalidOptions options = true)
    (.runtime (ascii "invalid rate, duration, telemetry or retrieve timeout"))
  let kib ← mul options.maxBufferMemoryMb.toUInt64 1024
  let memory ← mul kib 1024
  let slots ← div memory payloadCapacity.toUInt64
  -- four SDK buffers and two queued images plus producer and writer ownership
  raise (slots < 8)
    (.runtime (ascii "buffer memory limit cannot fit four SDK and four application buffers"))
  let sdkCount ← sdkCount options sdk.queuedBufferMaximum slots
  raise (sdkCount < 4) (.runtime (ascii "SDK queue maximum is below four buffers"))
  let wantedQueue ← wantedQueue options
  raise (wantedQueue < 2) (.runtime (ascii "recording queue needs at least two buffers"))
  let rest ← sub slots sdkCount
  let room ← sub rest 2
  let queueCapacity ← narrow (min wantedQueue room)
  let poolSlots ← add queueCapacity.toUInt64 2
  raise (¬∀ i < sdkCount.toNat, sdk.alloc i = true) (.sdk (ascii "PvBuffer::Alloc"))
  raise (¬∀ i < sdkCount.toNat, sdk.queueBuffer i = true) (.sdk (ascii "initial QueueBuffer"))
  let queued ← add sdkCount queueCapacity.toUInt64
  let images ← add queued 2
  let bytes ← mul images payloadCapacity.toUInt64
  let stall ← quotient (.ofNat queueCapacity.toNat) options.expectedRateHz
  pure
    { payloadCapacity, queueCapacity
      sdkBufferCount := sdkCount
      recordingPoolSlots := poolSlots
      payloadBufferBytes := bytes
      estimatedQueueStallSeconds := stall
      queueWasClamped := queueCapacity.toUInt64 != wantedQueue
      sdkBuffersWereClamped := sdkCount != options.sdkBuffers.toUInt64 }

/-! ## The parts -/

/-- The SDK gets at least four buffers or fewer than four, and leaves four of the slots. -/
theorem meets_sdkCount {slots : UInt64} {n : Nat} (hslots : Is slots n) (hn : 8 ≤ n)
    (sdkMax : UInt32) :
    Meets (sdkCount options sdkMax slots) fun count => ∃ m, Is count m ∧ m ≤ n - 4 := by
  unfold sdkCount
  have hsub := meets_sub (ε := AllocateError) hslots (is_ofNat (n := 4) (by decide)) (by omega)
  refine hsub.bind fun room hroom => meets_pure ?_
  obtain ⟨m, hm⟩ : ∃ m, Is (if sdkMax ≠ 0 then min (max 4 options.sdkBuffers.toUInt64)
    sdkMax.toUInt64 else max 4 options.sdkBuffers.toUInt64) m := ⟨_, rfl⟩
  exact ⟨_, hm.min hroom, Nat.min_le_right m _⟩

theorem zero_eq : (0 : Double) = .finite 0 := by
  have h := Double.ofNat_eq (n := 0) (by decide)
  exact_mod_cast h

theorem largest_eq : (4294967295 : Double) = .finite 4294967295 := by
  have h := Double.ofNat_eq (n := 4294967295) (by decide)
  exact_mod_cast h

/-- The rate is positive and the stall is not negative. -/
theorem finite_of_valid (h : ¬invalidOptions options = true) :
    ∃ rate stall : ℚ, options.expectedRateHz = .finite rate ∧ 0 < rate ∧
      options.stallBudgetS = .finite stall ∧ 0 ≤ stall := by
  unfold invalidOptions at h
  simp only [Bool.or_eq_true, not_or, Bool.not_eq_true', Bool.not_eq_false, decide_eq_true_eq,
    zero_eq] at h
  obtain ⟨⟨⟨⟨⟨⟨⟨⟨⟨⟨⟨hrate, hpos⟩, hstall⟩, hnonneg⟩, -⟩, -⟩, -⟩, -⟩, -⟩, -⟩, -⟩, -⟩ := h
  cases hr : options.expectedRateHz with
  | nan => exact nomatch hr ▸ hrate
  | infinite s => exact nomatch hr ▸ hrate
  | finite rate =>
    cases hs : options.stallBudgetS with
    | nan => exact nomatch hs ▸ hstall
    | infinite s => exact nomatch hs ▸ hstall
    | finite stall =>
      rw [hr, Double.finite_le, not_le] at hpos
      rw [hs, Double.finite_lt, not_lt] at hnonneg
      exact ⟨rate, stall, rfl, hpos, rfl, hnonneg⟩

/-- The conversion of a number of 32 bits is defined. -/
theorem meets_toWord {d : ℚ} (hnonneg : 0 ≤ d) (hd : d ≤ 4294967295) :
    Meets (toWord (.finite d)) fun frames => ∃ n, Is frames n ∧ n < 2 ^ 32 := by
  have hfloor : d.floor.toNat < 2 ^ 32 := by
    have hle : d.floor ≤ 4294967295 := by
      have hbelow := Rat.floor_le d
      exact_mod_cast hbelow.trans hd
    omega
  refine ⟨decide_eq_true ⟨?_, ?_⟩, fun _ heq => ?_⟩
  · rw [zero_eq]
    exact Double.finite_le.mpr hnonneg
  · exact Double.finite_lt.mpr (hd.trans_lt (by norm_num))
  · obtain rfl := Except.ok.inj heq
    exact ⟨_, is_ofNat (Nat.lt_trans hfloor (by decide)), hfloor⟩

/-- The wanted length is a number of 32 bits. -/
theorem meets_wantedQueue (h : ¬invalidOptions options = true) :
    Meets (wantedQueue options) fun frames => ∃ n, Is frames n ∧ n < 2 ^ 32 := by
  obtain ⟨rate, stall, hrate, hpos, hstall, hnonneg⟩ := finite_of_valid h
  unfold wantedQueue
  rw [hrate, hstall]
  refine (meets_raise _ _).bind fun _ hdesired => ?_
  split_ifs with hqueue
  · exact meets_pure ⟨_, is_toUInt64 options.queueFrames, options.queueFrames.toNat_lt⟩
  · cases hproduct : (Double.finite rate).mul (.finite stall) with
    | nan =>
      rw [hproduct] at hdesired
      exact absurd (.inl nofun) hdesired
    | infinite s =>
      rw [hproduct] at hdesired
      exact absurd (.inl nofun) hdesired
    | finite product =>
      rw [hproduct] at hdesired
      have hproduct := Double.mul_of_nonneg hpos.le hnonneg hproduct
      have hceil := Double.ceil_of_nonneg hproduct rfl
      have hsmall := fun hlarge => hdesired (.inr hlarge)
      rw [largest_eq] at hsmall
      refine (meets_toWord hceil ?_).bind fun frames hframes => meets_pure ?_
      · exact not_lt.mp fun hlarge => hsmall (Double.finite_lt.mpr hlarge)
      · obtain ⟨n, hn, hlt⟩ := hframes
        refine ⟨_, (is_ofNat (n := 2) (by decide)).max hn, ?_⟩
        omega

/-- **No operation wraps or divides by zero, and where buffers are chosen, there are at least four
for the SDK and two for the queue, and all of them fit the memory.** -/
theorem allocate_within_budget (options : CameraOptions) (sdk : Sdk) :
    (allocate options sdk).2 = true ∧
      ∀ chosen, (allocate options sdk).1 = .ok chosen →
        4 ≤ chosen.sdkBufferCount.toNat ∧ 2 ≤ chosen.queueCapacity.toNat ∧
        (chosen.sdkBufferCount.toNat + chosen.queueCapacity.toNat + 2) * sdk.payloadSize.toNat ≤
          options.maxBufferMemoryMb.toNat * 2 ^ 20 := by
  show Meets (allocate options sdk) _
  unfold allocate
  have hmb := options.maxBufferMemoryMb.toNat_lt
  have hpayloadLt := sdk.payloadSize.toNat_lt
  have h1024 : Is 1024 1024 := is_ofNat (by decide)
  have h2 : Is 2 2 := is_ofNat (by decide)
  have h4 : Is 4 4 := is_ofNat (by decide)
  have h8 : Is 8 8 := is_ofNat (by decide)
  refine (meets_raise _ _).bind fun _ hpayload => (meets_raise _ _).bind fun _ hvalid => ?_
  have hpos : 0 < sdk.payloadSize.toNat := by
    rw [Nat.pos_iff_ne_zero]
    exact fun hzero => hpayload (UInt32.toNat_inj.mp hzero)
  refine (meets_mul (is_toUInt64 _) h1024 (by omega)).bind fun kib hkib => ?_
  refine (meets_mul hkib h1024 (by omega)).bind fun memory hmemory => ?_
  refine (meets_div hmemory (is_toUInt64 _) hpos).bind fun slots hslots => ?_
  have hfit := Nat.div_mul_le_self (options.maxBufferMemoryMb.toNat * 1024 * 1024)
    sdk.payloadSize.toNat
  obtain ⟨n, hn⟩ : ∃ n, options.maxBufferMemoryMb.toNat * 1024 * 1024 /
    sdk.payloadSize.toNat = n := ⟨_, rfl⟩
  rw [hn] at hslots hfit
  have hslotsLt := hslots.lt
  refine (meets_raise _ _).bind fun _ hroom => ?_
  rw [hslots.lt_iff h8, Nat.not_lt] at hroom
  refine (meets_sdkCount hslots hroom _).bind fun count ⟨m, hm, hmn⟩ => ?_
  refine (meets_raise _ _).bind fun _ hfour => ?_
  rw [hm.lt_iff h4, Nat.not_lt] at hfour
  refine (meets_wantedQueue hvalid).bind fun wanted ⟨k, hk, hklt⟩ => ?_
  refine (meets_raise _ _).bind fun _ htwo => ?_
  rw [hk.lt_iff h2, Nat.not_lt] at htwo
  refine (meets_sub hslots hm (by omega)).bind fun rest hrest => ?_
  refine (meets_sub hrest h2 (by omega)).bind fun room hroom => ?_
  refine (meets_narrow (hk.min hroom) (by omega)).bind fun capacity hcapacity => ?_
  have hqueue : Is capacity.toUInt64 (min k (n - m - 2)) := hcapacity ▸ is_toUInt64 capacity
  refine (meets_add hqueue h2 (by omega)).bind fun pool _ => ?_
  refine (meets_raise _ _).bind fun _ _ => (meets_raise _ _).bind fun _ _ => ?_
  refine (meets_add hm hqueue (by omega)).bind fun queued hqueued => ?_
  refine (meets_add hqueued h2 (by omega)).bind fun images himages => ?_
  have htotal : (m + min k (n - m - 2) + 2) * sdk.payloadSize.toNat ≤
      options.maxBufferMemoryMb.toNat * 1024 * 1024 :=
    Nat.le_trans (Nat.mul_le_mul_right _ (by omega)) hfit
  refine (meets_mul himages (is_toUInt64 _) (by omega)).bind fun bytes _ => ?_
  refine (meets_quotient ?_ _).bind fun stall _ => meets_pure ⟨?_, ?_, ?_⟩
  · obtain ⟨rate, -, hrate, hrateLt, -⟩ := finite_of_valid hvalid
    rw [hrate, zero_eq]
    exact fun hzero => hrateLt.ne' (Double.finite.inj hzero)
  · exact Nat.le_trans hfour (Nat.le_of_eq (Eq.symm hm))
  · rw [hcapacity]
    omega
  · show (count.toNat + capacity.toNat + 2) * sdk.payloadSize.toNat ≤ _
    rw [show count.toNat = m from hm, hcapacity]
    exact Nat.le_trans htotal (Nat.le_of_eq (Nat.mul_assoc _ _ _))

end Ebus
end AmigaDrivers
