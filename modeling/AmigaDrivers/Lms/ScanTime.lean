import Mathlib.Tactic.IntervalCases
import AmigaDrivers.Foundation.CivilDate
import AmigaDrivers.Lms.ClockQuality

/-!
# The calendar of the scanner

`scan_time.cpp` turns the date a scanner reports into Unix time without asking the host for a
calendar.  `DaysFromCivil` counts in eras of 400 years that start in March.

* `daysFromCivil_next`: the day after has the next number.
* `daysFromCivilUnsigned_eq`: no unsigned intermediate value wraps.
* `device_time_exact`: a real time stamp from 1970 on becomes its exact Unix time, and a later one
  a larger number.
-/

namespace AmigaDrivers
namespace Lms

/-! ## `DaysFromCivil` -/

/-- `DaysFromCivil`, its unsigned numbers with 32 bits. -/
def daysFromCivilUnsigned (y : Int) (m d : BitVec 32) : Int :=
  let y := if m ≤ 2 then y - 1 else y
  let era := (if y ≥ 0 then y else y - 399).tdiv 400
  let yoe := BitVec.ofInt 32 (y - era * 400)
  let doy := (153 * (m + if m > 2 then -3 else 9) + 2) / 5 + d - 1
  let doe := yoe * 365 + yoe / 4 - yoe / 100 + doy
  era * 146097 + (doe.toNat : Int) - 719468

/-- The era is the year divided by 400, rounded down. -/
theorem era_eq (y : Int) : (if y ≥ 0 then y else y - 399).tdiv 400 = y / 400 := by
  split
  · next h => exact Int.tdiv_eq_ediv_of_nonneg h
  · next h =>
    have hneg : (y - 399).tdiv 400 = -((399 - y).tdiv 400) := by
      rw [← Int.neg_tdiv]
      congr 1
      omega
    rw [hneg, Int.tdiv_eq_ediv_of_nonneg (by omega)]
    omega

/-- The count without eras. -/
theorem daysFromCivil_eq {y : Int} {m d : Nat} (hd : 1 ≤ d) :
    daysFromCivil y m d =
      let s := if m ≤ 2 then y - 1 else y
      let p := if m > 2 then m - 3 else m + 9
      365 * s + s / 4 - s / 100 + s / 400 + (((153 * p + 2) / 5 : Nat) : Int) + d - 719469 := by
  unfold daysFromCivil
  simp only [era_eq]
  generalize (if m ≤ 2 then y - 1 else y) = s
  generalize (if m > 2 then m - 3 else m + 9) = p
  omega

/-- The next month starts behind the days of this one. -/
theorem daysFromCivil_first (y : Int) {m : Nat} (hm : 1 ≤ m) (hm' : m < 12) :
    daysFromCivil y (m + 1) 1 = daysFromCivil y m 1 + daysInMonth y m := by
  rw [daysFromCivil_eq (Nat.le_refl 1), daysFromCivil_eq (Nat.le_refl 1)]
  by_cases hfebruary : m = 2
  · subst hfebruary
    have hdays : daysInMonth y 2 = if IsLeapYear y then 29 else 28 := rfl
    rw [hdays]
    by_cases hleap : IsLeapYear y
    · rw [if_pos hleap]
      unfold IsLeapYear at hleap
      simp
      omega
    · rw [if_neg hleap]
      unfold IsLeapYear at hleap
      simp
      omega
  · unfold daysInMonth
    rw [if_neg hfebruary]
    interval_cases m <;> simp at hfebruary ⊢ <;> omega

/-- The next year starts behind December. -/
theorem daysFromCivil_january (y : Int) :
    daysFromCivil (y + 1) 1 1 = daysFromCivil y 12 1 + daysInMonth y 12 := by
  rw [daysFromCivil_eq (Nat.le_refl 1), daysFromCivil_eq (Nat.le_refl 1)]
  unfold daysInMonth
  simp
  omega

theorem daysFromCivil_day (y : Int) (m : Nat) {d : Nat} (hd : 1 ≤ d) :
    daysFromCivil y m d = daysFromCivil y m 1 + (d - 1 : Nat) := by
  rw [daysFromCivil_eq hd, daysFromCivil_eq (Nat.le_refl 1)]
  dsimp only
  omega

/-- The number of a date. -/
def dayNumber (date : CivilDate) : Int := daysFromCivil date.year date.month date.day

/-- **Consecutive dates have consecutive numbers.** -/
theorem daysFromCivil_next (date : CivilDate) : dayNumber date.next = dayNumber date + 1 := by
  have hday := date.one_le_day
  have hmonth := date.one_le_month
  have hdays := one_le_daysInMonth date.year date.month
  unfold dayNumber
  rw [daysFromCivil_day date.year date.month hday]
  obtain ⟨-, hyear', hmonth', hday'⟩ | ⟨hlast, hinside, hyear', hmonth', hday'⟩ |
    ⟨hlast, hdecember, hyear', hmonth', hday'⟩ := date.next_cases
  · rw [hyear', hmonth', hday', daysFromCivil_day _ _ (Nat.succ_pos _)]
    omega
  · rw [hyear', hmonth', hday', daysFromCivil_first _ hmonth hinside, hlast]
    omega
  · rw [hyear', hmonth', hday', daysFromCivil_january, hlast, hdecember]
    rw [hdecember] at hdays
    omega

theorem daysInMonth_le (y : Int) (m : Nat) : daysInMonth y m ≤ 31 := by
  unfold daysInMonth
  split_ifs <;> decide

/-- The day of the year, counted from March. -/
theorem toNat_doy {m d : Nat} (hm : m ≤ 12) (hd : 1 ≤ d) (hd' : d ≤ 31) :
    ((153 * ((m : BitVec 32) + if (m : BitVec 32) > 2 then -3 else 9) + 2) / 5 + d - 1).toNat =
      (153 * (if m > 2 then m - 3 else m + 9) + 2) / 5 + d - 1 := by
  have hgt : ((m : BitVec 32) > 2) ↔ m > 2 := by
    rw [gt_iff_lt, BitVec.lt_def]
    simp
    omega
  simp only [hgt]
  have hshift : ((m : BitVec 32) + if m > 2 then -3 else 9).toNat =
      if m > 2 then m - 3 else m + 9 := by
    have hmonth : (m : BitVec 32).toNat = m % 2 ^ 32 := rfl
    have hback : (-3 : BitVec 32).toNat = 4294967293 := by decide
    have hon : (9 : BitVec 32).toNat = 9 := rfl
    split
    · rw [BitVec.toNat_add, hmonth, hback]
      omega
    · rw [BitVec.toNat_add, hmonth, hon]
      omega
  have hshift' : (if m > 2 then m - 3 else m + 9) ≤ 11 := by
    split <;> omega
  generalize (if m > 2 then m - 3 else m + 9) = p at hshift hshift' ⊢
  generalize (m : BitVec 32) + (if m > 2 then -3 else 9) = month at hshift ⊢
  have hnum : (153 * month + 2).toNat = 153 * p + 2 := by
    have hfactor : (153 : BitVec 32).toNat = 153 := rfl
    have hround : (2 : BitVec 32).toNat = 2 := rfl
    simp only [BitVec.toNat_add, BitVec.toNat_mul, hshift, hfactor, hround]
    omega
  have hdiv : ((153 * month + 2) / 5).toNat = (153 * p + 2) / 5 := by
    have hdivisor : (5 : BitVec 32).toNat = 5 := rfl
    rw [BitVec.toNat_udiv, hnum, hdivisor]
  generalize (153 * month + 2) / 5 = quotient at hdiv ⊢
  have hone : (1 : BitVec 32).toNat = 1 := rfl
  simp only [BitVec.toNat_sub, BitVec.toNat_add, BitVec.toNat_ofNat, BitVec.natCast_eq_ofNat, hdiv,
    hone]
  omega

/-- The day of the era. -/
theorem toNat_doe {yoe doy : BitVec 32} (hyoe : yoe.toNat < 400) (hdoy : doy.toNat < 400) :
    (yoe * 365 + yoe / 4 - yoe / 100 + doy).toNat =
      yoe.toNat * 365 + yoe.toNat / 4 - yoe.toNat / 100 + doy.toNat := by
  have hmul : (yoe * 365).toNat = yoe.toNat * 365 := by
    have hyear : (365 : BitVec 32).toNat = 365 := rfl
    simp only [BitVec.toNat_mul, hyear]
    omega
  have hfour : (yoe / 4).toNat = yoe.toNat / 4 := by
    have hdivisor : (4 : BitVec 32).toNat = 4 := rfl
    rw [BitVec.toNat_udiv, hdivisor]
  have hhundred : (yoe / 100).toNat = yoe.toNat / 100 := by
    have hdivisor : (100 : BitVec 32).toNat = 100 := rfl
    rw [BitVec.toNat_udiv, hdivisor]
  generalize yoe * 365 = a at hmul ⊢
  generalize yoe / 4 = b at hfour ⊢
  generalize yoe / 100 = c at hhundred ⊢
  simp only [BitVec.toNat_sub, BitVec.toNat_add, hmul, hfour, hhundred]
  omega

/-- No unsigned number wraps, on a date or on a day behind the end of its month. -/
theorem daysFromCivilUnsigned_eq_of_le (y : Int) {m d : Nat} (hm : m ≤ 12) (hd : 1 ≤ d)
    (hd' : d ≤ 31) : daysFromCivilUnsigned y m d = daysFromCivil y m d := by
  have hshift : (if m > 2 then m - 3 else m + 9) ≤ 11 := by
    split <;> omega
  have hdoy := toNat_doy hm hd hd'
  have hle : ((m : BitVec 32) ≤ 2) ↔ m ≤ 2 := by
    rw [BitVec.le_def]
    simp
    omega
  unfold daysFromCivilUnsigned daysFromCivil
  simp only [era_eq, hle]
  generalize (if m ≤ 2 then y - 1 else y) = s
  have hyoe : (BitVec.ofInt 32 (s - s / 400 * 400)).toNat = (s - s / 400 * 400).toNat := by
    rw [BitVec.toNat_ofInt]
    omega
  rw [toNat_doe (by omega) (by omega), hyoe, hdoy]

/-- **No unsigned number wraps** on a date. -/
theorem daysFromCivilUnsigned_eq (date : CivilDate) :
    daysFromCivilUnsigned date.year date.month date.day = dayNumber date :=
  daysFromCivilUnsigned_eq_of_le date.year date.month_le date.one_le_day
    (date.day_le.trans (daysInMonth_le date.year date.month))

/-! ## `DeviceTimeUnixUs` -/

theorem one_le_twelve : 1 ≤ 12 := by decide

/-- The day Unix time starts on. -/
def unixEpoch : CivilDate where
  year := 1970
  month := 1
  day := 1
  one_le_month := Nat.one_pos
  month_le := one_le_twelve
  one_le_day := Nat.one_pos
  day_le := by decide

/-- Whatever the fields are, with a year of 16 bits the result takes 62 bits. -/
theorem deviceTimeUnixUs_mem (ts : ScanTimestamp) (hyear : ts.year < 2 ^ 16) :
    -2 ^ 61 ≤ deviceTimeUnixUs ts ∧ deviceTimeUnixUs ts ≤ 2 ^ 61 := by
  unfold deviceTimeUnixUs
  split
  · decide
  · next hvalid =>
    have hd : 1 ≤ ts.day := by omega
    have hshift : (if ts.month > 2 then ts.month - 3 else ts.month + 9) ≤ 11 := by
      split <;> omega
    have hs : (if ts.month ≤ 2 then (ts.year : Int) - 1 else ts.year) ≤ ts.year ∧
        (ts.year : Int) - 1 ≤ (if ts.month ≤ 2 then (ts.year : Int) - 1 else ts.year) := by
      split <;> omega
    have hdays : daysFromCivil ts.year ts.month ts.day < 366 * 2 ^ 16 ∧
        -2 ^ 20 < daysFromCivil ts.year ts.month ts.day := by
      rw [daysFromCivil_eq hd]
      dsimp only
      omega
    dsimp only
    omega

namespace ScanTimestamp

/-- The fields denote a time of a real date, without leap seconds. -/
structure Real (ts : ScanTimestamp) : Prop where
  since : 1970 ≤ ts.year
  one_le_month : 1 ≤ ts.month
  month_le : ts.month ≤ 12
  one_le_day : 1 ≤ ts.day
  day_le : ts.day ≤ daysInMonth ts.year ts.month
  hour : ts.hour < 24
  minute : ts.minute < 60
  second : ts.second < 60
  microsecond : ts.microsecond < 1000000

/-- The date of a time stamp. -/
def Real.date {ts : ScanTimestamp} (h : ts.Real) : CivilDate where
  year := ts.year
  month := ts.month
  day := ts.day
  one_le_month := h.one_le_month
  month_le := h.month_le
  one_le_day := h.one_le_day
  day_le := h.day_le

/-- The microseconds since midnight. -/
def clockUs (ts : ScanTimestamp) : Nat :=
  ((ts.hour * 60 + ts.minute) * 60 + ts.second) * 1000000 + ts.microsecond

/-- The fields, from the year on. -/
def fields (ts : ScanTimestamp) : List Nat :=
  [ts.year, ts.month, ts.day, ts.hour, ts.minute, ts.second, ts.microsecond]

theorem Real.clockUs_lt {ts : ScanTimestamp} (h : ts.Real) : ts.clockUs < 86400 * 1000000 := by
  have hhour := h.hour
  have hminute := h.minute
  have hsecond := h.second
  have hmicrosecond := h.microsecond
  unfold clockUs
  omega

/-- A real time is the days up to its date and the microseconds since midnight. -/
theorem Real.deviceTimeUnixUs_eq {ts : ScanTimestamp} (h : ts.Real) :
    deviceTimeUnixUs ts = dayNumber h.date * (86400 * 1000000) + ts.clockUs := by
  obtain ⟨-, hm, hm', hd, hd', hhour, hminute, hsecond, hmicrosecond⟩ := id h
  have hd31 := hd'.trans (daysInMonth_le ts.year ts.month)
  have hvalid : ¬(ts.month < 1 ∨ ts.month > 12 ∨ ts.day < 1 ∨ ts.day > 31 ∨ ts.hour > 23 ∨
      ts.minute > 59 ∨ ts.second > 60 ∨ ts.microsecond > 999999) := by
    omega
  unfold deviceTimeUnixUs
  rw [if_neg hvalid]
  show (daysFromCivil ts.year ts.month ts.day * 86400 + ts.hour * 3600 + ts.minute * 60 +
    ts.second) * 1000000 + (ts.microsecond : Int) =
      daysFromCivil ts.year ts.month ts.day * (86400 * 1000000) + (ts.clockUs : Int)
  unfold clockUs
  omega

/-- A date from 1970 on has a number that is not negative. -/
theorem Real.dayNumber_nonneg {ts : ScanTimestamp} (h : ts.Real) : 0 ≤ dayNumber h.date := by
  have hzero : dayNumber unixEpoch = 0 := by decide
  obtain hlt | heq | hgt := unixEpoch.before_or_eq_or_before h.date
  · have := CivilDate.lt_of_before daysFromCivil_next hlt
    omega
  · rw [← heq, hzero]
  · have hsince : (1970 : Int) ≤ h.date.year := Int.ofNat_le.mpr h.since
    have hm := h.one_le_month
    have hd := h.one_le_day
    obtain hyear | ⟨-, hmonth | ⟨-, hday⟩⟩ := hgt
    · exact absurd hyear (Int.not_lt.mpr hsince)
    · exact absurd hmonth (Nat.not_lt.mpr hm)
    · exact absurd hday (Nat.not_lt.mpr hd)

/-- Later fields are a later date, or a later time of the same date. -/
theorem Real.before_or_clockUs_lt {ts ts' : ScanTimestamp} (h : ts.Real) (h' : ts'.Real)
    (hlt : ts.fields < ts'.fields) :
    h.date.Before h'.date ∨ h.date = h'.date ∧ ts.clockUs < ts'.clockUs := by
  obtain ⟨-, -, -, -, -, -, hminute, hsecond, hmicrosecond⟩ := h
  obtain ⟨-, -, -, -, -, -, hminute', hsecond', hmicrosecond'⟩ := h'
  simp only [fields, List.cons_lt_cons_iff, List.not_lt_nil, and_false, or_false] at hlt
  unfold CivilDate.Before
  rw [CivilDate.ext_iff]
  show (((ts.year : Int) < ts'.year) ∨ (ts.year : Int) = ts'.year ∧
      (ts.month < ts'.month ∨ ts.month = ts'.month ∧ ts.day < ts'.day)) ∨
    ((ts.year : Int) = ts'.year ∧ ts.month = ts'.month ∧ ts.day = ts'.day) ∧ _
  unfold clockUs
  omega

end ScanTimestamp

/-- **Device time is exact Unix time.**  `DaysFromCivil` counts the days from the first of January
1970, the day after any real date having the next number, and none of its unsigned numbers wraps;
so a real time stamp from 1970 on becomes the days up to its date and the time of that day in
microseconds, which fit into 64 bits, and a later one a larger number. -/
theorem device_time_exact :
    (∀ date : CivilDate, dayNumber date.next = dayNumber date + 1 ∧
      daysFromCivilUnsigned date.year date.month date.day = dayNumber date) ∧
    daysFromCivil 1970 1 1 = 0 ∧
    (∀ (ts : ScanTimestamp) (h : ts.Real), ∃ days : Nat,
      CivilDate.next^[days] unixEpoch = h.date ∧
        deviceTimeUnixUs ts =
          ((((days * 24 + ts.hour) * 60 + ts.minute) * 60 + ts.second) * 1000000 +
            ts.microsecond : Nat) ∧
        (ts.year < 2 ^ 16 → deviceTimeUnixUs ts < 2 ^ 63)) ∧
    (∀ ts ts' : ScanTimestamp, ts.Real → ts'.Real → ts.fields < ts'.fields →
      deviceTimeUnixUs ts < deviceTimeUnixUs ts') := by
  have hzero : dayNumber unixEpoch = 0 := by decide
  refine ⟨fun date => ⟨daysFromCivil_next date, daysFromCivilUnsigned_eq date⟩, by decide, ?_, ?_⟩
  · intro ts h
    obtain ⟨days, hdays⟩ := Int.eq_ofNat_of_zero_le h.dayNumber_nonneg
    refine ⟨days, CivilDate.iterate_next_eq daysFromCivil_next (by omega), ?_,
      fun hyear => ?_⟩
    · rw [h.deviceTimeUnixUs_eq, hdays]
      unfold ScanTimestamp.clockUs
      omega
    · have hmem := (deviceTimeUnixUs_mem ts hyear).2
      omega
  · intro ts ts' h h' hlt
    have hclock := h.clockUs_lt
    rw [h.deviceTimeUnixUs_eq, h'.deviceTimeUnixUs_eq]
    obtain hbefore | ⟨heq, hlater⟩ := h.before_or_clockUs_lt h' hlt
    · have hdays := CivilDate.lt_of_before daysFromCivil_next hbefore
      omega
    · rw [heq]
      omega

/-- Noon of a 29th of February, and the midnight behind it. -/
theorem device_time_exact_of_leap_day :
    let noon : ScanTimestamp := ⟨2024, 2, 29, 12, 0, 0, 500000⟩
    let midnight : ScanTimestamp := ⟨2024, 3, 1, 0, 0, 0, 0⟩
    (∃ days : Nat, deviceTimeUnixUs noon =
      ((((days * 24 + 12) * 60 + 0) * 60 + 0) * 1000000 + 500000 : Nat)) ∧
    deviceTimeUnixUs noon < deviceTimeUnixUs midnight := by
  intro noon midnight
  have hnoon : noon.Real := by
    constructor <;> decide
  have hmidnight : midnight.Real := by
    constructor <;> decide
  obtain ⟨days, -, htime, -⟩ := device_time_exact.2.2.1 noon hnoon
  exact ⟨⟨days, htime⟩, device_time_exact.2.2.2 noon midnight hnoon hmidnight (by decide)⟩

end Lms
end AmigaDrivers
