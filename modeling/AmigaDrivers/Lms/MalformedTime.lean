import AmigaDrivers.Lms.ScanTime

/-!
# Time stamps that denote no time

`DeviceTimeUnixUs` is documented to return 0 for malformed fields.  Its checks look at one field at
a time, and let through the 31st of any month and the 61st second of any minute.  The days behind
the end of a month are counted on into the next one.

* `Denotes`: the fields are a time, given the minutes that have a leap second.
* `daysFromCivil_beyond`: a day behind the end of a month is an early day of the next.
* `malformed_time_rejected`: the time stamps for which `DeviceTimeUnixUs` keeps its promise.
-/

namespace AmigaDrivers
namespace Lms

namespace ScanTimestamp

/-- The checks of `DeviceTimeUnixUs`. -/
def FieldsInRange (ts : ScanTimestamp) : Prop :=
  1 ≤ ts.month ∧ ts.month ≤ 12 ∧ 1 ≤ ts.day ∧ ts.day ≤ 31 ∧ ts.hour ≤ 23 ∧ ts.minute ≤ 59 ∧
    ts.second ≤ 60 ∧ ts.microsecond ≤ 999999

/-- The fields denote a date and a time of day, the minutes in `leap` having 61 seconds. -/
def Denotes (leap : ScanTimestamp → Prop) (ts : ScanTimestamp) : Prop :=
  1 ≤ ts.month ∧ ts.month ≤ 12 ∧ 1 ≤ ts.day ∧ ts.day ≤ daysInMonth ts.year ts.month ∧
    ts.hour < 24 ∧ ts.minute < 60 ∧ (ts.second < 60 ∨ ts.second = 60 ∧ leap ts) ∧
    ts.microsecond < 1000000

/-- The 61st second of the last minute before Unix time, which has the number 0 itself. -/
def lastBeforeEpoch : ScanTimestamp := ⟨1969, 12, 31, 23, 59, 60, 0⟩

end ScanTimestamp

open ScanTimestamp

theorem deviceTimeUnixUs_of_not_inRange {ts : ScanTimestamp} (h : ¬ ts.FieldsInRange) :
    deviceTimeUnixUs ts = 0 := by
  unfold FieldsInRange at h
  unfold deviceTimeUnixUs
  rw [if_pos (by omega)]

theorem deviceTimeUnixUs_of_inRange {ts : ScanTimestamp} (h : ts.FieldsInRange) :
    deviceTimeUnixUs ts =
      daysFromCivil ts.year ts.month ts.day * (86400 * 1000000) + ts.clockUs := by
  unfold FieldsInRange at h
  unfold deviceTimeUnixUs
  rw [if_neg (by omega)]
  unfold clockUs
  dsimp only
  push_cast
  omega

/-- The time of day takes a day, and one second more. -/
theorem clockUs_le {ts : ScanTimestamp} (h : ts.FieldsInRange) :
    ts.clockUs ≤ 86400 * 1000000 + 999999 := by
  obtain ⟨-, -, -, -, hhour, hminute, hsecond, hmicrosecond⟩ := h
  unfold clockUs
  omega

/-! ## Days behind the end of a month -/

/-- The early day of the next month that a day behind the end of a month stands for. -/
theorem daysFromCivil_beyond (y : Int) {m d : Nat} (hm : 1 ≤ m) (hm' : m ≤ 12)
    (hd : daysInMonth y m < d) (hd' : d ≤ 31) :
    ∃ date : CivilDate, dayNumber date = daysFromCivil y m d ∧ date.month ≠ 1 ∧ date.day ≤ 3 := by
  have hlong : 28 ≤ daysInMonth y m := by
    unfold daysInMonth
    split_ifs <;> decide
  have hdecember : m < 12 := by
    refine Nat.lt_of_le_of_ne hm' ?_
    rintro rfl
    exact absurd hd (Nat.not_lt.mpr hd')
  have hnext : 28 ≤ daysInMonth y (m + 1) := by
    unfold daysInMonth
    split_ifs <;> decide
  refine ⟨⟨y, m + 1, d - daysInMonth y m, Nat.succ_pos m, hdecember, Nat.sub_pos_of_lt hd, ?_⟩, ?_,
    ?_, ?_⟩
  · exact Nat.le_trans (by omega) hnext
  · unfold dayNumber
    dsimp only
    rw [daysFromCivil_day y (m + 1) (Nat.sub_pos_of_lt hd), daysFromCivil_first y hm hdecember,
      daysFromCivil_day y m (Nat.le_trans (Nat.le_trans (by decide) hlong) hd.le)]
    omega
  · dsimp only
    omega
  · dsimp only
    omega

/-- The day before Unix time starts. -/
def lastDayBefore : CivilDate where
  year := 1969
  month := 12
  day := 31
  one_le_month := one_le_twelve
  month_le := by decide
  one_le_day := by decide
  day_le := by decide

/-- Such a day is neither the first day of Unix time nor the last day before. -/
theorem daysFromCivil_beyond_ne {y : Int} {m d : Nat} (hm : 1 ≤ m) (hm' : m ≤ 12)
    (hd : daysInMonth y m < d) (hd' : d ≤ 31) :
    daysFromCivil y m d ≠ 0 ∧ daysFromCivil y m d ≠ -1 := by
  obtain ⟨date, hnumber, hmonth, hday⟩ := daysFromCivil_beyond y hm hm' hd hd'
  rw [← hnumber]
  constructor
  · intro hzero
    have hepoch : dayNumber date = dayNumber unixEpoch := hzero.trans (by decide)
    rw [CivilDate.eq_of_count_eq daysFromCivil_next hepoch] at hmonth
    exact hmonth rfl
  · intro hminus
    have hbefore : dayNumber date = dayNumber lastDayBefore := hminus.trans (by decide)
    rw [CivilDate.eq_of_count_eq daysFromCivil_next hbefore] at hday
    exact absurd hday (by decide)

/-! ## What is rejected -/

/-- In range, the result is 0 on the first day of Unix time or at the end of the day before. -/
theorem deviceTimeUnixUs_eq_zero {ts : ScanTimestamp} (h : ts.FieldsInRange)
    (hzero : deviceTimeUnixUs ts = 0) :
    daysFromCivil ts.year ts.month ts.day = 0 ∧ ts.second < 60 ∨
      daysFromCivil ts.year ts.month ts.day = -1 ∧ ts.hour = 23 ∧ ts.minute = 59 ∧
        ts.second = 60 ∧ ts.microsecond = 0 := by
  have hclock := clockUs_le h
  rw [deviceTimeUnixUs_of_inRange h] at hzero
  obtain ⟨-, -, -, -, hhour, hminute, hsecond, hmicrosecond⟩ := h
  have hdays : daysFromCivil ts.year ts.month ts.day = 0 ∨
      daysFromCivil ts.year ts.month ts.day = -1 := by
    omega
  obtain hdays | hdays := hdays
  · rw [hdays] at hzero
    unfold clockUs at hzero
    exact .inl ⟨hdays, by omega⟩
  · rw [hdays] at hzero
    unfold clockUs at hzero
    exact .inr ⟨hdays, by omega⟩

/-- A real day that is the last before Unix time. -/
theorem fields_of_dayNumber {ts : ScanTimestamp} (h : ts.FieldsInRange)
    (hday : ts.day ≤ daysInMonth ts.year ts.month)
    (hminus : daysFromCivil ts.year ts.month ts.day = -1) :
    ts.year = 1969 ∧ ts.month = 12 ∧ ts.day = 31 := by
  let date : CivilDate := ⟨ts.year, ts.month, ts.day, h.1, h.2.1, h.2.2.1, hday⟩
  have hbefore : dayNumber date = dayNumber lastDayBefore := hminus.trans (by decide)
  have hdate := CivilDate.eq_of_count_eq daysFromCivil_next hbefore
  have hyear : (ts.year : Int) = 1969 := congrArg CivilDate.year hdate
  exact ⟨by omega, congrArg CivilDate.month hdate, congrArg CivilDate.day hdate⟩

/-- **Malformed time stamps.**  Whichever minutes have a leap second: `DeviceTimeUnixUs` returns 0 if
the fields denote no time, exactly for the time stamps that its checks reject, or whose day is in
their month and whose second is in their minute, or that stand for the start of Unix time. -/
theorem malformed_time_rejected (leap : ScanTimestamp → Prop) (ts : ScanTimestamp) :
    (¬ ts.Denotes leap → deviceTimeUnixUs ts = 0) ↔
      ¬ ts.FieldsInRange ∨
      ts.day ≤ daysInMonth ts.year ts.month ∧
        (ts.second < 60 ∨ leap ts ∨ ts = lastBeforeEpoch) := by
  constructor
  · intro hrejected
    by_cases hrange : ts.FieldsInRange
    · refine .inr ?_
      by_cases hdenotes : ts.Denotes leap
      · obtain ⟨-, -, -, hday, -, -, hsecond, -⟩ := hdenotes
        exact ⟨hday, hsecond.imp id fun h => .inl h.2⟩
      · have hzero := hrejected hdenotes
        have hday : ts.day ≤ daysInMonth ts.year ts.month := by
          by_contra hbeyond
          obtain ⟨hne, hne'⟩ := daysFromCivil_beyond_ne hrange.1 hrange.2.1
            (Nat.lt_of_not_le hbeyond) hrange.2.2.2.1
          obtain ⟨h, -⟩ | ⟨h, -⟩ := deviceTimeUnixUs_eq_zero hrange hzero
          · exact hne h
          · exact hne' h
        refine ⟨hday, ?_⟩
        obtain ⟨-, hsecond⟩ | ⟨hdays, hhour, hminute, hsecond, hmicrosecond⟩ :=
          deviceTimeUnixUs_eq_zero hrange hzero
        · exact .inl hsecond
        · obtain ⟨hyear, hmonth, hdate⟩ := fields_of_dayNumber hrange hday hdays
          refine .inr (.inr ?_)
          cases ts
          subst_vars
          rfl
    · exact .inl hrange
  · rintro (hrange | ⟨hday, hsecond⟩) hdenotes
    · exact deviceTimeUnixUs_of_not_inRange hrange
    · by_cases hrange : ts.FieldsInRange
      · obtain hsecond | hleap | rfl := hsecond
        · refine absurd ?_ hdenotes
          unfold FieldsInRange at hrange
          unfold Denotes
          omega
        · refine absurd ?_ hdenotes
          unfold FieldsInRange at hrange
          unfold Denotes
          refine ⟨hrange.1, hrange.2.1, hrange.2.2.1, hday, by omega, by omega, ?_, by omega⟩
          by_cases hlast : ts.second = 60
          · exact .inr ⟨hlast, hleap⟩
          · exact .inl (by omega)
        · decide
      · exact deviceTimeUnixUs_of_not_inRange hrange

/-- The 30th of February. -/
def thirtiethOfFebruary : ScanTimestamp := ⟨2023, 2, 30, 12, 0, 0, 0⟩

/-- It denotes no time, and gets the number of the 2nd of March. -/
theorem thirtieth_of_february_accepted :
    ¬ ∀ ts : ScanTimestamp, ¬ ts.Denotes (fun _ => True) → deviceTimeUnixUs ts = 0 := by
  intro h
  have hzero := h thirtiethOfFebruary (by unfold Denotes; decide)
  exact absurd hzero (by decide)

end Lms
end AmigaDrivers
