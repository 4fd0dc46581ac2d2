import Mathlib.Logic.Function.Iterate
import Mathlib.Tactic.SplitIfs

/-!
# Dates of the Gregorian calendar

A date carries the proof that its month and its day exist, for any year, before or after the
reform.  `next` is the day after it.

* `next_cases`: what the day after is.
* `exists_iterate_next`: of two dates, the later one is some days after the earlier one.
* `eq_add_of_next`: so a number that grows by one with every day counts the days.
* `lt_of_before`: and grows strictly with the date.
-/

/-- The year has a 29th of February. -/
def IsLeapYear (year : Int) : Prop := year % 4 = 0 ∧ (year % 100 ≠ 0 ∨ year % 400 = 0)

instance (year : Int) : Decidable (IsLeapYear year) :=
  inferInstanceAs (Decidable (year % 4 = 0 ∧ (year % 100 ≠ 0 ∨ year % 400 = 0)))

/-- The days of a month. -/
def daysInMonth (year : Int) (month : Nat) : Nat :=
  if month = 2 then (if IsLeapYear year then 29 else 28)
  else if month = 4 ∨ month = 6 ∨ month = 9 ∨ month = 11 then 30
  else 31

theorem one_le_daysInMonth (year : Int) (month : Nat) : 1 ≤ daysInMonth year month := by
  unfold daysInMonth
  split_ifs <;> decide

/-- A date. -/
@[ext]
structure CivilDate where
  year : Int
  month : Nat
  day : Nat
  one_le_month : 1 ≤ month
  month_le : month ≤ 12
  one_le_day : 1 ≤ day
  day_le : day ≤ daysInMonth year month

namespace CivilDate

/-- The day after. -/
def next (date : CivilDate) : CivilDate :=
  if h : date.day < daysInMonth date.year date.month then
    { date with
      day := date.day + 1
      one_le_day := Nat.succ_pos _
      day_le := h }
  else if h' : date.month < 12 then
    { year := date.year
      month := date.month + 1
      day := 1
      one_le_month := Nat.succ_pos _
      month_le := h'
      one_le_day := Nat.le_refl 1
      day_le := one_le_daysInMonth _ _ }
  else
    { year := date.year + 1
      month := 1
      day := 1
      one_le_month := Nat.le_refl 1
      month_le := by decide
      one_le_day := Nat.le_refl 1
      day_le := one_le_daysInMonth _ _ }

/-- What the day after is, inside a month, at its end, and at the end of the year. -/
theorem next_cases (date : CivilDate) :
    (date.day < daysInMonth date.year date.month ∧ date.next.year = date.year ∧
        date.next.month = date.month ∧ date.next.day = date.day + 1) ∨
      (date.day = daysInMonth date.year date.month ∧ date.month < 12 ∧
        date.next.year = date.year ∧ date.next.month = date.month + 1 ∧ date.next.day = 1) ∨
      (date.day = daysInMonth date.year date.month ∧ date.month = 12 ∧
        date.next.year = date.year + 1 ∧ date.next.month = 1 ∧ date.next.day = 1) := by
  by_cases hday : date.day < daysInMonth date.year date.month
  · refine .inl ⟨hday, ?_⟩
    rw [next, dif_pos hday]
    exact ⟨rfl, rfl, rfl⟩
  · have hlast := Nat.le_antisymm date.day_le (Nat.not_lt.mp hday)
    by_cases hmonth : date.month < 12
    · refine .inr (.inl ⟨hlast, hmonth, ?_⟩)
      rw [next, dif_neg hday, dif_pos hmonth]
      exact ⟨rfl, rfl, rfl⟩
    · refine .inr (.inr ⟨hlast, Nat.le_antisymm date.month_le (Nat.not_lt.mp hmonth), ?_⟩)
      rw [next, dif_neg hday, dif_neg hmonth]
      exact ⟨rfl, rfl, rfl⟩

/-- The first date is earlier. -/
def Before (d e : CivilDate) : Prop :=
  d.year < e.year ∨
    d.year = e.year ∧ (d.month < e.month ∨ d.month = e.month ∧ d.day < e.day)

instance (d e : CivilDate) : Decidable (d.Before e) := by
  unfold Before
  infer_instance

theorem before_or_eq_or_before (d e : CivilDate) : d.Before e ∨ d = e ∨ e.Before d := by
  by_cases heq : d.year = e.year ∧ d.month = e.month ∧ d.day = e.day
  · exact .inr (.inl (CivilDate.ext heq.1 heq.2.1 heq.2.2))
  · unfold Before
    omega

theorem Before.ne {d e : CivilDate} (h : d.Before e) : d ≠ e := by
  rintro rfl
  unfold Before at h
  omega

/-! ## Later dates are reached day by day -/

/-- Some days after `d` is `e`. -/
def Reaches (d e : CivilDate) : Prop := ∃ n, next^[n] d = e

theorem Reaches.refl (d : CivilDate) : d.Reaches d := ⟨0, rfl⟩

theorem Reaches.of_next {d e : CivilDate} (h : d.next.Reaches e) : d.Reaches e := by
  obtain ⟨n, hn⟩ := h
  exact ⟨n + 1, hn⟩

theorem Reaches.trans {c d e : CivilDate} (h : c.Reaches d) (h' : d.Reaches e) : c.Reaches e := by
  obtain ⟨m, rfl⟩ := h
  obtain ⟨n, rfl⟩ := h'
  exact ⟨n + m, Function.iterate_add_apply next n m c⟩

/-- Within a month. -/
theorem reaches_day (k : Nat) :
    ∀ {d e : CivilDate}, e.year = d.year → e.month = d.month → e.day = d.day + k → d.Reaches e := by
  induction k with
  | zero =>
    intro d e hyear hmonth hday
    obtain rfl : e = d := CivilDate.ext hyear hmonth hday
    exact .refl e
  | succ k ih =>
    intro d e hyear hmonth hday
    have hlast := e.day_le
    rw [hyear, hmonth, hday] at hlast
    obtain ⟨-, hyear', hmonth', hday'⟩ | ⟨hfull, -⟩ | ⟨hfull, -⟩ := d.next_cases
    · refine .of_next (ih ?_ ?_ ?_)
      · rw [hyear, hyear']
      · rw [hmonth, hmonth']
      · rw [hday, hday']
        exact Nat.add_right_comm d.day k 1
    · omega
    · omega

/-- The last day of the month of `d`. -/
def lastOfMonth (d : CivilDate) : CivilDate :=
  { d with
    day := daysInMonth d.year d.month
    one_le_day := one_le_daysInMonth _ _
    day_le := Nat.le_refl _ }

theorem reaches_lastOfMonth (d : CivilDate) : d.Reaches d.lastOfMonth :=
  reaches_day (daysInMonth d.year d.month - d.day) rfl rfl
    (Nat.add_sub_cancel' d.day_le).symm

/-- Behind the last day of a month stands the first of the next one. -/
theorem next_lastOfMonth_of_lt (d : CivilDate) (h : d.month < 12) :
    d.lastOfMonth.next.year = d.year ∧ d.lastOfMonth.next.month = d.month + 1 ∧
      d.lastOfMonth.next.day = 1 := by
  obtain ⟨hday, -⟩ | ⟨-, -, hnext⟩ | ⟨-, hmonth, -⟩ := d.lastOfMonth.next_cases
  · exact absurd hday (Nat.lt_irrefl _)
  · exact hnext
  · exact absurd hmonth (Nat.ne_of_lt h)

/-- Behind the last day of a year stands the first of the next one. -/
theorem next_lastOfMonth_of_eq (d : CivilDate) (h : d.month = 12) :
    d.lastOfMonth.next.year = d.year + 1 ∧ d.lastOfMonth.next.month = 1 ∧
      d.lastOfMonth.next.day = 1 := by
  obtain ⟨hday, -⟩ | ⟨-, hmonth, -⟩ | ⟨-, -, hnext⟩ := d.lastOfMonth.next_cases
  · exact absurd hday (Nat.lt_irrefl _)
  · exact absurd h (Nat.ne_of_lt hmonth)
  · exact hnext

/-- Within a year. -/
theorem reaches_month (k : Nat) :
    ∀ {d e : CivilDate}, e.year = d.year → e.month = d.month + k + 1 → d.Reaches e := by
  induction k with
  | zero =>
    intro d e hyear hmonth
    have hlast := e.month_le
    obtain ⟨hyear', hmonth', hday'⟩ := next_lastOfMonth_of_lt d (by omega)
    refine d.reaches_lastOfMonth.trans (.of_next (reaches_day (e.day - 1) ?_ ?_ ?_))
    · rw [hyear, hyear']
    · rw [hmonth, hmonth']
    · have hfirst := e.one_le_day
      omega
  | succ k ih =>
    intro d e hyear hmonth
    have hlast := e.month_le
    obtain ⟨hyear', hmonth', -⟩ := next_lastOfMonth_of_lt d (by omega)
    refine d.reaches_lastOfMonth.trans (.of_next (ih ?_ ?_))
    · rw [hyear, hyear']
    · rw [hmonth, hmonth']
      omega

/-- The days of the year that are left. -/
theorem exists_reaches_december (d : CivilDate) :
    ∃ e : CivilDate, d.Reaches e ∧ e.year = d.year ∧ e.month = 12 := by
  by_cases h : d.month = 12
  · exact ⟨d, .refl d, rfl, h⟩
  · have hlast := d.month_le
    refine ⟨⟨d.year, 12, 1, by decide, by decide, by decide, one_le_daysInMonth _ _⟩, ?_, rfl, rfl⟩
    exact reaches_month (11 - d.month) rfl (by show 12 = _; omega)

/-- Over the years. -/
theorem reaches_year (k : Nat) :
    ∀ {d e : CivilDate}, e.year = d.year + k + 1 → d.Reaches e := by
  induction k with
  | zero =>
    intro d e hyear
    obtain ⟨f, hf, hfyear, hfmonth⟩ := d.exists_reaches_december
    obtain ⟨hyear', hmonth', hday'⟩ := next_lastOfMonth_of_eq f hfmonth
    refine hf.trans (f.reaches_lastOfMonth.trans (.of_next ?_))
    have hsame : e.year = f.lastOfMonth.next.year := by
      rw [hyear, hyear', hfyear]
      omega
    have hmonth := e.one_le_month
    have hday := e.one_le_day
    by_cases hjanuary : e.month = 1
    · exact reaches_day (e.day - 1) hsame (by rw [hjanuary, hmonth']) (by omega)
    · exact reaches_month (e.month - 2) hsame (by omega)
  | succ k ih =>
    intro d e hyear
    obtain ⟨f, hf, hfyear, hfmonth⟩ := d.exists_reaches_december
    obtain ⟨hyear', -⟩ := next_lastOfMonth_of_eq f hfmonth
    refine hf.trans (f.reaches_lastOfMonth.trans (.of_next (ih ?_)))
    rw [hyear, hyear', hfyear]
    omega

/-- **A later date is some days later.** -/
theorem exists_iterate_next {d e : CivilDate} (h : d.Before e) : d.Reaches e := by
  obtain hyear | ⟨hyear, hmonth | ⟨hmonth, hday⟩⟩ := h
  · exact reaches_year (e.year - d.year - 1).toNat (by omega)
  · exact reaches_month (e.month - d.month - 1) hyear.symm (by omega)
  · exact reaches_day (e.day - d.day) hyear.symm hmonth.symm (by omega)

/-! ## Counting days -/

section Count

variable {count : CivilDate → Int} (hnext : ∀ date : CivilDate, count date.next = count date + 1)

include hnext

/-- A number that grows by one with every day counts the days. -/
theorem eq_add_of_next (n : Nat) : ∀ d : CivilDate, count (next^[n] d) = count d + n := by
  induction n with
  | zero =>
    intro d
    exact (Int.add_zero _).symm
  | succ n ih =>
    intro d
    rw [Function.iterate_succ_apply, ih, hnext]
    omega

/-- It grows strictly with the date. -/
theorem lt_of_before {d e : CivilDate} (h : d.Before e) : count d < count e := by
  obtain ⟨n, hn⟩ := exists_iterate_next h
  have hcount := eq_add_of_next hnext n d
  rw [hn] at hcount
  have hpos : n ≠ 0 := by
    rintro rfl
    exact h.ne hn
  omega

/-- Two dates with the same number are one. -/
theorem eq_of_count_eq {d e : CivilDate} (h : count d = count e) : d = e := by
  obtain hlt | heq | hgt := d.before_or_eq_or_before e
  · have := lt_of_before hnext hlt
    omega
  · exact heq
  · have := lt_of_before hnext hgt
    omega

/-- A date whose number is not smaller is that many days later. -/
theorem iterate_next_eq {d e : CivilDate} {n : Nat} (h : count e = count d + n) : next^[n] d = e :=
  eq_of_count_eq hnext ((eq_add_of_next hnext n d).trans h.symm)

end Count

end CivilDate
