/-
**The dates are those of the proleptic Gregorian calendar.**

The calendar is said here by its rules: how long the months are, which years have a day more, and
how many days have passed before a year begins.  By these a date has a number, counted from the
first of January 1970.  The date that is computed from a day number is a day of the calendar and has
that number, on either side of 1970 and of the year zero.

The computation splits a day number into cycles of 400 years, centuries, groups of four years, years
and days; a year begins in March there.  Of these five parts the day of the year alone decides month
and day.

Main definitions:

* `AssemblyGate.Date.IsLeapYear`, `AssemblyGate.Date.monthDays` — leap years, and the lengths of
  months;
* `AssemblyGate.Date.dayNumber` — **the number of a date**;
* `AssemblyGate.Date.IsDay` — a date is a day of the calendar;
* `AssemblyGate.Date.ofMarch` — the date of a day of a year that begins in March.

Main results:

* `AssemblyGate.Date.daysBeforeYear_succ` — years are as long as their months together;
* `AssemblyGate.Date.ofDays_eq` — the date of a day number, by the parts of the number;
* `AssemblyGate.Date.dayNumber_ofDays`, `AssemblyGate.Date.isDay_ofDays` — **the date of a day
  number is a day of the calendar and has that number**.
-/
import AssemblyGate.Time.Calendar
import Mathlib.Tactic.IntervalCases

set_option autoImplicit false

namespace AssemblyGate.Date

/-! ### The rules of the calendar -/

/-- Every fourth year is a leap year, but of the full centuries every fourth one only. -/
def IsLeapYear (year : Int) : Prop := year % 4 = 0 ∧ (year % 100 ≠ 0 ∨ year % 400 = 0)

instance : DecidablePred IsLeapYear := fun _ => instDecidableAnd

/-- The days that a year has beyond 365. -/
def leapDays (year : Int) : Nat := if IsLeapYear year then 1 else 0

/-- The days of a month. -/
def monthDays (year : Int) (month : Nat) : Nat :=
  if month = 2 then 28 + leapDays year
  else if month = 4 ∨ month = 6 ∨ month = 9 ∨ month = 11 then 30 else 31

/-- The days of a year before a month. -/
def daysBeforeMonth (year : Int) (month : Nat) : Nat :=
  ((List.range (month - 1)).map fun m => monthDays year (m + 1)).sum

theorem daysBeforeMonth_one (year : Int) : daysBeforeMonth year 1 = 0 := rfl

theorem daysBeforeMonth_succ (year : Int) {month : Nat} (h : 1 ≤ month) :
    daysBeforeMonth year (month + 1) = daysBeforeMonth year month + monthDays year month := by
  obtain ⟨m, rfl⟩ := Nat.exists_eq_add_of_le' h
  simp only [daysBeforeMonth, Nat.add_sub_cancel, List.range_succ, List.map_append,
    List.sum_append, List.map_cons, List.map_nil, List.sum_cons, List.sum_nil, Nat.add_zero]

/-- The leap day falls before March. -/
theorem daysBeforeMonth_three (year : Int) : daysBeforeMonth year 3 = 59 + leapDays year := by
  have hjanuary : monthDays year 1 = 31 := rfl
  have hfebruary : monthDays year 2 = 28 + leapDays year := rfl
  rw [daysBeforeMonth_succ year (by decide), daysBeforeMonth_succ year (by decide),
    daysBeforeMonth_one]
  omega

/-- From March on, five months have 153 days. -/
theorem daysBeforeMonth_add_three (year : Int) {m : Nat} (h : m ≤ 10) :
    daysBeforeMonth year (m + 3) = daysBeforeMonth year 3 + (153 * m + 2) / 5 := by
  induction m with
  | zero => rfl
  | succ m ih =>
      have hmonth : (153 * m + 2) / 5 + monthDays year (m + 3) = (153 * (m + 1) + 2) / 5 := by
        have hlt : m < 10 := h
        clear ih
        interval_cases m <;> rfl
      rw [Nat.add_right_comm, daysBeforeMonth_succ year (by omega), ih (by omega)]
      omega

/-- The leap years from the year one on and before a year; earlier ones count backwards. -/
def leapYearsBefore (year : Int) : Int := (year - 1) / 4 - (year - 1) / 100 + (year - 1) / 400

/-- The days from the first of January 1970 to the first of January of a year. -/
def daysBeforeYear (year : Int) : Int :=
  365 * (year - 1970) + (leapYearsBefore year - leapYearsBefore 1970)

/-- The number of a date, counted from the first of January 1970. -/
def dayNumber (d : Date) : Int :=
  daysBeforeYear d.year + daysBeforeMonth d.year d.month + (d.day - 1)

/-- The date is a day of the calendar. -/
structure IsDay (d : Date) : Prop where
  month : 1 ≤ d.month ∧ d.month ≤ 12
  day : 1 ≤ d.day ∧ d.day ≤ monthDays d.year d.month

/-- Years are as long as their months together. -/
theorem daysBeforeYear_succ (year : Int) :
    daysBeforeYear (year + 1) = daysBeforeYear year + daysBeforeMonth year 13 := by
  have hmonths : daysBeforeMonth year 13 = 365 + leapDays year := by
    rw [daysBeforeMonth_add_three year (m := 10) (by decide), daysBeforeMonth_three]
    omega
  rw [hmonths]
  unfold daysBeforeYear leapYearsBefore leapDays
  by_cases h : IsLeapYear year
  · rw [if_pos h]
    unfold IsLeapYear at h
    omega
  · rw [if_neg h]
    unfold IsLeapYear at h
    omega

example : dayNumber ⟨2000, 2, 29⟩ = 11016 := by decide

/-! ### The parts of a day number -/

/-- The centuries of a cycle, the groups of four years of a century, the years of a group and the
days of a year.  A group that ends in a full century has no leap day, but for the last of the
cycle. -/
structure Parts where
  century : Nat
  group : Nat
  year : Nat
  day : Nat
  century_lt : century < 4
  group_lt : group < 25
  year_lt : year < 4
  day_le : day < 365 ∨ (day = 365 ∧ year = 3 ∧ (group < 24 ∨ century = 3))

namespace Parts

/-- The year of the cycle. -/
def yearOfCycle (p : Parts) : Nat := 100 * p.century + 4 * p.group + p.year

/-- The day of the cycle. -/
def dayOfCycle (p : Parts) : Nat := 36524 * p.century + 1461 * p.group + 365 * p.year + p.day

/-- Every day of a cycle has its parts. -/
theorem exists_of_lt {d : Nat} (h : d < 146097) : ∃ p : Parts, p.dayOfCycle = d := by
  -- the last day of the cycle would be a fifth century, and the last day of a group a fifth year
  let century := min 3 (d / 36524)
  let rest := d - 36524 * century
  let year := min 3 (rest % 1461 / 365)
  refine ⟨⟨century, rest / 1461, year, rest % 1461 - 365 * year, ?_, ?_, ?_, ?_⟩, ?_⟩
  all_goals
    simp only [dayOfCycle, century, rest, year]
    omega

theorem days_of_years (p : Parts) :
    365 * p.yearOfCycle + p.yearOfCycle / 4 - p.yearOfCycle / 100 + p.day = p.dayOfCycle := by
  obtain ⟨c, q, j, r, hc, hq, hj, -⟩ := p
  simp only [yearOfCycle, dayOfCycle]
  have hfours : (100 * c + 4 * q + j) / 4 = 25 * c + q := by omega
  have hcenturies : (100 * c + 4 * q + j) / 100 = c := by omega
  rw [hfours, hcenturies]
  omega

/-- The year of the cycle is what the days leave when the leap days are taken out. -/
theorem yearOfCycle_eq (p : Parts) :
    (p.dayOfCycle - p.dayOfCycle / 1460 + p.dayOfCycle / 36524 - p.dayOfCycle / 146096) / 365
      = p.yearOfCycle := by
  obtain ⟨c, q, j, r, hc, hq, hj, hr⟩ := p
  simp only [yearOfCycle, dayOfCycle]
  generalize hd : 36524 * c + 1461 * q + 365 * j + r = d
  have hcenturies : d / 36524 = c + d / 146096 := by
    by_cases hlast : d = 146096
    · omega
    · have hcycle : d / 146096 = 0 := by omega
      rw [hcycle]
      exact Nat.div_eq_of_lt_le (by omega) (by omega)
  have hgroups : d / 1460 = 25 * c + q + (24 * c + q + 365 * j + r) / 1460 := by omega
  have hone : (24 * c + q + 365 * j + r) / 1460 ≤ 1 := by omega
  omega

end Parts

/-! ### Years that begin in March -/

/-- The date of a day of the year that begins in March of the given year. -/
def ofMarch (year : Int) (day : Nat) : Date :=
  let monthFromMarch := (5 * day + 2) / 153
  let month := if monthFromMarch < 10 then monthFromMarch + 3 else monthFromMarch - 9
  ⟨year + (if month ≤ 2 then 1 else 0), month, day - (153 * monthFromMarch + 2) / 5 + 1⟩

/-- The number of a date is the number of the first of March before it and the days since. -/
theorem dayNumber_ofMarch (year : Int) {day : Nat} (h : day ≤ 365) :
    (ofMarch year day).dayNumber = daysBeforeYear year + daysBeforeMonth year 3 + day := by
  unfold ofMarch dayNumber
  dsimp only
  generalize hm : (5 * day + 2) / 153 = m
  by_cases hmarch : m < 10
  · rw [if_pos hmarch, if_neg (by omega), Int.add_zero,
      daysBeforeMonth_add_three year (by omega)]
    omega
  · -- January and February belong to the year after
    have hsucc := daysBeforeYear_succ year
    rw [daysBeforeMonth_add_three year (m := 10) (by decide)] at hsucc
    rw [if_neg hmarch, if_pos (by omega), hsucc]
    obtain rfl | rfl : m = 10 ∨ m = 11 := by omega
    · have hjanuary : daysBeforeMonth (year + 1) (10 - 9) = 0 := rfl
      omega
    · have hfebruary : daysBeforeMonth (year + 1) (11 - 9) = 31 := rfl
      omega

theorem isDay_ofMarch (year : Int) {day : Nat} (h : day < 365 + leapDays (year + 1)) :
    (ofMarch year day).IsDay := by
  have hleap : leapDays (year + 1) ≤ 1 := by
    unfold leapDays
    split <;> omega
  have hmonth : (5 * day + 2) / 153 ≤ 11 := by omega
  unfold ofMarch
  dsimp only
  generalize hm : (5 * day + 2) / 153 = m at hmonth
  interval_cases m <;>
    exact ⟨by simp, by simp [monthDays]; omega⟩

/-- The first of March by the parts of its day number. -/
theorem march_eq (cycle : Int) (p : Parts) :
    daysBeforeYear (cycle * 400 + p.yearOfCycle)
        + daysBeforeMonth (cycle * 400 + p.yearOfCycle) 3
      = cycle * cycleDays + (p.dayOfCycle - p.day) - epochShift := by
  obtain ⟨c, q, j, r, hc, hq, hj, -⟩ := p
  simp only [Parts.yearOfCycle, Parts.dayOfCycle, cycleDays, epochShift]
  push_cast
  generalize hyear : cycle * 400 + (100 * (c : Int) + 4 * q + j) = year
  -- the leap day of this year, if it has one, comes before its first of March
  have hnext : daysBeforeYear (year + 1)
      = cycle * 146097 + (36524 * c + 1461 * q + 365 * j) - 719162 := by
    unfold daysBeforeYear leapYearsBefore
    omega
  have hsucc := daysBeforeYear_succ year
  rw [daysBeforeMonth_add_three year (m := 10) (by decide)] at hsucc
  omega

/-! ### The date of a day number -/

/-- The date of a day number by the parts of the number. -/
theorem ofDays_eq (cycle : Int) (p : Parts) :
    ofDays (cycle * cycleDays + p.dayOfCycle - epochShift)
      = ofMarch (cycle * 400 + p.yearOfCycle) p.day := by
  have hbound : p.dayOfCycle < 146097 := by
    obtain ⟨c, q, j, r, hc, hq, hj, hr⟩ := p
    simp only [Parts.dayOfCycle]
    omega
  have hcycle : (cycle * cycleDays + p.dayOfCycle).fdiv cycleDays = cycle := by
    rw [cycleDays, Int.fdiv_eq_ediv_of_nonneg _ (by decide)]
    omega
  have hday : ((cycle * cycleDays + p.dayOfCycle).fmod cycleDays).toNat = p.dayOfCycle := by
    rw [cycleDays, Int.fmod_eq_emod_of_nonneg _ (by decide)]
    omega
  have hdayOfYear : p.dayOfCycle
      - (365 * p.yearOfCycle + p.yearOfCycle / 4 - p.yearOfCycle / 100) = p.day := by
    have hdays := p.days_of_years
    omega
  unfold ofDays
  simp only [sub_add_cancel, hcycle, hday, p.yearOfCycle_eq, hdayOfYear]
  rfl

/-- Every day number has its parts. -/
theorem exists_parts (days : Int) :
    ∃ cycle p, days = cycle * cycleDays + (Parts.dayOfCycle p : Int) - epochShift := by
  obtain ⟨p, hp⟩ := Parts.exists_of_lt (d := ((days + epochShift) % cycleDays).toNat)
    (by simp only [epochShift, cycleDays]; omega)
  refine ⟨(days + epochShift) / cycleDays, p, ?_⟩
  rw [hp]
  simp only [epochShift, cycleDays]
  omega

/-- **The date of a day number has that number.** -/
theorem dayNumber_ofDays (days : Int) : (ofDays days).dayNumber = days := by
  obtain ⟨cycle, p, rfl⟩ := exists_parts days
  have hday : p.day ≤ 365 := by
    have := p.day_le
    omega
  rw [ofDays_eq, dayNumber_ofMarch _ hday, march_eq]
  omega

/-- **The date of a day number is a day of the calendar.** -/
theorem isDay_ofDays (days : Int) : (ofDays days).IsDay := by
  obtain ⟨cycle, p, rfl⟩ := exists_parts days
  rw [ofDays_eq]
  refine isDay_ofMarch _ ?_
  rcases p.day_le with hday | ⟨hday, hyear, hlast⟩
  · omega
  · -- the last day of such a year is the one that the leap year after it adds
    have hleap : IsLeapYear (cycle * 400 + p.yearOfCycle + 1) := by
      unfold IsLeapYear Parts.yearOfCycle
      have := p.group_lt
      omega
    rw [leapDays, if_pos hleap]
    omega

end AssemblyGate.Date
