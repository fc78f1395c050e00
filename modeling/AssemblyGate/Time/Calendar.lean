/-
**The proleptic Gregorian calendar.**

Days are counted from the first of January 1970.  A year begins in March here, so that the day a
leap year adds is its last; 400 years have 146097 days, and inside such a cycle the day of the cycle
gives the year, the day of the year the month, and the day of the month is what is left.

Main definitions:

* `AssemblyGate.Date` — a day by year, month and day;
* `AssemblyGate.Date.ofDays` — the date of a day number;
* `AssemblyGate.Date.toDays` — the day number of a date.
-/

set_option autoImplicit false

namespace AssemblyGate

/-- A day of the calendar. -/
structure Date where
  year : Int
  month : Nat
  day : Nat
deriving DecidableEq

namespace Date

/-- The days from the first of March of the year zero to the first of January 1970. -/
def epochShift : Int := 719468

/-- The days of 400 years. -/
def cycleDays : Int := 146097

/-- The date of a day number. -/
def ofDays (days : Int) : Date :=
  let shifted := days + epochShift
  let cycle := shifted.fdiv cycleDays
  let dayOfCycle := (shifted.fmod cycleDays).toNat
  let yearOfCycle :=
    (dayOfCycle - dayOfCycle / 1460 + dayOfCycle / 36524 - dayOfCycle / 146096) / 365
  let dayOfYear := dayOfCycle - (365 * yearOfCycle + yearOfCycle / 4 - yearOfCycle / 100)
  let monthFromMarch := (5 * dayOfYear + 2) / 153
  let day := dayOfYear - (153 * monthFromMarch + 2) / 5 + 1
  let month := if monthFromMarch < 10 then monthFromMarch + 3 else monthFromMarch - 9
  ⟨cycle * 400 + yearOfCycle + (if month ≤ 2 then 1 else 0), month, day⟩

/-- The day number of a date. -/
def toDays (date : Date) : Int :=
  let year := date.year - (if date.month ≤ 2 then 1 else 0)
  let cycle := year.fdiv 400
  let yearOfCycle := (year.fmod 400).toNat
  let monthFromMarch := (date.month + 9) % 12
  let dayOfYear := (153 * monthFromMarch + 2) / 5 + date.day - 1
  let dayOfCycle := 365 * yearOfCycle + yearOfCycle / 4 - yearOfCycle / 100 + dayOfYear
  cycle * cycleDays + dayOfCycle - epochShift

/-- The short name of a month. -/
def monthName (month : Nat) : String :=
  match month with
  | 1 => "Jan" | 2 => "Feb" | 3 => "Mar" | 4 => "Apr" | 5 => "May" | 6 => "Jun"
  | 7 => "Jul" | 8 => "Aug" | 9 => "Sep" | 10 => "Oct" | 11 => "Nov" | _ => "Dec"

example : ofDays 0 = ⟨1970, 1, 1⟩ := by decide

example : ofDays 19782 = ⟨2024, 2, 29⟩ := by decide

example : ofDays (-1) = ⟨1969, 12, 31⟩ := by decide

example : toDays ⟨2024, 2, 29⟩ = 19782 := by decide

end Date

end AssemblyGate
