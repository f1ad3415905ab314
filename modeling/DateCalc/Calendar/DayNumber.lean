/-
  Day numbers.

  The days of the calendar are numbered from 0, which is January 1 of the year 1.  Numbering turns
  the shift of a date by any count of days into one addition, and the distance of two dates into one
  subtraction.

  The way back takes the number apart: 400 years have 146097 days; of the rest, a century has 36524,
  four years have 1461 and a year has 365.  A century and a year are capped at their fourth, because
  the last day of 400 years, and of four, belongs to the fourth part although it exceeds it by one.
-/
import DateCalc.Calendar.Date

namespace DateCalc

/-! ## From a date to its number -/

/-- The days of the calendar that come before a year. -/
def daysBeforeYear (year : Nat) : Nat :=
  365 * (year - 1) + (year - 1) / 4 - (year - 1) / 100 + (year - 1) / 400

/-- The days of a year that come before a month. -/
def daysBeforeMonth (year : Nat) : Nat → Nat
  | 0 => 0
  | month + 1 => daysBeforeMonth year month + daysInMonth year month

namespace Date

/-- The position of a date in the calendar, whose first day has the number 0. -/
def dayNumber (d : Date) : Nat :=
  daysBeforeYear d.year + daysBeforeMonth d.year d.month + (d.day - 1)

/-! ## From a number to its date -/

/-- The year that holds a day, and how many days of that year come before it. -/
def splitYear (n : Nat) : Nat × Nat :=
  let cycle := n / 146097
  let inCycle := n % 146097
  let century := min (inCycle / 36524) 3
  let inCentury := inCycle - 36524 * century
  let quad := inCentury / 1461
  let inQuad := inCentury % 1461
  let single := min (inQuad / 365) 3
  (400 * cycle + 100 * century + 4 * quad + single + 1, inQuad - 365 * single)

/-- The month and day reached by counting days from the first of a month, with the number of months
that may still follow it. -/
def splitMonth (year : Nat) : (later month days : Nat) → Nat × Nat
  | 0, month, days => (month, days + 1)
  | later + 1, month, days =>
    if days < daysInMonth year month then (month, days + 1)
    else splitMonth year later (month + 1) (days - daysInMonth year month)

/-- The date with a number, unless the calendar has ended by then. -/
def ofDayNumber? (n : Nat) : Option Date :=
  let (year, days) := splitYear n
  let (month, day) := splitMonth year 11 1 days
  make? year month day

/-! ## Arithmetic -/

/-- The date that lies a number of days later, or earlier when the number is negative, unless that
leaves the calendar. -/
def shift? (d : Date) (days : Int) : Option Date :=
  match (d.dayNumber : Int) + days with
  | .ofNat n => ofDayNumber? n
  | .negSucc _ => none

/-- How many days apart two dates are, whichever comes first. -/
def distance (a b : Date) : Nat := ((a.dayNumber : Int) - (b.dayNumber : Int)).natAbs

example : first.dayNumber = 0 ∧ last.dayNumber = 3652058 := by decide
example : first.shift? (-1) = none ∧ last.shift? 1 = none := by decide
example : ofDayNumber? (365 + 365 + 365 + 366 - 1) = make? 4 12 31 := by decide
example : (make? 2024 2 29).bind (·.shift? 366) = make? 2025 3 1 := by decide

end Date

end DateCalc
