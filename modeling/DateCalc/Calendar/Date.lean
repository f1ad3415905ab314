/-
  Calendar dates.

  The calendar is the Gregorian one carried back to the year 1, and it ends with the year 9999.  A
  date is three numbers that name a real day; the proof that they do travels with them, so that no
  February 30 can be built and a look-up of a day never fails.

  Two functions step from a day to its neighbours.  They are the plain meaning of "the next day" and
  "the day before": the end of a month turns to the first of the next one, and the two ends of the
  calendar have no neighbour beyond them.
-/
import DateCalc.Text.Decimal

namespace DateCalc

/-! ## Years and months -/

/-- Every fourth year is a leap year, except the centuries that 400 does not divide. -/
def isLeapYear (year : Nat) : Bool := year % 4 == 0 && (year % 100 != 0 || year % 400 == 0)

/-- The length of a month, and zero where there is no such month. -/
def daysInMonth (year : Nat) : Nat → Nat
  | 1 | 3 | 5 | 7 | 8 | 10 | 12 => 31
  | 4 | 6 | 9 | 11 => 30
  | 2 => if isLeapYear year then 29 else 28
  | _ => 0

/-- The length of a year. -/
def daysInYear (year : Nat) : Nat := if isLeapYear year then 366 else 365

/-! ## Dates -/

/-- A day of the years 1 to 9999. -/
@[ext]
structure Date where
  year : Nat
  month : Nat
  day : Nat
  one_le_year : 1 ≤ year
  year_le : year ≤ 9999
  one_le_day : 1 ≤ day
  day_le : day ≤ daysInMonth year month
  deriving DecidableEq

namespace Date

/-- The day that three numbers name, if they name one. -/
def make? (year month day : Nat) : Option Date :=
  if h : 1 ≤ year ∧ year ≤ 9999 ∧ 1 ≤ day ∧ day ≤ daysInMonth year month then
    some ⟨year, month, day, h.1, h.2.1, h.2.2.1, h.2.2.2⟩
  else
    none

/-- The first day of the calendar. -/
def first : Date := ⟨1, 1, 1, by decide, by decide, by decide, by decide⟩

/-- The last day of the calendar. -/
def last : Date := ⟨9999, 12, 31, by decide, by decide, by decide, by decide⟩

/-- Year, month and day, in four, two and two digits with hyphens between them. -/
def isoChars (d : Date) : List Char :=
  Text.paddedDecimal 4 d.year ++ '-' ::
    (Text.paddedDecimal 2 d.month ++ '-' :: Text.paddedDecimal 2 d.day)

/-- Year, month and day, in four, two and two digits with hyphens between them. -/
def isoText (d : Date) : String := String.ofList d.isoChars

/-! ## Neighbours -/

/-- The day after: the next day of the month, else the first of the next month, else January 1. -/
def next? (d : Date) : Option Date :=
  if d.day < daysInMonth d.year d.month then make? d.year d.month (d.day + 1)
  else if d.month < 12 then make? d.year (d.month + 1) 1
  else make? (d.year + 1) 1 1

/-- The day before: the day before in the month, else the end of the month before, else
December 31. -/
def previous? (d : Date) : Option Date :=
  if 1 < d.day then make? d.year d.month (d.day - 1)
  else if 1 < d.month then make? d.year (d.month - 1) (daysInMonth d.year (d.month - 1))
  else make? (d.year - 1) 12 31

/-! ## What the numbers of a date satisfy -/

/-- The month of a date is one of twelve. -/
theorem month_range (d : Date) : 1 ≤ d.month ∧ d.month ≤ 12 := by
  have h := d.day_le
  have h' := d.one_le_day
  unfold daysInMonth at h
  split at h <;> omega

/-- Three numbers make the date of which they are year, month and day, and no other. -/
theorem make?_eq_some_iff {year month day : Nat} {d : Date} :
    make? year month day = some d ↔ d.year = year ∧ d.month = month ∧ d.day = day := by
  unfold make?
  split
  · simp [Date.ext_iff, eq_comm]
  · rename_i h
    simp only [reduceCtorEq, false_iff]
    rintro ⟨rfl, rfl, rfl⟩
    exact h ⟨d.one_le_year, d.year_le, d.one_le_day, d.day_le⟩

theorem make?_self (d : Date) : make? d.year d.month d.day = some d :=
  make?_eq_some_iff.2 ⟨rfl, rfl, rfl⟩

example : (make? 2000 2 29).isSome = true ∧ make? 1900 2 29 = none := by decide
example : first.previous? = none ∧ last.next? = none := by decide
example : (make? 2023 12 31).bind next? = make? 2024 1 1 := by decide

end Date

end DateCalc
