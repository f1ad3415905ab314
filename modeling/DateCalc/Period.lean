/-
  Periods and signed periods.

  A period is a count of days, weeks, months or years.  Its length never depends on the calendar: a
  month has 30 days and a year 365.  A period longer than 999999999 days has no length.

  A signed period moves a date by that length, forth or back, and has no result when the date leaves
  the calendar.
-/
import DateCalc.Calendar.DayNumber

namespace DateCalc

/-! ## Periods -/

/-- What a period counts. -/
inductive CalendarUnit where
  | day
  | week
  | month
  | year
  deriving DecidableEq

namespace CalendarUnit

/-- The length of one unit in days. -/
def days : CalendarUnit → Nat
  | day => 1
  | week => 7
  | month => 30
  | year => 365

/-- The name of one unit. -/
def name : CalendarUnit → String
  | day => "day"
  | week => "week"
  | month => "month"
  | year => "year"

/-- All units, shortest first. -/
def all : List CalendarUnit := [day, week, month, year]

end CalendarUnit

/-- A count of one unit. -/
structure Period where
  unit : CalendarUnit
  count : Nat
  deriving DecidableEq

namespace Period

/-- The longest length of a period in days. -/
def longest : Nat := 999999999

/-- The length of a period in days, unless it is longer than any period may be. -/
def days? (p : Period) : Option Nat :=
  let days := p.unit.days * p.count
  if days ≤ longest then some days else none

/-- The count and the unit, in the plural unless the count is one. -/
def chars (p : Period) : List Char :=
  Text.decimal p.count ++ ' ' :: (p.unit.name.toList ++ if p.count = 1 then [] else ['s'])

/-- The count and the unit, in the plural unless the count is one. -/
def text (p : Period) : String := String.ofList p.chars

end Period

/-! ## Signed periods -/

/-- Whether a period is added or subtracted. -/
inductive Sign where
  | plus
  | minus
  deriving DecidableEq

/-- The character that stands for a sign. -/
def Sign.symbol : Sign → Char
  | .plus => '+'
  | .minus => '-'

/-- A period that is added or subtracted. -/
structure Shift where
  sign : Sign
  period : Period
  deriving DecidableEq

namespace Shift

/-- The sign, a space and the period. -/
def chars (s : Shift) : List Char := s.sign.symbol :: ' ' :: s.period.chars

/-- The sign, a space and the period. -/
def text (s : Shift) : String := String.ofList s.chars

/-- The days that a shift adds, negative when it subtracts. -/
def days? (s : Shift) : Option Int :=
  s.period.days?.map fun n =>
    match s.sign with
    | .plus => (n : Int)
    | .minus => -(n : Int)

/-- The date a shift leads to, unless it leaves the calendar. -/
def move? (s : Shift) (d : Date) : Option Date := s.days?.bind d.shift?

/-- The date that shifts lead to one after the other, unless one of them leaves the calendar. -/
def moveAll? : List Shift → Date → Option Date
  | [], d => some d
  | s :: more, d => (s.move? d).bind (moveAll? more)

end Shift

example : (Period.mk .week 1).text = "1 week" := by decide
example : (Shift.mk .minus ⟨.day, 0⟩).text = "- 0 days" := by decide
example : (Period.mk .week 142857143).days? = none := by decide

end DateCalc
