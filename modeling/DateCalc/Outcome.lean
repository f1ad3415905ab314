/-
  What an expression comes to.

  An expression comes to a day, or to a number of days without direction.  Evaluation has one way to
  fail: some date on the way, not only the last one, lies outside the calendar.
-/
import DateCalc.Expression

namespace DateCalc

/-! ## Outcomes -/

/-- A day, or a number of days. -/
inductive Outcome where
  | date (date : Date)
  | difference (days : Nat)
  deriving DecidableEq

namespace Outcome

/-- A number of days, "day" in the plural unless the number is one. -/
def daysText (days : Nat) : String :=
  String.ofList (Text.decimal days) ++ if days = 1 then " day" else " days"

/-- The ISO text of a day, or a number of days. -/
def text : Outcome → String
  | date d => d.isoText
  | difference days => daysText days

/-- The word for the kind of an outcome. -/
def kind : Outcome → String
  | date _ => "date"
  | difference _ => "difference"

end Outcome

/-! ## Evaluation -/

namespace Expression

/-- The outcome of an expression on a given day, unless a date on the way leaves the calendar. -/
def evaluate? (today : Date) : Expression → Option Outcome
  | anchor a => (a.resolve? today).map .date
  | shifted a first more => do
    let start ← a.resolve? today
    let d ← Shift.moveAll? (first :: more) start
    return .date d
  | chain base shifts => do
    let start ← (Shift.mk .plus base).move? today
    let d ← Shift.moveAll? shifts start
    return .date d
  | difference start finish => do
    let a ← start.resolve? today
    let b ← finish.resolve? today
    return .difference (a.distance b)

end Expression

end DateCalc
