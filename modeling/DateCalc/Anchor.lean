/-
  Anchors.

  An anchor is the day that an expression starts from: a day named relative to the reference date,
  or a date of its own.
-/
import DateCalc.Period

namespace DateCalc

/-- The day an expression is measured from. -/
inductive Anchor where
  | today
  | yesterday
  | tomorrow
  | literal (date : Date)
  deriving DecidableEq

namespace Anchor

/-- The day an anchor stands for, unless that lies outside the calendar. -/
def resolve? (today : Date) : Anchor → Option Date
  | .today => some today
  | .yesterday => today.shift? (-1)
  | .tomorrow => today.shift? 1
  | .literal date => some date

/-- The word for the kind of an anchor. -/
def kind : Anchor → String
  | .today => "today"
  | .yesterday => "yesterday"
  | .tomorrow => "tomorrow"
  | .literal _ => "literal"

/-- The keyword of an anchor, or its date. -/
def chars : Anchor → List Char
  | .literal date => date.isoChars
  | a => a.kind.toList

/-- The keyword of an anchor, or its date. -/
def text (a : Anchor) : String := String.ofList a.chars

end Anchor

end DateCalc
