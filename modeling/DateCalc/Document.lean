/-
  Expressions, outcomes and failures as document values.

  A document names the shape of an expression and lists its parts; an operation holds its sign, unit
  and count side by side.
-/
import DateCalc.Outcome
import DateCalc.ClockTime
import DateCalc.Grammar.Mismatch
import DateCalc.Value.Basic

namespace DateCalc

/-- Unit and count. -/
def Period.fields (p : Period) : Fields := [("unit", .str p.unit.name), ("count", .nat p.count)]

/-- Unit and count. -/
def Period.value (p : Period) : Value := .object p.fields

/-- Sign, unit and count. -/
def Shift.value (s : Shift) : Value :=
  .object (("sign", .str s.sign.symbol.toString) :: s.period.fields)

/-- The kind of an anchor, and its date if it has one of its own. -/
def Anchor.value : Anchor → Value
  | .literal date => .object [("kind", .str "literal"), ("date", .str date.isoText)]
  | a => .object [("kind", .str a.kind)]

/-- The shape of an expression and its parts. -/
def Expression.value : Expression → Value
  | .anchor a => .object [("shape", .str "anchor"), ("anchor", a.value)]
  | .shifted a first more =>
    .object
      [("shape", .str "anchor_with_operations"), ("anchor", a.value),
       ("operations", .list ((first :: more).map Shift.value))]
  | .difference start finish =>
    .object [("shape", .str "difference"), ("start", start.value), ("end", finish.value)]
  | .chain base shifts =>
    .object
      [("shape", .str "period_chain"), ("base", base.value),
       ("operations", .list (shifts.map Shift.value))]

/-- The kind of an outcome and its value. -/
def Outcome.fields : Outcome → Fields
  | .date d => [("kind", .str "date"), ("date", .str d.isoText)]
  | .difference days => [("kind", .str "difference"), ("days", .nat days)]

/-- Where reading stopped, what was left, what was expected and by which alternative. -/
def Failure.fields (f : Failure) : Fields :=
  [("position", .nat f.position), ("remaining", .str f.remaining), ("expected", .str f.expected),
   ("rule", .ofText? f.rule)]

end DateCalc
