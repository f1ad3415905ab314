/-
  The grammar of expressions.

  Five alternatives, of which the first that matches decides:

    anchor shift+
    anchor blank* - blank* anchor
    relative
    anchor
    period shift*

  Shifts come before differences, so that a date less a period is a subtraction; differences come
  before lone anchors, which would leave the second date unread.
-/
import DateCalc.Grammar.Sentence

namespace DateCalc.Grammar

open Rule Token

/-! ## The alternatives -/

/-- An anchor and one or more shifts. -/
def anchorWithShifts (reference : Date) : Rule Expression := do
  let a ← anchor reference
  let first ← shift
  let more ← shifts
  return .shifted a first more

/-- Two anchors with a hyphen between them. -/
def difference (reference : Date) : Rule Expression := do
  let start ← anchor reference
  space0
  tag "-"
  space0
  let finish ← anchor reference
  return .difference start finish

/-- A sentence with its trailing phrase. -/
def relativeExpression (reference : Date) : Rule Expression := do
  let r ← relative reference
  return .shifted r.anchor r.first r.more

/-- An anchor alone. -/
def loneAnchor (reference : Date) : Rule Expression := do
  let a ← anchor reference
  return .anchor a

/-- A period and any number of shifts. -/
def periodChain : Rule Expression := do
  let base ← period
  let more ← shifts
  return .chain base more

/-- The alternatives, in the order in which they are tried. -/
def expressionForms (reference : Date) : List (String × Rule Expression) :=
  [("anchor with operations", anchorWithShifts reference),
   ("date difference", difference reference),
   ("relative expression", relativeExpression reference),
   ("anchor", loneAnchor reference),
   ("period chain", periodChain)]

/-- An expression at the front of a text. -/
def expression (reference : Date) : Rule Expression := firstMatch (expressionForms reference)

/-- A text read as an expression.  The reference date gives the year to dates without one. -/
def parseExpression (reference : Date) (text : List Char) : Parsed Expression :=
  (expression reference).parse text

end DateCalc.Grammar
