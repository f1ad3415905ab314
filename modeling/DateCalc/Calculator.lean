/-
  The calculator.

  A calculation reads a text, decides what to do with input that was left over, and evaluates what
  was read.  It always answers: with a value and warnings, or with one of three refusals.

  Leftover input is a warning; under strict conditions it is a refusal, and then nothing is
  evaluated.  A refusal carries no warnings.
-/
import DateCalc.Grammar.ClockTime
import DateCalc.Grammar.Expression
import DateCalc.Outcome
import DateCalc.Reference

namespace DateCalc

/-! ## Answers -/

/-- What a calculation depends on besides its text. -/
structure Conditions where
  override : Option String
  clock : Date
  strict : Bool

/-- Something that did not stand in the way of an answer. -/
inductive Warning where
  | ignoredReference (override : String) (used : Date)
  | leftover (remaining : List Char)
  deriving DecidableEq

/-- The wording of a warning. -/
def Warning.text : Warning → String
  | ignoredReference override used =>
    "Ignoring unparseable reference date " ++ Text.quoted override ++ "; using " ++ used.isoText
  | leftover remaining => "Unparsed input: '" ++ String.ofList remaining ++ "'"

/-- Why there is no answer. -/
inductive Refusal where
  | unreadable (failure : Failure)
  | leftover (remaining : List Char)
  | outOfRange
  deriving DecidableEq

/-- A value with the warnings that go with it, or a refusal. -/
inductive Answer (α : Type) where
  | value (value : α) (warnings : List Warning)
  | refused (refusal : Refusal)
  deriving DecidableEq

/-! ## Leftover input -/

/-- What was read and the warning about what was left, or why it is refused. -/
def Parsed.accept {α : Type} (strict : Bool) : Parsed α → Except Refusal (α × List Warning)
  | full a => .ok (a, [])
  | leaving a remaining =>
    if strict then .error (.leftover remaining) else .ok (a, [.leftover remaining])
  | failed failure => .error (.unreadable failure)

/-! ## Dates -/

/-- An expression, what it comes to, and the day it was measured from. -/
structure Calculation where
  expression : Expression
  outcome : Outcome
  reference : Date
  deriving DecidableEq

namespace Conditions

/-- The reference date under these conditions. -/
def reference (c : Conditions) : Reference := Reference.resolve c.override c.clock

/-- The warning about a reference date that could not be read. -/
def referenceWarnings (c : Conditions) : List Warning :=
  match c.reference.ignored with
  | some (override, _) => [.ignoredReference override c.reference.date]
  | none => []

/-- A text read as an expression under these conditions. -/
def read (c : Conditions) (text : List Char) : Parsed Expression :=
  Grammar.parseExpression c.reference.date text

/-- The answer to a date expression. -/
def calculate (c : Conditions) (text : List Char) : Answer Calculation :=
  match (c.read text).accept c.strict with
  | .error refusal => .refused refusal
  | .ok (expression, leftover) =>
    match expression.evaluate? c.reference.date with
    | none => .refused .outOfRange
    | some outcome =>
      .value ⟨expression, outcome, c.reference.date⟩ (c.referenceWarnings ++ leftover)

/-! ## Times of day -/

/-- The answer to a clock time. -/
def clockTime (c : Conditions) (text : List Char) : Answer ClockTime :=
  match (Grammar.parseClockTime text).accept c.strict with
  | .error refusal => .refused refusal
  | .ok (time, leftover) => .value time leftover

end Conditions

end DateCalc
