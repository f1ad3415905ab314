/-
  Reports.

  A report is an answer in the form in which it is handed out: whether it is a value, the operation
  it answers, the data, the warnings, and the error if there is one.  Reports of other operations
  than the two of the calculator have the same form.
-/
import DateCalc.Calculator
import DateCalc.Document

namespace DateCalc

/-- Why there is no value: a code, a sentence and particulars. -/
structure Problem where
  code : String
  message : String
  detail : Fields

/-- An answer in the form in which it is handed out. -/
structure Report where
  ok : Bool
  op : String
  data : Fields
  warnings : List String
  error : Option Problem
  about : Option Fields

/-! ## Refusals -/

/-- The code, the wording and the particulars of a refusal of a text. -/
def Refusal.problem (text : List Char) : Refusal → Problem
  | unreadable failure =>
    { code := "PARSE_FAILED"
      message := "Could not parse " ++ Text.quoted (String.ofList text) ++ ": " ++ failure.message
      detail := ("input", .str (String.ofList text)) :: failure.fields }
  | leftover remaining =>
    { code := "UNPARSED_INPUT"
      message := "Unparsed input: " ++ Text.quoted (String.ofList remaining)
      detail :=
        [("input", .str (String.ofList text)), ("remaining", .str (String.ofList remaining))] }
  | outOfRange =>
    { code := "OUT_OF_RANGE"
      message :=
        "Result of " ++ Text.quoted (String.ofList text) ++
          " is outside the supported calendar range"
      detail := [("input", .str (String.ofList text))] }

/-! ## Answers -/

/-- The report of an answer of an operation to a text. -/
def Answer.report {α : Type} (op : String) (text : List Char) (data : α → Fields)
    (about : α → Option Fields) : Answer α → Report
  | value a warnings =>
    { ok := true
      op := op
      data := ("input", .str (String.ofList text)) :: data a
      warnings := warnings.map Warning.text
      error := none
      about := about a }
  | refused refusal =>
    { ok := false
      op := op
      data := []
      warnings := []
      error := some (refusal.problem text)
      about := none }

/-- The result of a calculation, its kind and value, and the expression. -/
def Calculation.data (c : Calculation) : Fields :=
  ("result", .str c.outcome.text) :: (c.outcome.fields ++ [("expression", c.expression.value)])

/-- A time as a text and in its parts. -/
def ClockTime.data (t : ClockTime) : Fields :=
  [("result", .str t.isoText), ("hour", .nat t.hour.val), ("minute", .nat t.minute.val),
   ("second", .nat t.second.val)]

namespace Conditions

/-- The report on a date expression. -/
def calculateReport (c : Conditions) (text : List Char) : Report :=
  (c.calculate text).report "calculate" text Calculation.data fun calculation =>
    some [("reference_date", .str calculation.reference.isoText)]

/-- The report on a clock time. -/
def clockTimeReport (c : Conditions) (text : List Char) : Report :=
  (c.clockTime text).report "parse_time" text ClockTime.data fun _ => none

end Conditions

/-! ## As a document -/

/-- The parts of a problem in order. -/
def Problem.value (p : Problem) : Value :=
  .object [("code", .str p.code), ("message", .str p.message), ("detail", .object p.detail)]

/-- The parts of a report in order. -/
def Report.value (r : Report) : Value :=
  .object
    [("ok", .bool r.ok), ("op", .str r.op), ("data", .object r.data),
     ("warnings", .list (r.warnings.map .str)),
     ("error", (r.error.map Problem.value).getD .null),
     ("meta", (r.about.map Value.object).getD .null)]

end DateCalc
