/-
  Reports from documents.

  A document is a report when it says whether it is a value and which operation it answers; all else
  has a default, and fields of other names are passed over.
-/
import DateCalc.Report.Basic
import DateCalc.Value.Check

namespace DateCalc

/-- A problem of a report, or null for none. -/
def Problem.ofValue? (v : Value) : Checked (Option Problem) :=
  match v with
  | .null => .passed none
  | _ =>
    v.checkSection fun fields =>
      (((fields.required "code" Value.checkText).map fun code message detail =>
          some (Problem.mk code message detail)).both
        (fields.required "message" Value.checkText)).both
        (fields.optional "detail" [] Value.checkFields)

/-- The report that a document holds. -/
def Report.ofValue (v : Value) : Checked Report :=
  v.checkSection fun fields =>
    ((((((fields.required "ok" Value.checkBool).map Report.mk).both
        (fields.required "op" Value.checkText)).both
        (fields.optional "data" [] Value.checkFields)).both
        (fields.optional "warnings" [] Value.checkTexts)).both
        (fields.optional "error" none Problem.ofValue?)).both
        (fields.optional "meta" none Value.checkFields?)

end DateCalc
