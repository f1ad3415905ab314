/-
  The reference date.

  Everything is measured from one day.  It is the day of the clock unless another one is set, and
  what is set must be a literal date; blanks alone count as not set.  A text that is no date does
  not stop a calculation: the clock is used, and the reading says why.
-/
import DateCalc.Grammar.Date

namespace DateCalc

/-- The reference date, and the text that was set for it but could not be read, if there is one. -/
structure Reference where
  date : Date
  ignored : Option (String × Failure)

namespace Reference

/-- The reference date for a text that may be set for it and the day of the clock, which gives the
year to dates without one. -/
def resolve (override : Option String) (clock : Date) : Reference :=
  match override with
  | none => ⟨clock, none⟩
  | some text =>
    if Text.allBlank text.toList then ⟨clock, none⟩
    else
      match Grammar.literalDate clock (Text.trim text.toList) with
      | .ok date => ⟨date, none⟩
      | .error failure => ⟨clock, some (text, failure)⟩

end Reference

end DateCalc
