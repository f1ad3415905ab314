/-
  What a rule reports when it does not match.

  A mismatch keeps what was left to read at the place where matching stopped, so the shorter the
  rest, the further the rule got.  No position is stored: it is the length of the whole text less
  the length of the rest, and only a failure, the report about a whole text, counts it out.
-/
import DateCalc.Text.Decimal

namespace DateCalc

/-! ## Causes -/

/-- What a rule wanted at the place where it stopped. -/
inductive Expected where
  | input
  | endOfInput
  | whitespace
  | word (word : String)
  | digits
  | shorterNumber
  | quantity
  | unit
  | sign
  | validDate
  | date
  | anotherListed
  | trailer
  | meridiem
  | between (part : String) (low high : Nat)
  deriving DecidableEq

/-- The wording of a cause. -/
def Expected.text : Expected → String
  | input => "input"
  | endOfInput => "end of input"
  | whitespace => "whitespace"
  | word w => Text.quoted w
  | digits => "digits"
  | shorterNumber => "a shorter number"
  | quantity => "quantity"
  | unit => "day, week, month or year"
  | sign => "'+' or '-'"
  | validDate => "a valid calendar date"
  | date => "a date"
  | anotherListed => "another comma-separated period"
  | trailer => "'ago', 'from', 'after' or 'before'"
  | meridiem => "am or pm"
  | between part low high =>
    part ++ " between " ++ String.ofList (Text.decimal low) ++ " and " ++
      String.ofList (Text.decimal high)

/-- A rule stopped before this rest, for this cause; the rule is named when it was one of several
alternatives. -/
structure Mismatch where
  rest : List Char
  expected : Expected
  rule : Option String
  deriving DecidableEq

namespace Mismatch

/-- The one that got further into the text; the first of two that got equally far. -/
def deeper (a b : Mismatch) : Mismatch := if b.rest.length < a.rest.length then b else a

end Mismatch

/-! ## Reports about a whole text -/

/-- A text could not be read: where, what was wanted there, and by which alternative. -/
structure Failure where
  text : List Char
  position : Nat
  expected : String
  rule : Option String
  deriving DecidableEq

/-- The report of a mismatch in a text. -/
def Mismatch.inText (text : List Char) (m : Mismatch) : Failure where
  text := text
  position := text.length - m.rest.length
  expected := m.expected.text
  rule := m.rule

namespace Failure

/-- What was left to read. -/
def remaining (f : Failure) : String := String.ofList (f.text.drop f.position)

/-- One line that says what was expected, where, and by which alternative if that has a name. -/
def message (f : Failure) : String :=
  let named := match f.rule with
    | some name => if name = "" then "" else name ++ ": "
    | none => ""
  let found := if f.remaining = "" then "end of input" else Text.quoted f.remaining
  named ++ "expected " ++ f.expected ++ " at position " ++
    String.ofList (Text.decimal f.position) ++ " (" ++ found ++ ")"

end Failure

end DateCalc
