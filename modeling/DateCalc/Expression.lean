/-
  Expressions.

  An expression denotes a day or a number of days: an anchor alone, an anchor moved by one or more
  shifts, the distance of two anchors, or a period counted from the reference date and moved by any
  number of shifts.
-/
import DateCalc.Anchor

namespace DateCalc

/-- What a text can ask for. -/
inductive Expression where
  | anchor (anchor : Anchor)
  | shifted (anchor : Anchor) (first : Shift) (more : List Shift)
  | difference (start finish : Anchor)
  | chain (base : Period) (shifts : List Shift)
  deriving DecidableEq

/-! ## Canonical text -/

namespace Expression

/-- Shifts, each after a space. -/
def shiftChars (shifts : List Shift) : List Char := shifts.flatMap fun s => ' ' :: s.chars

/-- One way to write an expression. -/
def chars : Expression → List Char
  | anchor a => a.chars
  | shifted a first more => a.chars ++ shiftChars (first :: more)
  | difference start finish => start.chars ++ " - ".toList ++ finish.chars
  | chain base shifts => base.chars ++ shiftChars shifts

end Expression

end DateCalc
