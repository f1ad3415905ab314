/-
  Sets of characters.

  A property of characters that follows no rule is given by a table: the code points that have it,
  as closed intervals in increasing order.
-/

namespace DateCalc.Text

/-- A set of characters, as closed intervals of code points in increasing order. -/
abbrev CharRanges : Type := List (Nat × Nat)

/-- The character lies in one of the intervals. -/
def CharRanges.covers (ranges : CharRanges) (c : Char) : Bool :=
  ranges.any fun (low, high) => low ≤ c.toNat && c.toNat ≤ high

example : CharRanges.covers [(0x30, 0x39), (0x41, 0x5a)] 'Q' = true := by decide
example : CharRanges.covers [(0x30, 0x39), (0x41, 0x5a)] 'q' = false := by decide

end DateCalc.Text
