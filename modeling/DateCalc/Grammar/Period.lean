/-
  The grammar of periods.

    quantity  ::=  digits  |  one | two | … | twelve
    period    ::=  quantity blank+ (day | week | month | year) s?
    shift     ::=  blank* (+ | -) blank* period

  A run of shifts ends before the blanks of the first one that does not match.
-/
import DateCalc.Grammar.Token
import DateCalc.Period

namespace DateCalc.Grammar

open Rule Token

/-- The numbers that may be written as words. -/
def quantityWords : List (String × Nat) :=
  [("one", 1), ("two", 2), ("three", 3), ("four", 4), ("five", 5), ("six", 6), ("seven", 7),
   ("eight", 8), ("nine", 9), ("ten", 10), ("eleven", 11), ("twelve", 12)]

/-- A count, in digits or as a word. -/
def quantity : Rule Nat := digits.orElse (oneOf quantityWords .quantity)

/-- The letter of the plural, if it is there. -/
def pluralMark : Rule Unit := fun s =>
  match s with
  | 's' :: rest => .ok ((), rest)
  | _ => .ok ((), s)

/-- The names of the units. -/
def unitWords : List (String × CalendarUnit) := CalendarUnit.all.map fun u => (u.name, u)

/-- A unit, in the singular or the plural. -/
def unit : Rule CalendarUnit := do
  let u ← oneOf unitWords .unit
  pluralMark
  return u

/-- A count and a unit with blanks between them. -/
def period : Rule Period := do
  let count ← quantity
  space1
  let u ← unit
  return ⟨u, count⟩

/-- A sign at the very front of the text. -/
def sign : Rule Sign := fun s =>
  match s with
  | '+' :: rest => .ok (.plus, rest)
  | '-' :: rest => .ok (.minus, rest)
  | _ => .error ⟨s, .sign, none⟩

/-- A sign and a period, with blanks allowed before either. -/
def shift : Rule Shift := do
  space0
  let sg ← sign
  space0
  let p ← period
  return ⟨sg, p⟩

/-- Shifts, as many as follow. -/
def shifts : Rule (List Shift) := many shift

end DateCalc.Grammar
