/-
  Rules at a position of a text.

  A placed rule is given the whole text and the position at which it starts, gives the position at
  which it ends, and reports the position at which it stopped.  It is free to look at any part of
  the text.  This is how one rule is run by itself, anywhere in a text; a text as a whole is read by
  rules that are given what is left to read (`Rule`).  Both readings are the same, which is proved
  rule by rule and not built in.

  A choice keeps the failure that got furthest so far while it goes through its alternatives, and
  replaces it only by one that got further.
-/
import DateCalc.Grammar.Rule

namespace DateCalc

/-- Reads a value at a position of a text: the value and the position where it ends, or a failure
about the text. -/
def PlacedRule (α : Type) : Type := (text : List Char) → (position : Nat) → Except Failure (α × Nat)

namespace PlacedRule

variable {α : Type}

/-! ## Sequence -/

instance : Monad PlacedRule where
  pure a _ position := .ok (a, position)
  bind p f text position :=
    match p text position with
    | .ok (a, finish) => f a text finish
    | .error failure => .error failure

/-- Matches nowhere. -/
def fail (expected : Expected) : PlacedRule α := fun text position =>
  .error ⟨text, position, expected.text, none⟩

/-! ## Choice -/

/-- The first rule, and where that fails the second from the same position, whose failure counts. -/
def orElse (p q : PlacedRule α) : PlacedRule α := fun text position =>
  match p text position with
  | .ok result => .ok result
  | .error _ => q text position

/-- The failure that got furthest so far, with the name of its alternative, after one more. -/
def further : Option (String × Failure) → String → Failure → String × Failure
  | none, name, failure => (name, failure)
  | some (best, furthest), name, failure =>
    if furthest.position < failure.position then (name, failure) else (best, furthest)

/-- The alternatives that are left to try, with the failure that got furthest so far. -/
def firstMatchFrom (furthest : Option (String × Failure)) :
    List (String × PlacedRule α) → PlacedRule α
  | [], text, position =>
    match furthest with
    | none => .error ⟨text, position, Expected.input.text, none⟩
    | some (name, failure) => .error ⟨text, failure.position, failure.expected, some name⟩
  | (name, p) :: more, text, position =>
    match p text position with
    | .ok result => .ok result
    | .error failure => firstMatchFrom (some (further furthest name failure)) more text position

/-- The alternatives in order: the first that matches decides. -/
def firstMatch (forms : List (String × PlacedRule α)) : PlacedRule α := firstMatchFrom none forms

/-! ## Repetition -/

/-- The values of a rule matched again and again, and the position before its first failure or its
first match that does not move on inside the text. -/
def repeated (p : PlacedRule α) (text : List Char) (position : Nat) : List α × Nat :=
  match p text position with
  | .ok (a, finish) =>
    if position < finish ∧ finish ≤ text.length then
      let (as, last) := repeated p text finish
      (a :: as, last)
    else
      ([], position)
  | .error _ => ([], position)
termination_by text.length - position

/-- A rule matched as often as possible, which always succeeds. -/
def many (p : PlacedRule α) : PlacedRule (List α) := fun text position =>
  .ok (repeated p text position)

/-! ## Whole texts -/

/-- A rule applied at the start of a text, with the outcome classified by where it ended. -/
def parse (p : PlacedRule α) (text : List Char) : Parsed α :=
  match p text 0 with
  | .ok (a, finish) =>
    if finish = text.length then .full a else .leaving a (text.drop finish)
  | .error failure => .failed failure

end PlacedRule

end DateCalc
