/-
  Rules of the grammar.

  A rule reads a value from the front of a text and gives it with what is left, or reports a
  mismatch.  Rules see nothing but the text from their start on, so where that start lies in a
  larger text never matters to them.

  Rules are combined in sequence (the monad), by ordered choice, where the first alternative that
  matches decides, and by repetition, which goes on as long as its rule matches and makes progress.
  When every alternative fails, the mismatch that got furthest is reported under the name of its
  alternative, the earlier one when two got equally far.
-/
import DateCalc.Grammar.Mismatch

namespace DateCalc

/-- Reads a value from the front of a text: the value and the rest, or a mismatch. -/
def Rule (α : Type) : Type := List Char → Except Mismatch (α × List Char)

namespace Rule

variable {α β : Type}

/-! ## Sequence -/

instance : Monad Rule where
  pure a s := .ok (a, s)
  bind r f s :=
    match r s with
    | .ok (a, rest) => f a rest
    | .error m => .error m

/-- Matches nowhere. -/
def fail (expected : Expected) : Rule α := fun s => .error ⟨s, expected, none⟩

/-- The same rule, reporting its mismatches at its start for another cause. -/
def expecting (expected : Expected) (r : Rule α) : Rule α := fun s =>
  match r s with
  | .ok result => .ok result
  | .error _ => .error ⟨s, expected, none⟩

theorem pure_apply (a : α) (s : List Char) : (pure a : Rule α) s = .ok (a, s) := rfl

theorem bind_of_ok {r : Rule α} {f : α → Rule β} {s rest : List Char} {a : α}
    (h : r s = .ok (a, rest)) : (r >>= f) s = f a rest := by
  simp only [bind, h]

theorem bind_of_error {r : Rule α} {f : α → Rule β} {s : List Char} {m : Mismatch}
    (h : r s = .error m) : (r >>= f) s = .error m := by
  simp only [bind, h]

/-! ## Choice -/

/-- The first rule, and where that fails the second from the same place, whose mismatch counts. -/
def orElse (p q : Rule α) : Rule α := fun s =>
  match p s with
  | .ok result => .ok result
  | .error _ => q s

/-- The first rule, and where that fails the second from the same place; when both fail, the
mismatch that got further. -/
def orDeeper (p q : Rule α) : Rule α := fun s =>
  match p s with
  | .ok result => .ok result
  | .error m =>
    match q s with
    | .ok result => .ok result
    | .error m' => .error (m.deeper m')

/-- The same rule, its mismatches reported under a name. -/
def named (name : String) (r : Rule α) : Rule α := fun s =>
  match r s with
  | .ok result => .ok result
  | .error m => .error ⟨m.rest, m.expected, some name⟩

/-- The alternatives in order: the first that matches decides. -/
def firstMatch : List (String × Rule α) → Rule α
  | [] => fail .input
  | [(name, r)] => r.named name
  | (name, r) :: next :: more => (r.named name).orDeeper (firstMatch (next :: more))

/-! ## Repetition -/

/-- The values of a rule matched again and again, and the rest before its first failure or its first
match that consumes nothing. -/
def repeated (r : Rule α) (s : List Char) : List α × List Char :=
  match r s with
  | .ok (a, rest) =>
    if rest.length < s.length then
      let (as, last) := repeated r rest
      (a :: as, last)
    else
      ([], s)
  | .error _ => ([], s)
termination_by s.length

/-- A rule matched as often as possible, which always succeeds. -/
def many (r : Rule α) : Rule (List α) := fun s => .ok (repeated r s)

end Rule

/-! ## Reading a text -/

/-- What came of reading a text: all of it was consumed, something was left over, or no rule
matched. -/
inductive Parsed (α : Type) where
  | full (value : α)
  | leaving (value : α) (remaining : List Char)
  | failed (failure : Failure)
  deriving DecidableEq

namespace Rule

variable {α : Type}

/-- A rule applied to a whole text, with the outcome classified. -/
def parse (r : Rule α) (text : List Char) : Parsed α :=
  match r text with
  | .ok (a, []) => .full a
  | .ok (a, c :: rest) => .leaving a (c :: rest)
  | .error m => .failed (m.inText text)

/-- A rule applied at a position of a text: the value and the position where it ends, or the report
of its mismatch. -/
def parseAt (r : Rule α) (text : List Char) (position : Nat) : Except Failure (α × Nat) :=
  match r (text.drop position) with
  | .ok (a, rest) => .ok (a, text.length - rest.length)
  | .error m => .error (m.inText text)

end Rule

end DateCalc
