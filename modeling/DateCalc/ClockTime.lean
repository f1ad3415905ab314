/-
  Times of day.

  A time of day is an hour of 24, a minute and a second.  On a 12-hour clock the hour is 1 to 12,
  and it takes a.m. or p.m. to tell which half of the day is meant: 12 a.m. is midnight and 12 p.m.
  is noon.
-/
import DateCalc.Text.Decimal

namespace DateCalc

/-! ## The two halves of the day -/

/-- Before or after noon. -/
inductive Meridiem where
  | am
  | pm
  deriving DecidableEq

/-- The hour of 24 that a clock hour stands for. -/
def Meridiem.hour24 (hour : Nat) : Meridiem → Nat
  | .am => if hour = 12 then 0 else hour
  | .pm => if hour = 12 then hour else hour + 12

/-! ## Times -/

/-- A number between two bounds. -/
abbrev Bounded (low high : Nat) : Type := { n : Nat // low ≤ n ∧ n ≤ high }

/-- A time of day, to the second. -/
structure ClockTime where
  hour : Bounded 0 23
  minute : Bounded 0 59
  second : Bounded 0 59
  deriving DecidableEq

/-- The hour of 24 for an hour of a 12-hour clock. -/
def Meridiem.hourOf (m : Meridiem) (hour : Bounded 1 12) : Bounded 0 23 :=
  ⟨m.hour24 hour.val, Nat.zero_le _, by
    have h := hour.property
    unfold hour24
    split <;> split <;> omega⟩

/-- Hour, minute and second, each in two digits, with colons between them. -/
def ClockTime.isoText (t : ClockTime) : String :=
  String.ofList (Text.paddedDecimal 2 t.hour.val ++ ':' ::
    (Text.paddedDecimal 2 t.minute.val ++ ':' :: Text.paddedDecimal 2 t.second.val))

example : Meridiem.am.hour24 12 = 0 ∧ Meridiem.pm.hour24 12 = 12 := by decide
example : Meridiem.pm.hour24 3 = 15 := by decide

end DateCalc
