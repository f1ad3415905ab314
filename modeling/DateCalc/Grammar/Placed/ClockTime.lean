/-
  The grammar of clock times at a position of a text.

  The rules are those of `Grammar.clockTime`, each started at a position of the whole text.  A time
  without a suffix has to end where the text ends.
-/
import DateCalc.Grammar.Placed.Token
import DateCalc.Grammar.ClockTime

namespace DateCalc.Placed

open PlacedRule

/-! ## Parts of a time -/

/-- A number of so many digits between two bounds. -/
def bounded (part : String) (least most low high : Nat) : PlacedRule (Bounded low high) :=
  fun text position =>
    match figures least most text position with
    | .ok (n, finish) =>
      if h : low ≤ n ∧ n ≤ high then .ok (⟨n, h⟩, finish)
      else .error ⟨text, position, (Expected.between part low high).text, none⟩
    | .error failure => .error failure

/-- An hour of a 12-hour clock: two digits if they are one, else one digit. -/
def hour12 : PlacedRule (Bounded 1 12) := (bounded "hour" 2 2 1 12).orElse (bounded "hour" 1 1 1 12)

/-- A minute. -/
def minute : PlacedRule (Bounded 0 59) := bounded "minute" 2 2 0 59

/-- A second. -/
def second : PlacedRule (Bounded 0 59) := bounded "second" 2 2 0 59

/-- A colon, if it is there. -/
def optionalColon : PlacedRule Unit := optional ":"

/-- The position behind an m in either case, if one stands there. -/
def behindOptionalM (text : List Char) (position : Nat) : Nat :=
  match text[position]? with
  | some 'm' | some 'M' => position + 1
  | _ => position

/-- The letters of a suffix. -/
def suffix : PlacedRule Meridiem := fun text position =>
  match text[position]? with
  | some 'a' | some 'A' => .ok (.am, behindOptionalM text (position + 1))
  | some 'p' | some 'P' => .ok (.pm, behindOptionalM text (position + 1))
  | _ => .error ⟨text, position, Expected.meridiem.text, none⟩

/-- A suffix, with blanks allowed before it. -/
def meridiem : PlacedRule Meridiem := do
  space0
  suffix

/-! ## The forms -/

/-- Zero is among the minutes, and among the seconds. -/
theorem zero_bounds : 0 ≤ 0 ∧ 0 ≤ 59 := ⟨Nat.le_refl 0, Nat.zero_le 59⟩

/-- Hour and minute in four digits. -/
def military : PlacedRule ClockTime := do
  let h ← bounded "hour" 2 2 0 23
  let m ← minute
  return ⟨h, m, ⟨0, zero_bounds⟩⟩

/-- An hour with a suffix. -/
def hourWithSuffix : PlacedRule ClockTime := do
  let h ← hour12
  let half ← meridiem
  return ⟨half.hourOf h, ⟨0, zero_bounds⟩, ⟨0, zero_bounds⟩⟩

/-- An hour and a minute with a suffix. -/
def hourMinuteWithSuffix : PlacedRule ClockTime := do
  let h ← hour12
  optionalColon
  let m ← minute
  let half ← meridiem
  return ⟨half.hourOf h, m, ⟨0, zero_bounds⟩⟩

/-- An hour of 24 and a minute at the end of the text. -/
def hourMinute24 : PlacedRule ClockTime := do
  let h ← bounded "hour" 1 2 0 23
  optionalColon
  let m ← minute
  endOfText
  return ⟨h, m, ⟨0, zero_bounds⟩⟩

/-- An hour, a minute and a second with a suffix. -/
def hourMinuteSecondWithSuffix : PlacedRule ClockTime := do
  let h ← hour12
  tag ":"
  let m ← minute
  tag ":"
  let s ← second
  let half ← meridiem
  return ⟨half.hourOf h, m, s⟩

/-- The forms, in the order in which they are tried. -/
def clockTimeForms : List (String × PlacedRule ClockTime) :=
  [("military time", military),
   ("hour with am/pm", hourWithSuffix),
   ("hour and minute with am/pm", hourMinuteWithSuffix),
   ("24-hour time", hourMinute24),
   ("hour, minute and second with am/pm", hourMinuteSecondWithSuffix)]

/-- A clock time at a position of a text. -/
def clockTime : PlacedRule ClockTime := firstMatch clockTimeForms

end DateCalc.Placed
