/-
  The grammar of clock times.

  Five forms, of which the first that matches decides:

    HHMM                           hour 0 to 23
    H blank* suffix                hour 1 to 12, in one or two digits
    H :? MM blank* suffix
    H :? MM end-of-text            hour 0 to 23
    H : MM : SS blank* suffix

  A suffix is an a or a p in either case, with an m in either case after it or none.  Minutes and
  seconds have two digits.  A part outside its range is a mismatch at the start of that part.
-/
import DateCalc.Grammar.Date
import DateCalc.ClockTime

namespace DateCalc.Grammar

open Rule Token

/-! ## Parts of a time -/

/-- A number of so many digits between two bounds. -/
def bounded (part : String) (least most low high : Nat) : Rule (Bounded low high) := fun s =>
  match figures least most s with
  | .ok (n, rest) =>
    if h : low ≤ n ∧ n ≤ high then .ok (⟨n, h⟩, rest)
    else .error ⟨s, .between part low high, none⟩
  | .error m => .error m

/-- An hour of a 12-hour clock: two digits if they are one, else one digit. -/
def hour12 : Rule (Bounded 1 12) := (bounded "hour" 2 2 1 12).orElse (bounded "hour" 1 1 1 12)

/-- A minute. -/
def minute : Rule (Bounded 0 59) := bounded "minute" 2 2 0 59

/-- A second. -/
def second : Rule (Bounded 0 59) := bounded "second" 2 2 0 59

/-- A colon, if it is there. -/
def optionalColon : Rule Unit := fun s =>
  match s with
  | ':' :: rest => .ok ((), rest)
  | _ => .ok ((), s)

/-- The rest after an m in either case, if it is there. -/
def afterOptionalM : List Char → List Char
  | 'm' :: rest | 'M' :: rest => rest
  | s => s

/-- The letters of a suffix. -/
def suffix : Rule Meridiem := fun s =>
  match s with
  | 'a' :: rest | 'A' :: rest => .ok (.am, afterOptionalM rest)
  | 'p' :: rest | 'P' :: rest => .ok (.pm, afterOptionalM rest)
  | _ => .error ⟨s, .meridiem, none⟩

/-- A suffix, with blanks allowed before it. -/
def meridiem : Rule Meridiem := do
  space0
  suffix

/-! ## The forms -/

/-- Hour and minute in four digits. -/
def military : Rule ClockTime := do
  let h ← bounded "hour" 2 2 0 23
  let m ← minute
  return ⟨h, m, ⟨0, by decide⟩⟩

/-- An hour with a suffix. -/
def hourWithSuffix : Rule ClockTime := do
  let h ← hour12
  let half ← meridiem
  return ⟨half.hourOf h, ⟨0, by decide⟩, ⟨0, by decide⟩⟩

/-- An hour and a minute with a suffix. -/
def hourMinuteWithSuffix : Rule ClockTime := do
  let h ← hour12
  optionalColon
  let m ← minute
  let half ← meridiem
  return ⟨half.hourOf h, m, ⟨0, by decide⟩⟩

/-- An hour of 24 and a minute at the end of the text. -/
def hourMinute24 : Rule ClockTime := do
  let h ← bounded "hour" 1 2 0 23
  optionalColon
  let m ← minute
  endOfText
  return ⟨h, m, ⟨0, by decide⟩⟩

/-- An hour, a minute and a second with a suffix. -/
def hourMinuteSecondWithSuffix : Rule ClockTime := do
  let h ← hour12
  tag ":"
  let m ← minute
  tag ":"
  let s ← second
  let half ← meridiem
  return ⟨half.hourOf h, m, s⟩

/-- The forms, in the order in which they are tried. -/
def clockTimeForms : List (String × Rule ClockTime) :=
  [("military time", military),
   ("hour with am/pm", hourWithSuffix),
   ("hour and minute with am/pm", hourMinuteWithSuffix),
   ("24-hour time", hourMinute24),
   ("hour, minute and second with am/pm", hourMinuteSecondWithSuffix)]

/-- A clock time at the front of a text. -/
def clockTime : Rule ClockTime := firstMatch clockTimeForms

/-- A text read as a clock time. -/
def parseClockTime (text : List Char) : Parsed ClockTime := clockTime.parse text

end DateCalc.Grammar
