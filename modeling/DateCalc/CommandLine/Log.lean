/-
  The log.

  On request a calculation is accompanied by notes on what was read and what came of it.  A note is
  one line, for a person or as a JSON object; as an object it holds ASCII characters only.
-/
import DateCalc.Calculator
import DateCalc.CommandLine.Help
import DateCalc.Value.Json

namespace DateCalc.CommandLine

/-- A note, and the part of the program that makes it. -/
structure Note where
  source : String
  message : String
  deriving DecidableEq

/-! ## Lines -/

/-- The UTF-16 code units of a character. -/
def codeUnits (c : Char) : List Nat :=
  let n := c.toNat
  if n < 0x10000 then [n] else [0xD800 + (n - 0x10000) / 0x400, 0xDC00 + (n - 0x10000) % 0x400]

/-- One character of a JSON string that is all ASCII. -/
def asciiEscaped (c : Char) : List Char :=
  if c.toNat < 0x7F then Value.jsonEscaped c
  else (codeUnits c).flatMap fun u => '\\' :: 'u' :: Text.hexadecimal 4 u

/-- A JSON string that is all ASCII. -/
def asciiString (s : String) : String :=
  String.ofList ('"' :: (s.toList.flatMap asciiEscaped ++ ['"']))

example : asciiEscaped 'é' = "\\u00e9".toList := by decide
example : asciiEscaped (Char.ofNat 0x1F600) = "\\ud83d\\ude00".toList := by decide

namespace Note

/-- The width that messages are brought to for a person, so that the sources stand in line. -/
def messageWidth : Nat := 30

/-- A note for a person, with the time at which it is made. -/
def consoleLine (stamp : String) (n : Note) : String :=
  stamp ++ " [debug    ] " ++ padRight messageWidth n.message ++ " [" ++ n.source ++ "]"

/-- A note as an object, with the time at which it is made. -/
def jsonLine (stamp : String) (n : Note) : String :=
  let fields := [("event", n.message), ("level", "debug"), ("logger", n.source),
    ("timestamp", stamp)]
  "\x7b" ++ ", ".intercalate (fields.map fun (k, v) => asciiString k ++ ": " ++ asciiString v) ++
    "\x7d"

/-- A note as a line of the log. -/
def line (json : Bool) (stamp : String) (n : Note) : String :=
  if json then n.jsonLine stamp else n.consoleLine stamp

end Note

end DateCalc.CommandLine

/-! ## Notes on an answer -/

namespace DateCalc.Conditions

open DateCalc.CommandLine

/-- The source of notes on calculations. -/
def calculatorSource : String := "datemath.services.calculator"

/-- The source of notes on the reference date. -/
def referenceSource : String := "datemath.services._helpers"

/-- A text in a note. -/
def noted (text : List Char) : String := Text.quoted (String.ofList text)

/-- The note on a reference date that could not be read. -/
def referenceNotes (c : Conditions) : List Note :=
  match c.reference.ignored with
  | some (override, failure) =>
    [⟨referenceSource,
      "Ignoring unparseable reference date " ++ Text.quoted override ++ ": " ++ failure.message⟩]
  | none => []

/-- The notes on a date expression: on the reference date, and on the value or on why the text
could not be read. -/
def calculateNotes (c : Conditions) (text : List Char) : List Note :=
  c.referenceNotes ++
    match c.calculate text with
    | .value calculation _ =>
      [⟨calculatorSource,
        "Evaluated " ++ noted text ++ " as " ++ calculation.outcome.text ++ " against " ++
          calculation.reference.isoText⟩]
    | .refused (.unreadable failure) =>
      [⟨calculatorSource, "Parse failed for " ++ noted text ++ ": " ++ failure.message⟩]
    | .refused _ => []

/-- The note on a clock time that could not be read. -/
def clockTimeNotes (c : Conditions) (text : List Char) : List Note :=
  match c.clockTime text with
  | .refused (.unreadable failure) =>
    [⟨calculatorSource, "Time parse failed for " ++ noted text ++ ": " ++ failure.message⟩]
  | _ => []

end DateCalc.Conditions
