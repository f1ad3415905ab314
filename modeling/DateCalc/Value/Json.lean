/-
  Values as JSON text.

  Objects and lists take one line for each element, indented by two spaces for each level, and their
  brackets stand alone on one line when there is no element.  Strings escape only what JSON forbids.
-/
import DateCalc.Value.Basic

namespace DateCalc.Value

/-! ## Strings and numbers -/

/-- One character of a string. -/
def jsonEscaped (c : Char) : List Char :=
  if c = '"' then ['\\', '"']
  else if c = '\\' then ['\\', '\\']
  else if c = '\n' then ['\\', 'n']
  else if c = '\r' then ['\\', 'r']
  else if c = '\t' then ['\\', 't']
  else if c.toNat = 8 then ['\\', 'b']
  else if c.toNat = 12 then ['\\', 'f']
  else if c.toNat < 0x20 then '\\' :: 'u' :: Text.hexadecimal 4 c.toNat
  else [c]

/-- A string between double quotes. -/
def jsonString (s : String) : String :=
  String.ofList ('"' :: (s.toList.flatMap jsonEscaped ++ ['"']))

/-- Positional from four zeros after the point up to sixteen places before it; the exponent has a
sign but no leading zeros, and what is not finite is null. -/
def jsonFloat : Text.FloatLayout where
  lowestPoint := -4
  highestPoint := 16
  exponentWidth := 1
  plusSign := true
  infinite := "null"
  negativeInfinite := "null"
  undefined := "null"

/-! ## Values -/

/-- Elements between two brackets, each on a line of its own at a depth. -/
def bracketed (opening closing : String) (depth : Nat) (elements : List String) : String :=
  if elements.isEmpty then opening ++ closing
  else
    let indent := String.ofList (List.replicate (2 * (depth + 1)) ' ')
    let outdent := String.ofList (List.replicate (2 * depth) ' ')
    opening ++ "\n" ++ ",\n".intercalate (elements.map (indent ++ ·)) ++ "\n" ++ outdent ++ closing

mutual

/-- A value at a depth. -/
def jsonAt (depth : Nat) : Value → String
  | null => "null"
  | bool true => "true"
  | bool false => "false"
  | int n => String.ofList (Text.signedDecimal n)
  | float x => Text.floatText jsonFloat x
  | str s => jsonString s
  | moment written => jsonString written
  | list items => bracketed "[" "]" depth (jsonItems (depth + 1) items)
  | object fields => bracketed "\x7b" "\x7d" depth (jsonFields (depth + 1) fields)

/-- The items of a list at a depth. -/
def jsonItems (depth : Nat) : List Value → List String
  | [] => []
  | v :: more => jsonAt depth v :: jsonItems depth more

/-- The fields of an object at a depth. -/
def jsonFields (depth : Nat) : List (String × Value) → List String
  | [] => []
  | (key, v) :: more =>
    (jsonString key ++ ": " ++ jsonAt depth v) :: jsonFields depth more

end

/-- A value as a text of JSON. -/
def json (v : Value) : String := jsonAt 0 v

end DateCalc.Value
