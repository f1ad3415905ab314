/-
  Values in running text.

  Where a value is shown to a person, a text stands for itself; inside a list or an object it is
  quoted.  The words for the truth values and for nothing are capitalised, and a number that is not
  an integer always shows a fraction or an exponent.
-/
import DateCalc.Value.Basic

namespace DateCalc.Value

/-! ## Numbers -/

/-- Positional from three zeros after the point up to sixteen places before it; an exponent has a
sign and two digits at least. -/
def shownFloat : Text.FloatLayout where
  lowestPoint := -3
  highestPoint := 16
  exponentWidth := 2
  plusSign := true
  infinite := "inf"
  negativeInfinite := "-inf"
  undefined := "nan"

/-! ## Values -/

mutual

/-- A value as it stands inside a list or an object. -/
def quotedText : Value → String
  | null => "None"
  | bool true => "True"
  | bool false => "False"
  | int n => String.ofList (Text.signedDecimal n)
  | float x => Text.floatText shownFloat x
  | str s => Text.quoted s
  | moment written => written
  | list items => "[" ++ ", ".intercalate (quotedItems items) ++ "]"
  | object fields => "\x7b" ++ ", ".intercalate (quotedFields fields) ++ "\x7d"

/-- The items of a list, each as it stands in it. -/
def quotedItems : List Value → List String
  | [] => []
  | v :: more => quotedText v :: quotedItems more

/-- The fields of an object, each as it stands in it. -/
def quotedFields : List (String × Value) → List String
  | [] => []
  | (key, v) :: more => (Text.quoted key ++ ": " ++ quotedText v) :: quotedFields more

end

/-- A value as it stands on its own. -/
def shown : Value → String
  | str s => s
  | v => v.quotedText

end DateCalc.Value
