/-
  Decimal numbers.

  Numbers are written without a sign, a point or grouping, with as many digits as they need, or
  padded with zeros to a width.  Only the ten ASCII digits are digits.  Reading what was written
  gives the number back, padded or not.
-/
import DateCalc.Text.Quoted

namespace DateCalc.Text

/-! ## Writing and reading -/

/-- The digits of a number, without leading zeros. -/
def decimal (n : Nat) : List Char := Nat.toDigits 10 n

/-- The digits of a number, padded with zeros to a width. -/
def paddedDecimal (width n : Nat) : List Char := padLeft width '0' (decimal n)

/-- The longest run of digits that is still read as a number. -/
def longestNumber : Nat := 4300

/-- What is said about a longer one. -/
def longNumberMessage (digits : Nat) : String :=
  "Exceeds the limit (" ++ String.ofList (decimal longestNumber) ++
    " digits) for integer string conversion: value has " ++ String.ofList (decimal digits) ++
    " digits; use sys.set_int_max_str_digits() to increase the limit"

/-- The number that a run of digits denotes, most significant digit first. -/
def decimalValue (ds : List Char) : Nat := Nat.ofDigitChars 10 ds 0

/-- The digits of an integer, with a minus sign before them when it is negative. -/
def signedDecimal : Int → List Char
  | .ofNat n => decimal n
  | .negSucc n => '-' :: decimal (n + 1)

/-! ## Reading back -/

theorem decimalValue_decimal (n : Nat) : decimalValue (decimal n) = n :=
  Nat.ofDigitChars_ten_toDigits

theorem isDigit_of_mem_decimal {n : Nat} {c : Char} (h : c ∈ decimal n) : c.isDigit = true :=
  Nat.isDigit_of_mem_toDigits (by decide) (by decide) h

theorem decimal_ne_nil (n : Nat) : decimal n ≠ [] := Nat.toDigits_ne_nil

theorem decimalValue_paddedDecimal (width n : Nat) :
    decimalValue (paddedDecimal width n) = n := by
  simp [decimalValue, paddedDecimal, padLeft, decimal, Nat.ofDigitChars_append]

example : paddedDecimal 4 987 = "0987".toList := by decide

end DateCalc.Text
