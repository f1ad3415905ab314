/-
  Quoted text.

  A message shows a text between quote marks: between apostrophes, unless the text holds an
  apostrophe and no double quote, in which case between double quotes.  A backslash and the
  enclosing mark are written with a backslash before them, the newline, the carriage return and the
  tab by their letter, and every other character that is not printable by its hexadecimal number in
  the shortest of the forms \xhh, \uhhhh and \Uhhhhhhhh.
-/
import DateCalc.Text.Printable

namespace DateCalc.Text

/-! ## Hexadecimal numbers -/

/-- The text with copies of a character before it, up to the given width. -/
def padLeft (width : Nat) (fill : Char) (s : List Char) : List Char :=
  List.replicate (width - s.length) fill ++ s

/-- A number in lower-case hexadecimal, padded with zeros. -/
def hexadecimal (width n : Nat) : List Char := padLeft width '0' (Nat.toDigits 16 n)

/-! ## Quoting -/

/-- The mark that encloses a text. -/
def quoteMark (s : List Char) : Char :=
  if s.contains '\x27' && !s.contains '"' then '"' else '\x27'

/-- One character as it stands between two quote marks. -/
def escaped (mark c : Char) : List Char :=
  if c = mark || c = '\\' then ['\\', c]
  else if c = '\n' then ['\\', 'n']
  else if c = '\r' then ['\\', 'r']
  else if c = '\t' then ['\\', 't']
  else if isPrintable c then [c]
  else if c.toNat < 0x100 then '\\' :: 'x' :: hexadecimal 2 c.toNat
  else if c.toNat < 0x10000 then '\\' :: 'u' :: hexadecimal 4 c.toNat
  else '\\' :: 'U' :: hexadecimal 8 c.toNat

/-- A text between quote marks, with what must not stand for itself escaped. -/
def quotedChars (s : List Char) : List Char :=
  let mark := quoteMark s
  mark :: (s.flatMap (escaped mark) ++ [mark])

/-- A text between quote marks, with what must not stand for itself escaped. -/
def quoted (s : String) : String := String.ofList (quotedChars s.toList)

example : quotedChars "day".toList = "'day'".toList := by decide
example : quotedChars "it's".toList = "\"it's\"".toList := by decide
example : quotedChars ['a', '\t', Char.ofNat 1] = "'a\\t\\x01'".toList := by decide

end DateCalc.Text
