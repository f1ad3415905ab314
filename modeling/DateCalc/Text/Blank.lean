/-
  Blank characters and trimming.

  The blanks are the white space of Unicode together with the four separator controls U+001C to
  U+001F.  The zero-width characters (U+180E, U+200B, U+FEFF) are not blank.  Text is handled as a
  list of characters here, because every rule of the grammar reads a list from its front.
-/

namespace DateCalc.Text

/-! ## The blank characters -/

/-- White space of Unicode, and the separator controls U+001C to U+001F. -/
def isBlank (c : Char) : Bool :=
  let n := c.toNat
  (0x09 ≤ n && n ≤ 0x0D) || (0x1C ≤ n && n ≤ 0x20) || n == 0x85 || n == 0xA0 || n == 0x1680 ||
    (0x2000 ≤ n && n ≤ 0x200A) || n == 0x2028 || n == 0x2029 || n == 0x202F || n == 0x205F ||
    n == 0x3000

/-- Only blanks, or nothing at all. -/
def allBlank (s : List Char) : Bool := s.all isBlank

/-! ## Trimming -/

/-- The text without its leading blanks. -/
def trimStart (s : List Char) : List Char := s.dropWhile isBlank

/-- The text without its trailing blanks. -/
def trimEnd (s : List Char) : List Char := (s.reverse.dropWhile isBlank).reverse

/-- The text without the blanks at either end. -/
def trim (s : List Char) : List Char := trimEnd (trimStart s)

theorem takeWhile_append_trimStart (s : List Char) : s.takeWhile isBlank ++ trimStart s = s :=
  List.takeWhile_append_dropWhile

/-- Blanks at the start are trimmed off with all others there. -/
theorem trimStart_append_of_allBlank {u : List Char} (hu : allBlank u = true) (s : List Char) :
    trimStart (u ++ s) = trimStart s := by
  induction u with
  | nil => rfl
  | cons c u ih =>
    simp only [allBlank, List.all_cons, Bool.and_eq_true] at hu
    simp only [trimStart, List.cons_append, List.dropWhile_cons, hu.1, if_true]
    exact ih hu.2

example : isBlank (Char.ofNat 0x3000) = true ∧ isBlank (Char.ofNat 0x200B) = false := by decide
example : trim "  two words ".toList = "two words".toList := by decide

end DateCalc.Text
