/-
  Lines of a fixed width.

  Text that goes to a console loses its control characters, has its tabs expanded to columns of
  eight and is broken at blanks so that no line takes more cells than the console is wide.  A word
  that takes more than that is cut into pieces of the full width.  Only blanks at the end of a
  line are ever lost, where they would stand beyond its width.
-/
import DateCalc.Text.Blank
import DateCalc.Text.Cells

namespace DateCalc.Text

/-! ## Lines -/

/-- The parts of a text between the occurrences of a character. -/
def splitAt (separator : Char) : List Char → List (List Char)
  | [] => [[]]
  | c :: s =>
    if c = separator then [] :: splitAt separator s
    else
      match splitAt separator s with
      | [] => [[c]]
      | line :: more => (c :: line) :: more

/-- The control characters that a console acts on instead of showing them. -/
def isConsoleControl (c : Char) : Bool :=
  let n := c.toNat
  n == 7 || n == 8 || n == 11 || n == 12 || n == 13

/-- The part of a line up to a tab, with spaces for the tab up to the next multiple of eight. -/
def tabbed (part : List Char) : List Char :=
  let spaced := part ++ [' ']
  spaced ++ List.replicate ((8 - cells spaced % 8) % 8) ' '

/-- A line with spaces in place of its tabs.  Every part begins at a multiple of eight, so that its
own width alone decides how many spaces follow it. -/
def expandTabs (line : List Char) : List Char :=
  let parts := splitAt '\t' line
  parts.dropLast.flatMap tabbed ++ parts.getLastD []

/-! ## Words -/

/-- The words of a line, each with the blanks after it; blanks at the front go with the first. -/
def words (s : List Char) : List (List Char) :=
  let leading := s.takeWhile isBlank
  let body := (s.dropWhile isBlank).takeWhile fun c => !isBlank c
  let afterBody := (s.dropWhile isBlank).dropWhile fun c => !isBlank c
  if body.isEmpty then []
  else
    (leading ++ body ++ afterBody.takeWhile isBlank) :: words (afterBody.dropWhile isBlank)
termination_by s.length
decreasing_by
  rename_i hbody
  have h1 : (s.dropWhile isBlank).length ≤ s.length := (List.dropWhile_sublist _).length_le
  have h2 := congrArg List.length
    (List.takeWhile_append_dropWhile (p := fun c => !isBlank c) (l := s.dropWhile isBlank))
  have h3 := (List.dropWhile_sublist (l := (s.dropWhile isBlank).dropWhile fun c => !isBlank c)
    isBlank).length_le
  have h4 : 0 < ((s.dropWhile isBlank).takeWhile fun c => !isBlank c).length := by
    exact List.length_pos_iff.2 fun h => hbody (List.isEmpty_iff.2 h)
  simp only [List.length_append] at h2
  omega

/-! ## Breaks -/

/-- A break before a place, unless it is the beginning of the line. -/
def breakBefore (place : Nat) : List Nat := if place = 0 then [] else [place]

/-- The breaks before the pieces into which a long word is cut, and the cells of its last piece. -/
def pieceBreaks : (pieces : List (List Char)) → (start : Nat) → List Nat × Nat
  | [], _ => ([], 0)
  | [last], start => (breakBefore start, cells last)
  | piece :: more, start =>
    let (later, taken) := pieceBreaks more (start + piece.length)
    (breakBefore start ++ later, taken)

/-- Where a line must be broken, given its words from some place on, that place, and how many cells
of the current line are taken. -/
def breaks (width : Nat) : (words : List (List Char)) → (start taken : Nat) → List Nat
  | [], _, _ => []
  | word :: more, start, taken =>
    let bare := cells (trimEnd word)
    if bare + taken ≤ width then breaks width more (start + word.length) (taken + cells word)
    else if width < bare then
      let (here, last) := pieceBreaks (pieces width word) start
      here ++ breaks width more (start + word.length) last
    else if 0 < taken && 0 < start then
      start :: breaks width more (start + word.length) (cells word)
    else breaks width more (start + word.length) taken

/-- A text cut at increasing places, the first of which is counted from a given one. -/
def cutAt : (places : List Nat) → (start : Nat) → List Char → List (List Char)
  | [], _, s => [s]
  | place :: more, start, s => s.take (place - start) :: cutAt more place (s.drop (place - start))

/-- A line without as many of the blanks at its end as it has characters beyond the width, and then
without whatever else stands beyond it. -/
def crop (width : Nat) (line : List Char) : List Char :=
  let trailing := line.length - (trimEnd line).length
  let beyond := line.length - width
  cutToCells width (line.take (line.length - min trailing beyond))

/-- A line broken into lines of the width. -/
def wrapLine (width : Nat) (line : List Char) : List (List Char) :=
  (cutAt (breaks width (words line) 0 0) 0 line).map (crop width)

/-- A text as a console of some width shows it, with a newline at its end. -/
def consoleText (width : Nat) (s : List Char) : List Char :=
  let lines := splitAt '\n' (s.filter fun c => !isConsoleControl c)
  (lines.flatMap fun line => wrapLine width (expandTabs line)).flatMap fun line => line ++ ['\n']

example : expandTabs "3pm\tx\t".toList = "3pm     x       ".toList := by decide
example : wrapLine 3 "a bcdef g".toList = ["a ", "bcd", "ef ", "g"].map String.toList := by
  decide +kernel

end DateCalc.Text
