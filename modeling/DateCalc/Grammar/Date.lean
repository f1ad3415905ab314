/-
  The grammar of literal dates.

  The ISO form, year-month-day, is matched first and on its own: its hyphens would otherwise be
  taken for signs.  Every other form fills the whole of the text up to the next sign, blanks at the
  ends aside:

    Month day, year        Month day        month/day/year

  where the year of the second form is that of the reference date.  Digits that have one of these
  forms but name no day are an error of their own, and no other form is tried after them.
-/
import DateCalc.Grammar.Token
import DateCalc.Calendar.DayNumber

namespace DateCalc.Grammar

open Rule Token

/-! ## Fields of a date -/

/-- The numbers of a date as they were written, whether or not they name a day. -/
structure DateFields where
  year : Nat
  month : Nat
  day : Nat
  deriving DecidableEq

/-- The day that the numbers name. -/
def DateFields.date? (f : DateFields) : Option Date := Date.make? f.year f.month f.day

/-- The names of the months, each with its abbreviation. -/
def monthNames : List (String × Nat) :=
  [("jan", 1), ("january", 1), ("feb", 2), ("february", 2), ("mar", 3), ("march", 3), ("apr", 4),
   ("april", 4), ("may", 5), ("jun", 6), ("june", 6), ("jul", 7), ("july", 7), ("aug", 8),
   ("august", 8), ("sep", 9), ("september", 9), ("oct", 10), ("october", 10), ("nov", 11),
   ("november", 11), ("dec", 12), ("december", 12)]

/-- An ASCII letter. -/
def isLetter (c : Char) : Bool := c.isAlpha

/-- The number of the month with this name, in any letter case. -/
def monthNumber? (name : List Char) : Option Nat :=
  let lower := name.map Char.toLower
  (monthNames.find? fun (word, _) => word.toList = lower).map Prod.snd

/-- All the letters at the front of a text, which must be the name of a month. -/
def monthName : Rule Nat := fun s =>
  match monthNumber? (s.takeWhile isLetter) with
  | some month => .ok (month, s.dropWhile isLetter)
  | none => .error ⟨s, .date, none⟩

/-! ## Forms of a date -/

/-- No digit follows. -/
def noDigit : Rule Unit := fun s =>
  match s with
  | c :: _ => if c.isDigit then .error ⟨s, .date, none⟩ else .ok ((), s)
  | [] => .ok ((), s)

/-- The end of the text. -/
def endOfText : Rule Unit := fun s =>
  match s with
  | [] => .ok ((), s)
  | _ :: _ => .error ⟨s, .endOfInput, none⟩

/-- Blanks, then a year in four digits, a month and a day, with hyphens between them. -/
def isoFields : Rule DateFields := do
  space0
  let year ← figures 4 4
  tag "-"
  let month ← figures 1 2
  tag "-"
  let day ← figures 1 2
  noDigit
  return ⟨year, month, day⟩

/-- The name of a month and a day with blanks between them, a comma, and a year in four digits. -/
def monthDayYear : Rule DateFields := do
  let month ← monthName
  space1
  let day ← figures 1 2
  tag ","
  space0
  let year ← figures 4 4
  endOfText
  return ⟨year, month, day⟩

/-- The name of a month and a day with blanks between them, in a given year. -/
def monthDay (year : Nat) : Rule DateFields := do
  let month ← monthName
  space1
  let day ← figures 1 2
  endOfText
  return ⟨year, month, day⟩

/-- A month, a day and a year in four digits, with slashes between them. -/
def slashedFields : Rule DateFields := do
  let month ← figures 1 2
  tag "/"
  let day ← figures 1 2
  tag "/"
  let year ← figures 4 4
  endOfText
  return ⟨year, month, day⟩

/-- The forms that fill their text, in the order in which they are tried. -/
def wholeFields (reference : Date) : Rule DateFields :=
  (monthDayYear.orElse ((monthDay reference.year).orElse slashedFields)).expecting .date

/-! ## Literal dates -/

/-- A sign that may follow an anchor. -/
def isSign (c : Char) : Bool := c == '+' || c == '-'

/-- The text up to the next sign. -/
def segment (s : List Char) : List Char := s.takeWhile fun c => !isSign c

/-- One literal date.  Blanks before it are skipped, blanks after it are left. -/
def literal (reference : Date) : Rule Date := fun s =>
  match isoFields s with
  | .ok (fields, rest) =>
    match fields.date? with
    | some date => .ok (date, rest)
    | none => .error ⟨s, .validDate, none⟩
  | .error _ =>
    let leading := (segment s).takeWhile Text.isBlank
    let candidate := Text.trim (segment s)
    match wholeFields reference candidate with
    | .ok (fields, _) =>
      match fields.date? with
      | some date => .ok (date, s.drop (leading.length + candidate.length))
      | none => .error ⟨s, .validDate, none⟩
    | .error _ => .error ⟨s, .date, none⟩

/-- A text that is one literal date and nothing else but blanks. -/
def literalDate (reference : Date) (text : List Char) : Except Failure Date :=
  match literal reference text with
  | .ok (date, rest) =>
    if Text.allBlank rest then .ok date
    else .error (Mismatch.inText text ⟨rest, .endOfInput, none⟩)
  | .error m => .error (m.inText text)

end DateCalc.Grammar
