/-
  The grammar of expressions at a position of a text.

  The rules are those for periods, dates, anchors, sentences and expressions (`Grammar.period`,
  `Grammar.literal` and so on), each started at a position of the whole text.  A date in the ISO
  form is matched where it stands.  For every other form the next sign is searched for from the
  position on, the part of the text up to it is cut out and trimmed, and the end is found by
  counting the blanks that were trimmed off the front and the characters that are left.
-/
import DateCalc.Grammar.Placed.Token
import DateCalc.Grammar.Expression

namespace DateCalc.Placed

open PlacedRule
open Grammar (DateFields Sentence Relative isSign quantityWords unitWords wholeFields anchorWords
  trailers)

/-! ## Periods -/

/-- A count, in digits or as a word. -/
def quantity : PlacedRule Nat := digits.orElse (oneOf quantityWords .quantity)

/-- A unit, in the singular or the plural. -/
def unit : PlacedRule CalendarUnit := do
  let u ← oneOf unitWords .unit
  optional "s"
  return u

/-- A count and a unit with blanks between them. -/
def period : PlacedRule Period := do
  let count ← quantity
  space1
  let u ← unit
  return ⟨u, count⟩

/-- A sign at the very position. -/
def sign : PlacedRule Sign := oneOf [("+", .plus), ("-", .minus)] .sign

/-- A sign and a period, with blanks allowed before either. -/
def shift : PlacedRule Shift := do
  space0
  let sg ← sign
  space0
  let p ← period
  return ⟨sg, p⟩

/-- Shifts, as many as follow. -/
def shifts : PlacedRule (List Shift) := many shift

/-! ## Dates -/

/-- No digit stands at the position. -/
def noDigit : PlacedRule Unit := fun text position =>
  match text[position]? with
  | some c =>
    if c.isDigit then .error ⟨text, position, Expected.date.text, none⟩ else .ok ((), position)
  | none => .ok ((), position)

/-- Blanks, then a year in four digits, a month and a day, with hyphens between them. -/
def isoFields : PlacedRule DateFields := do
  space0
  let year ← figures 4 4
  tag "-"
  let month ← figures 1 2
  tag "-"
  let day ← figures 1 2
  noDigit
  return ⟨year, month, day⟩

/-- The position of the next sign. -/
def nextSign? (text : List Char) (position : Nat) : Option Nat :=
  let finish := runEnd (fun c => !isSign c) text position
  if finish < text.length then some finish else none

/-- The text from a position up to the next sign, or to the end. -/
def segment (text : List Char) (position : Nat) : List Char :=
  text.extract position ((nextSign? text position).getD text.length)

/-- One literal date.  Blanks before it are skipped, blanks after it are left. -/
def literal (reference : Date) : PlacedRule Date := fun text position =>
  match isoFields text position with
  | .ok (fields, finish) =>
    match fields.date? with
    | some date => .ok (date, finish)
    | none => .error ⟨text, position, Expected.validDate.text, none⟩
  | .error _ =>
    let part := segment text position
    let candidate := Text.trim part
    let leading := part.length - (Text.trimStart part).length
    match wholeFields reference candidate with
    | .ok (fields, _) =>
      match fields.date? with
      | some date => .ok (date, position + leading + candidate.length)
      | none => .error ⟨text, position, Expected.validDate.text, none⟩
    | .error _ => .error ⟨text, position, Expected.date.text, none⟩

/-- A keyword, or a literal date. -/
def anchor (reference : Date) : PlacedRule Anchor :=
  (oneOf anchorWords .date).orElse do
    let date ← literal reference
    return .literal date

/-! ## Sentences -/

/-- The word "and" between blanks. -/
def conjunction : PlacedRule Unit := do
  space1
  tag "and"
  space1

/-- A period and the comma after it. -/
def listedPeriod : PlacedRule Period := do
  let p ← period
  tag ","
  return p

/-- A further period of a list, after blanks, and the comma after it. -/
def nextListed : PlacedRule Period := do
  space1
  listedPeriod

/-- Two or more periods with commas after them, and a last one. -/
def commaList : PlacedRule Sentence := do
  let first ← listedPeriod
  let listed ← many nextListed
  if listed.isEmpty then fail .anotherListed
  else
    conjunction
    let last ← period
    return ⟨first, listed ++ [last]⟩

/-- Two periods. -/
def pair : PlacedRule Sentence := do
  let first ← period
  conjunction
  let second ← period
  return ⟨first, [second]⟩

/-- One period. -/
def single : PlacedRule Sentence := do
  let p ← period
  return ⟨p, []⟩

/-- The forms of a sentence, in the order in which they are tried. -/
def sentenceForms : List (String × PlacedRule Sentence) :=
  [("comma list", commaList), ("pair", pair), ("single period", single)]

/-- A list of periods. -/
def sentence : PlacedRule Sentence := firstMatch sentenceForms

/-- A sentence and its trailing phrase. -/
def relative (reference : Date) : PlacedRule Relative := do
  let list ← sentence
  let (direction, anchored) ← oneOf trailers .trailer
  let start ← if anchored then anchor reference else pure .today
  return ⟨start, ⟨direction, list.first⟩, list.more.map fun p => ⟨direction, p⟩⟩

/-! ## Expressions -/

/-- An anchor and one or more shifts. -/
def anchorWithShifts (reference : Date) : PlacedRule Expression := do
  let a ← anchor reference
  let first ← shift
  let more ← shifts
  return .shifted a first more

/-- Two anchors with a hyphen between them. -/
def difference (reference : Date) : PlacedRule Expression := do
  let start ← anchor reference
  space0
  tag "-"
  space0
  let finish ← anchor reference
  return .difference start finish

/-- A sentence with its trailing phrase. -/
def relativeExpression (reference : Date) : PlacedRule Expression := do
  let r ← relative reference
  return .shifted r.anchor r.first r.more

/-- An anchor alone. -/
def loneAnchor (reference : Date) : PlacedRule Expression := do
  let a ← anchor reference
  return .anchor a

/-- A period and any number of shifts. -/
def periodChain : PlacedRule Expression := do
  let base ← period
  let more ← shifts
  return .chain base more

/-- The alternatives, in the order in which they are tried. -/
def expressionForms (reference : Date) : List (String × PlacedRule Expression) :=
  [("anchor with operations", anchorWithShifts reference),
   ("date difference", difference reference),
   ("relative expression", relativeExpression reference),
   ("anchor", loneAnchor reference),
   ("period chain", periodChain)]

/-- An expression at a position of a text. -/
def expression (reference : Date) : PlacedRule Expression := firstMatch (expressionForms reference)

end DateCalc.Placed
