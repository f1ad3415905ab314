/-
  The grammar of sentences.

  A sentence lists periods in English; a relative expression is a sentence with a trailing phrase,
  which gives every period of the sentence the same direction.

    sentence  ::=  period , (blank+ period ,)+ blank+ and blank+ period
                |  period blank+ and blank+ period
                |  period
    relative  ::=  sentence " ago"
                |  sentence (" from " | " after ") anchor
                |  sentence " before " anchor
-/
import DateCalc.Grammar.Anchor
import DateCalc.Grammar.Period
import DateCalc.Expression

namespace DateCalc.Grammar

open Rule Token

/-! ## Sentences -/

/-- Periods in the order in which they are listed. -/
structure Sentence where
  first : Period
  more : List Period
  deriving DecidableEq

/-- The word "and" between blanks. -/
def conjunction : Rule Unit := do
  space1
  tag "and"
  space1

/-- A period and the comma after it. -/
def listedPeriod : Rule Period := do
  let p ← period
  tag ","
  return p

/-- A further period of a list, after blanks, and the comma after it. -/
def nextListed : Rule Period := do
  space1
  listedPeriod

/-- Two or more periods with commas after them, and a last one. -/
def commaList : Rule Sentence := do
  let first ← listedPeriod
  let listed ← many nextListed
  if listed.isEmpty then fail .anotherListed
  else
    conjunction
    let last ← period
    return ⟨first, listed ++ [last]⟩

/-- Two periods. -/
def pair : Rule Sentence := do
  let first ← period
  conjunction
  let second ← period
  return ⟨first, [second]⟩

/-- One period. -/
def single : Rule Sentence := do
  let p ← period
  return ⟨p, []⟩

/-- The forms of a sentence, in the order in which they are tried. -/
def sentenceForms : List (String × Rule Sentence) :=
  [("comma list", commaList), ("pair", pair), ("single period", single)]

/-- A list of periods. -/
def sentence : Rule Sentence := firstMatch sentenceForms

/-! ## Relative expressions -/

/-- A sentence turned into shifts from an anchor. -/
structure Relative where
  anchor : Anchor
  first : Shift
  more : List Shift
  deriving DecidableEq

/-- The trailing phrases: the direction that each gives, and whether an anchor follows it. -/
def trailers : List (String × (Sign × Bool)) :=
  [(" ago", (.minus, false)), (" from ", (.plus, true)), (" after ", (.plus, true)),
   (" before ", (.minus, true))]

/-- A sentence and its trailing phrase. -/
def relative (reference : Date) : Rule Relative := do
  let list ← sentence
  let (direction, anchored) ← oneOf trailers .trailer
  let start ← if anchored then anchor reference else pure .today
  return ⟨start, ⟨direction, list.first⟩, list.more.map fun p => ⟨direction, p⟩⟩

end DateCalc.Grammar
