/-
  Tokens at a position of a text.

  A run of characters is found by going through the text from the position on, and ends at the first
  position that holds another character, or at the end of the text.  What was matched is the part of
  the text between the two positions.  Where a position lies behind the end of the text, a run
  starts at the end.
-/
import DateCalc.Grammar.Placed.Rule
import DateCalc.Text.Blank

namespace DateCalc.Placed

open PlacedRule

/-! ## Runs -/

/-- Where the run of characters of a class ends that starts at a position. -/
def runEnd (inClass : Char → Bool) (text : List Char) (position : Nat) : Nat :=
  if h : position < text.length then
    if inClass text[position] then runEnd inClass text (position + 1) else position
  else text.length
termination_by text.length - position

/-- Where the digits end that start at a position, at most so many of them. -/
def figuresEnd : (most : Nat) → (text : List Char) → (position : Nat) → Nat
  | 0, _, position => position
  | most + 1, text, position =>
    match text[position]? with
    | some c => if c.isDigit then figuresEnd most text (position + 1) else position
    | none => position

/-- Where a word ends that stands at a position. -/
def wordEnd? (word text : List Char) (position : Nat) : Option Nat :=
  let finish := position + word.length
  if finish ≤ text.length ∧ text.extract position finish = word then some finish else none

/-! ## Blanks -/

/-- Blanks, as many as there are. -/
def space0 : PlacedRule Unit := fun text position =>
  .ok ((), runEnd Text.isBlank text position)

/-- Blanks, as many as there are but at least one. -/
def space1 : PlacedRule Unit := fun text position =>
  let finish := runEnd Text.isBlank text position
  if finish = position then .error ⟨text, position, Expected.whitespace.text, none⟩
  else .ok ((), finish)

/-! ## Words -/

/-- Exactly this word. -/
def tag (word : String) : PlacedRule Unit := fun text position =>
  match wordEnd? word.toList text position with
  | some finish => .ok ((), finish)
  | none => .error ⟨text, position, (Expected.word word).text, none⟩

/-- The meaning of the first listed word that stands at the position. -/
def oneOf {α : Type} (words : List (String × α)) (expected : Expected) : PlacedRule α :=
  fun text position =>
    match words.findSome? fun (word, a) =>
      (wordEnd? word.toList text position).map fun finish => (a, finish) with
    | some result => .ok result
    | none => .error ⟨text, position, expected.text, none⟩

/-- This word, if it is there. -/
def optional (word : String) : PlacedRule Unit := fun text position =>
  .ok ((), (wordEnd? word.toList text position).getD position)

/-! ## Digits -/

/-- A run of digits, all of it, as a number. -/
def digits : PlacedRule Nat := fun text position =>
  let finish := runEnd Char.isDigit text position
  if finish ≤ position then .error ⟨text, position, Expected.digits.text, none⟩
  else if Text.longestNumber < finish - position then
    .error ⟨text, position, Expected.shorterNumber.text, none⟩
  else .ok (Text.decimalValue (text.extract position finish), finish)

/-- A number of at least so many digits that takes at most so many of those that follow. -/
def figures (least most : Nat) : PlacedRule Nat := fun text position =>
  let finish := figuresEnd most text position
  if finish - position < least then .error ⟨text, position, Expected.digits.text, none⟩
  else .ok (Text.decimalValue (text.extract position finish), finish)

/-- The end of the text. -/
def endOfText : PlacedRule Unit := fun text position =>
  if position = text.length then .ok ((), position)
  else .error ⟨text, position, Expected.endOfInput.text, none⟩

end DateCalc.Placed
