/-
  Tokens.

  The smallest rules: blanks, fixed words, runs of digits.  Words and digits are matched exactly as
  written, in ASCII; only blanks go beyond it.
-/
import DateCalc.Grammar.Rule
import DateCalc.Text.Blank

namespace DateCalc.Token

/-! ## Blanks -/

/-- Blanks, as many as there are. -/
def space0 : Rule Unit := fun s => .ok ((), Text.trimStart s)

/-- Blanks, as many as there are but at least one. -/
def space1 : Rule Unit := fun s =>
  match s with
  | c :: _ => if Text.isBlank c then .ok ((), Text.trimStart s) else .error ⟨s, .whitespace, none⟩
  | [] => .error ⟨s, .whitespace, none⟩

/-! ## Words -/

/-- What follows a word at the front of a text. -/
def afterWord? : (word s : List Char) → Option (List Char)
  | [], s => some s
  | _ :: _, [] => none
  | w :: word, c :: s => if w = c then afterWord? word s else none

/-- Exactly this word. -/
def tag (word : String) : Rule Unit := fun s =>
  match afterWord? word.toList s with
  | some rest => .ok ((), rest)
  | none => .error ⟨s, .word word, none⟩

/-- The meaning of the first listed word that stands at the front of the text. -/
def oneOf {α : Type} (words : List (String × α)) (expected : Expected) : Rule α := fun s =>
  match words.findSome? fun (word, a) => (afterWord? word.toList s).map fun rest => (a, rest) with
  | some result => .ok result
  | none => .error ⟨s, expected, none⟩

theorem afterWord?_append (word rest : List Char) : afterWord? word (word ++ rest) = some rest := by
  induction word with
  | nil => rfl
  | cons w word ih => simp [afterWord?, ih]

/-- What is left behind a word is the text without the word at its front. -/
theorem afterWord?_eq_some_iff {word s rest : List Char} :
    afterWord? word s = some rest ↔ s = word ++ rest := by
  constructor
  · intro h
    induction word generalizing s with
    | nil => simpa [afterWord?] using h
    | cons w word ih =>
      match s with
      | [] => simp [afterWord?] at h
      | c :: s =>
        simp only [afterWord?] at h
        split at h
        · rename_i hwc
          simp [hwc, ih h]
        · simp at h
  · rintro rfl
    exact afterWord?_append word rest

/-! ## Digits -/

/-- A run of digits, all of it, as a number. -/
def digits : Rule Nat := fun s =>
  let run := s.takeWhile Char.isDigit
  if run.isEmpty then .error ⟨s, .digits, none⟩
  else if Text.longestNumber < run.length then .error ⟨s, .shorterNumber, none⟩
  else .ok (Text.decimalValue run, s.dropWhile Char.isDigit)

/-- The digits at the front of a text, at most so many of them, and the rest. -/
def takeDigits : (most : Nat) → List Char → List Char × List Char
  | most + 1, c :: s =>
    if c.isDigit then
      let (ds, rest) := takeDigits most s
      (c :: ds, rest)
    else
      ([], c :: s)
  | _, s => ([], s)

/-- A number of at least so many digits that takes at most so many of those that follow. -/
def figures (least most : Nat) : Rule Nat := fun s =>
  let (ds, rest) := takeDigits most s
  if ds.length < least then .error ⟨s, .digits, none⟩ else .ok (Text.decimalValue ds, rest)

example : digits "007 days".toList = .ok (7, " days".toList) := by rfl
example : figures 1 2 "2021".toList = .ok (20, "21".toList) := by rfl

end DateCalc.Token
