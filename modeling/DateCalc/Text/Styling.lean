/-
  Styling sequences.

  Where output does not go to a terminal, the control sequences that set colours and move the
  cursor are taken out of it: an escape, an opening bracket, parameters, marks and a closing
  character.  The parameters are the characters from the digit zero to the question mark, the
  marks those from the space to the slash, and the closing character is one from the at sign to the
  tilde.  These ranges do not meet, so a sequence is read from the left without a choice.

  A sequence that lacks its closing character is ordinary text, and so are the other kinds of
  sequences that an escape may begin.
-/

namespace DateCalc.Text

/-! ## One sequence -/

/-- The character that a sequence begins with. -/
def escapeChar : Char := Char.ofNat 0x1B

/-- A parameter of a sequence. -/
def isStyleParameter (c : Char) : Bool := '0' ≤ c && c ≤ '?'

/-- A mark between the parameters of a sequence and its closing character. -/
def isStyleMark (c : Char) : Bool := ' ' ≤ c && c ≤ '/'

/-- The character that closes a sequence. -/
def isStyleFinal (c : Char) : Bool := '@' ≤ c && c ≤ '~'

/-- What follows the parameters, the marks and the closing character of a sequence. -/
def afterParameters? (s : List Char) : Option (List Char) :=
  match (s.dropWhile isStyleParameter).dropWhile isStyleMark with
  | c :: rest => if isStyleFinal c then some rest else none
  | [] => none

/-- What follows a sequence at the front of a text. -/
def afterStyle? : List Char → Option (List Char)
  | e :: b :: rest => if e = escapeChar ∧ b = '[' then afterParameters? rest else none
  | _ => none

/-- Behind parameters the text is shorter. -/
theorem length_lt_of_afterParameters? {s rest : List Char} (h : afterParameters? s = some rest) :
    rest.length < s.length := by
  have hle := ((List.dropWhile_sublist (l := s.dropWhile isStyleParameter) isStyleMark).trans
    (List.dropWhile_sublist (l := s) isStyleParameter)).length_le
  unfold afterParameters? at h
  split at h
  · rename_i c r heq
    rw [heq] at hle
    split at h
    · cases h
      exact hle
    · cases h
  · cases h

/-- Behind a styling the text is shorter. -/
theorem length_lt_of_afterStyle? {s rest : List Char} (h : afterStyle? s = some rest) :
    rest.length < s.length := by
  unfold afterStyle? at h
  split at h
  · split at h
    · have := length_lt_of_afterParameters? h
      simp only [List.length_cons]
      omega
    · cases h
  · cases h

/-! ## Texts -/

/-- A text without its styling sequences. -/
def stripStyling (s : List Char) : List Char :=
  match s with
  | [] => []
  | c :: rest =>
    match _h : afterStyle? (c :: rest) with
    | some after => stripStyling after
    | none => c :: stripStyling rest
termination_by s.length
decreasing_by
  · exact length_lt_of_afterStyle? _h
  · exact Nat.lt_succ_self _

/-- A text without the character that sequences begin with is left as it is. -/
theorem stripStyling_eq_self {s : List Char} (h : escapeChar ∉ s) : stripStyling s = s := by
  induction s with
  | nil => rw [stripStyling]
  | cons c rest ih =>
    have hc : c ≠ escapeChar := fun e => h (e ▸ List.mem_cons_self)
    have hnone : afterStyle? (c :: rest) = none := by
      cases rest with
      | nil => rfl
      | cons b r => simp [afterStyle?, hc]
    rw [stripStyling]
    split
    · rename_i heq
      rw [hnone] at heq
      cases heq
    · rw [ih fun hm => h (List.mem_cons_of_mem _ hm)]

example : afterStyle? (escapeChar :: "[1;31mday".toList) = some "day".toList := by decide
example : afterStyle? (escapeChar :: "[?25$pday".toList) = some "day".toList := by decide
example : afterStyle? (escapeChar :: "[1 2day".toList) = none := by decide

end DateCalc.Text
