/-
  Tokens at a position follow tokens on what is left.

  A run that is found by going through the positions of a text ends where the run at the front of
  the rest does, and the part of the text in between is that run (`runEnd_spec`, `figuresEnd_spec`).
  A word stands at a position when it stands at the front of the rest (`map_wordEnd?`).  Everything
  else about tokens is a case of one of the two.
-/
import DateCalc.Proofs.Grammar.Placed.Rule

namespace DateCalc.Placed

open PlacedRule

variable {text : List Char} {position : Nat}

/-! ## What stands at a position -/

/-- At a position inside a text either the text has ended, or a character stands there and the rest
behind it is the rest from the next position. -/
theorem end_or_char (hposition : position ≤ text.length) :
    (text.drop position = [] ∧ text[position]? = none ∧ position = text.length) ∨
      ∃ c, text.drop position = c :: text.drop (position + 1) ∧ text[position]? = some c ∧
        position + 1 ≤ text.length := by
  rcases Nat.lt_or_ge position text.length with hlt | hge
  · exact Or.inr ⟨text[position], List.drop_eq_getElem_cons hlt, List.getElem?_eq_getElem hlt, hlt⟩
  · exact Or.inl ⟨List.drop_eq_nil_of_le hge, List.getElem?_eq_none hge, by omega⟩

/-- The part of a text between two positions starts with the character at the first one. -/
theorem extract_cons {c : Char} {finish : Nat} (hc : text[position]? = some c)
    (hle : position + 1 ≤ finish) :
    text.extract position finish = c :: text.extract (position + 1) finish := by
  obtain ⟨hlt, rfl⟩ := List.getElem?_eq_some_iff.1 hc
  obtain ⟨n, rfl⟩ := Nat.exists_eq_add_of_le hle
  simp only [List.extract_eq_take_drop, List.drop_eq_getElem_cons hlt]
  have hlong : position + 1 + n - position = n + 1 := by omega
  have hshort : position + 1 + n - (position + 1) = n := by omega
  rw [hlong, hshort, List.take_succ_cons]

/-- The part of a text between two positions is as long as they are apart. -/
theorem length_extract {finish : Nat} (hend : finish ≤ text.length) :
    (text.extract position finish).length = finish - position := by
  rw [List.extract_eq_take_drop, List.length_take, List.length_drop]
  omega

theorem extract_self : text.extract position position = [] := by
  rw [List.extract_eq_take_drop, Nat.sub_self, List.take_zero]

/-! ## Runs -/

/-- **Where a run ends**: inside the text and not before its start, with the run in between and the
rest behind, by induction on the positions that the run goes through. -/
theorem runEnd_spec (inClass : Char → Bool) (hposition : position ≤ text.length) :
    position ≤ runEnd inClass text position ∧ runEnd inClass text position ≤ text.length ∧
      text.extract position (runEnd inClass text position) =
        (text.drop position).takeWhile inClass ∧
      text.drop (runEnd inClass text position) = (text.drop position).dropWhile inClass := by
  fun_induction runEnd inClass text position with
  | case1 position hlt hc ih =>
    obtain ⟨hle, hend, hrun, hrest⟩ := ih hlt
    rw [List.drop_eq_getElem_cons hlt, List.takeWhile_cons_of_pos hc, List.dropWhile_cons_of_pos hc,
      extract_cons (List.getElem?_eq_getElem hlt) hle, hrun, hrest]
    exact ⟨by omega, hend, rfl, rfl⟩
  | case2 position hlt hc =>
    rw [List.drop_eq_getElem_cons hlt, List.takeWhile_cons_of_neg hc, List.dropWhile_cons_of_neg hc,
      extract_self]
    exact ⟨Nat.le_refl _, hposition, rfl, rfl⟩
  | case3 position hge =>
    obtain rfl : position = text.length := by omega
    simp

/-- A run is empty where its class stops. -/
theorem runEnd_eq_start_iff (inClass : Char → Bool) (hposition : position ≤ text.length) :
    runEnd inClass text position = position ↔ Stops inClass (text.drop position) := by
  rcases end_or_char hposition with ⟨hdrop, -, rfl⟩ | ⟨c, hdrop, hc, hnext⟩
  · have hend : runEnd inClass text text.length = text.length := by simp [runEnd]
    rw [hdrop, hend]
    exact iff_of_true rfl (stops_nil inClass)
  · obtain ⟨hlt, rfl⟩ := List.getElem?_eq_some_iff.1 hc
    obtain ⟨hle, -⟩ := runEnd_spec inClass hnext
    rw [hdrop, stops_cons, runEnd, dif_pos hlt]
    split
    · rename_i hin
      rw [hin]
      refine iff_of_false ?_ Bool.noConfusion
      omega
    · rename_i hout
      exact iff_of_true rfl (Bool.eq_false_iff.2 hout)

/-- Where so many digits end, by induction on how many may still come. -/
theorem figuresEnd_spec (most : Nat) (hposition : position ≤ text.length) :
    position ≤ figuresEnd most text position ∧ figuresEnd most text position ≤ text.length ∧
      Token.takeDigits most (text.drop position) =
        (text.extract position (figuresEnd most text position),
          text.drop (figuresEnd most text position)) := by
  induction most generalizing position with
  | zero => exact ⟨Nat.le_refl _, hposition, by simp [figuresEnd, Token.takeDigits]⟩
  | succ most ih =>
    rcases end_or_char hposition with ⟨hdrop, -, rfl⟩ | ⟨c, hdrop, hc, hnext⟩
    · simp [figuresEnd, hdrop, Token.takeDigits]
    · simp only [figuresEnd, hc, hdrop, Token.takeDigits]
      split
      · obtain ⟨hle, hend, htake⟩ := ih hnext
        rw [htake, extract_cons hc hle]
        exact ⟨by omega, hend, rfl⟩
      · rw [extract_self, hdrop]
        exact ⟨Nat.le_refl _, hposition, rfl⟩

/-! ## Words -/

/-- A word ends inside the text, and not before its start. -/
theorem wordEnd?_bounds {word : List Char} {finish : Nat}
    (h : wordEnd? word text position = some finish) :
    position ≤ finish ∧ finish ≤ text.length := by
  simp only [wordEnd?] at h
  split at h
  · rename_i hword
    cases h
    exact ⟨Nat.le_add_right _ _, hword.1⟩
  · cases h

/-- **A word stands at a position** when it stands at the front of the rest from there. -/
theorem map_wordEnd? (word : List Char) (hposition : position ≤ text.length) :
    (wordEnd? word text position).map text.drop = Token.afterWord? word (text.drop position) := by
  have hextract : text.extract position (position + word.length) =
      (text.drop position).take word.length := by
    rw [List.extract_eq_take_drop, Nat.add_sub_cancel_left]
  simp only [wordEnd?, hextract]
  split
  · rename_i h
    symm
    rw [Option.map_some, Token.afterWord?_eq_some_iff, ← List.drop_drop]
    rw [← List.take_append_drop word.length (text.drop position), h.2]
    simp
  · rename_i h
    symm
    rw [Option.map_none, Option.eq_none_iff_forall_ne_some]
    intro rest hrest
    have hdrop := Token.afterWord?_eq_some_iff.1 hrest
    have hlength := congrArg List.length hdrop
    simp only [List.length_drop, List.length_append] at hlength
    refine h ⟨by omega, ?_⟩
    rw [hdrop, List.take_left]

/-! ## Blanks -/

/-- The run of blanks at a position is trimmed off the rest. -/
theorem space0_follows : Follows space0 Token.space0 := by
  intro text position hposition
  obtain ⟨hle, hend, -, hrest⟩ := runEnd_spec Text.isBlank hposition
  simp only [space0, Token.space0, Text.trimStart, ← hrest]
  exact .ok hle hend

/-- A run of blanks that goes nowhere is no blank at the front of the rest. -/
theorem space1_follows : Follows space1 Token.space1 := by
  intro text position hposition
  obtain ⟨hle, hend, -, hrest⟩ := runEnd_spec Text.isBlank hposition
  have hstart := runEnd_eq_start_iff Text.isBlank hposition
  rcases end_or_char hposition with ⟨hdrop, -, -⟩ | ⟨c, hdrop, -, -⟩
  · rw [hdrop] at hstart
    simp only [space1, hstart.2 (stops_nil _), if_true, Token.space1, hdrop]
    rw [← hdrop]
    exact .start hposition .whitespace
  · rw [hdrop, stops_cons] at hstart
    cases hblank : Text.isBlank c with
    | true =>
      have hmoves : runEnd Text.isBlank text position ≠ position := by
        rw [Ne, hstart, hblank]
        exact Bool.noConfusion
      simp only [space1, hmoves, if_false, Token.space1, hdrop, hblank, if_true]
      rw [← hdrop, Text.trimStart, ← hrest]
      exact .ok hle hend
    | false =>
      simp only [space1, hstart.2 hblank, if_true, Token.space1, hdrop, hblank]
      rw [← hdrop]
      exact .start hposition .whitespace

/-! ## Fixed words -/

/-- A word stands at a position when it stands at the front of the rest. -/
theorem tag_follows (word : String) : Follows (tag word) (Token.tag word) := by
  intro text position hposition
  have hword := map_wordEnd? word.toList hposition
  simp only [tag, Token.tag, ← hword]
  rcases hfinish : wordEnd? word.toList text position with _ | finish
  · exact .start hposition _
  · obtain ⟨hle, hend⟩ := wordEnd?_bounds hfinish
    exact .ok hle hend

/-- Of listed words the same one stands first, by induction on the list. -/
theorem oneOf_follows {α : Type} (words : List (String × α)) (expected : Expected) :
    Follows (oneOf words expected) (Token.oneOf words expected) := by
  intro text position hposition
  induction words with
  | nil => exact .start hposition expected
  | cons entry words ih =>
    obtain ⟨word, a⟩ := entry
    have hword := map_wordEnd? word.toList hposition
    simp only [oneOf, Token.oneOf, List.findSome?_cons, ← hword] at ih ⊢
    rcases hfinish : wordEnd? word.toList text position with _ | finish
    · exact ih
    · obtain ⟨hle, hend⟩ := wordEnd?_bounds hfinish
      exact .ok hle hend

/-- A rule that passes over a word where it stands, and matches anyway. -/
theorem optional_follows (word : String) {r : Rule Unit}
    (hr : ∀ s, r s = .ok ((), (Token.afterWord? word.toList s).getD s)) :
    Follows (optional word) r := by
  intro text position hposition
  rw [optional, hr, ← map_wordEnd? word.toList hposition]
  rcases hfinish : wordEnd? word.toList text position with _ | finish
  · exact .ok (Nat.le_refl _) hposition
  · obtain ⟨hle, hend⟩ := wordEnd?_bounds hfinish
    exact .ok hle hend

/-! ## Digits -/

/-- The digits at a position are the run of digits at the front of the rest, and as many of them. -/
theorem digits_follows : Follows digits Token.digits := by
  intro text position hposition
  obtain ⟨hle, hend, hrun, hrest⟩ := runEnd_spec Char.isDigit hposition
  have hempty : (text.extract position (runEnd Char.isDigit text position)).isEmpty = true ↔
      runEnd Char.isDigit text position ≤ position := by
    rw [List.isEmpty_iff_length_eq_zero, length_extract hend]
    omega
  simp only [digits, Token.digits, ← hrun, ← hrest, hempty, length_extract hend]
  split
  · exact .start hposition _
  · split
    · exact .start hposition _
    · exact .ok hle hend

/-- The figures at a position are those at the front of the rest. -/
theorem figures_follows (least most : Nat) :
    Follows (figures least most) (Token.figures least most) := by
  intro text position hposition
  obtain ⟨hle, hend, htake⟩ := figuresEnd_spec most hposition
  simp only [figures, Token.figures, htake, length_extract hend]
  split
  · exact .start hposition _
  · exact .ok hle hend

end DateCalc.Placed
