/-
  The grammar of clock times at a position follows the one on what is left.

  Two parts of a time look at the text in their own way: a suffix at the one or two characters that
  stand at its position, and the end of the text by comparing its position with the length.
-/
import DateCalc.Grammar.Placed.ClockTime
import DateCalc.Proofs.Grammar.Placed.Token

namespace DateCalc.Placed

open PlacedRule

/-! ## Parts of a time -/

/-- A number out of bounds is reported at its start in both ways. -/
theorem bounded_follows (part : String) (least most low high : Nat) :
    Follows (bounded part least most low high) (Grammar.bounded part least most low high) := by
  intro text position hposition
  rcases (figures_follows least most).ok_or_error hposition with
    ⟨n, _, hp, hr, hle, hend⟩ | ⟨_, _, _, hp, hr, hle, hend⟩
  · simp only [bounded, Grammar.bounded, hp, hr]
    split
    · exact .ok hle hend
    · exact .start hposition _
  · simp only [bounded, Grammar.bounded, hp, hr]
    exact .error hle hend

theorem hour12_follows : Follows hour12 Grammar.hour12 :=
  (bounded_follows _ _ _ _ _).orElse (bounded_follows _ _ _ _ _)

theorem minute_follows : Follows minute Grammar.minute := bounded_follows _ _ _ _ _

theorem second_follows : Follows second Grammar.second := bounded_follows _ _ _ _ _

theorem optionalColon_follows : Follows optionalColon Grammar.optionalColon := by
  apply optional_follows
  intro s
  cases s with
  | nil => rfl
  | cons c s =>
    by_cases hc : c = ':'
    · subst hc
      rfl
    · simp [Grammar.optionalColon, Token.afterWord?, hc, Ne.symm hc]

/-- The end of the text is where nothing is left. -/
theorem endOfText_follows : Follows endOfText Grammar.endOfText := by
  intro text position hposition
  rcases end_or_char hposition with ⟨hdrop, -, rfl⟩ | ⟨c, hdrop, -, hnext⟩
  · have hdone := Agree.ok (a := ()) (Nat.le_refl text.length) (Nat.le_refl text.length)
    simp only [endOfText, if_true, Grammar.endOfText, hdrop]
    rwa [hdrop] at hdone
  · have hne : position ≠ text.length := by omega
    simp only [endOfText, hne, if_false, Grammar.endOfText, hdrop]
    rw [← hdrop]
    exact .start hposition _

/-- The position behind an optional letter is where what is left behind it starts. -/
theorem behindOptionalM_spec {text : List Char} {position : Nat}
    (hposition : position ≤ text.length) :
    position ≤ behindOptionalM text position ∧ behindOptionalM text position ≤ text.length ∧
      text.drop (behindOptionalM text position) =
        Grammar.afterOptionalM (text.drop position) := by
  rcases end_or_char hposition with ⟨hdrop, hnone, -⟩ | ⟨c, hdrop, hc, hnext⟩
  · simp only [behindOptionalM, hnone, hdrop, Grammar.afterOptionalM]
    exact ⟨Nat.le_refl _, hposition, trivial⟩
  · by_cases hm : c = 'm' ∨ c = 'M'
    · rcases hm with rfl | rfl
      all_goals
        simp only [behindOptionalM, hc, hdrop, Grammar.afterOptionalM]
        exact ⟨Nat.le_succ _, hnext, trivial⟩
    · rw [not_or] at hm
      simp [behindOptionalM, hc, hdrop, Grammar.afterOptionalM, hm.1, hm.2, hposition]

/-- The letters at a position are those at the front of the rest. -/
theorem suffix_follows : Follows suffix Grammar.suffix := by
  intro text position hposition
  rcases end_or_char hposition with ⟨hdrop, hnone, -⟩ | ⟨c, hdrop, hc, hnext⟩
  · have hself := Agree.start (α := Meridiem) hposition .meridiem
    simp only [suffix, hnone, Grammar.suffix, hdrop]
    rwa [hdrop] at hself
  · obtain ⟨hle, hend, hrest⟩ := behindOptionalM_spec hnext
    have hread : ∀ half : Meridiem, Agree text position
        (.ok (half, behindOptionalM text (position + 1)))
        (.ok (half, Grammar.afterOptionalM (text.drop (position + 1)))) := by
      intro half
      rw [← hrest]
      exact .ok (by omega) hend
    by_cases hletter : c = 'a' ∨ c = 'A' ∨ c = 'p' ∨ c = 'P'
    · rcases hletter with rfl | rfl | rfl | rfl
      all_goals
        simp only [suffix, hc, Grammar.suffix, hdrop]
        exact hread _
    · have hself := Agree.start (α := Meridiem) hposition .meridiem
      simp only [not_or] at hletter
      simpa [suffix, hc, Grammar.suffix, hdrop, hletter] using hself

theorem meridiem_follows : Follows meridiem Grammar.meridiem :=
  space0_follows.bind fun _ => suffix_follows

/-! ## The forms -/

theorem military_follows : Follows military Grammar.military := by
  refine (bounded_follows _ _ _ _ _).bind fun h => ?_
  exact minute_follows.bind fun m => .pure _

theorem hourWithSuffix_follows : Follows hourWithSuffix Grammar.hourWithSuffix := by
  refine hour12_follows.bind fun h => ?_
  exact meridiem_follows.bind fun half => .pure _

theorem hourMinuteWithSuffix_follows :
    Follows hourMinuteWithSuffix Grammar.hourMinuteWithSuffix := by
  refine hour12_follows.bind fun h => ?_
  refine optionalColon_follows.bind fun _ => ?_
  refine minute_follows.bind fun m => ?_
  exact meridiem_follows.bind fun half => .pure _

theorem hourMinute24_follows : Follows hourMinute24 Grammar.hourMinute24 := by
  refine (bounded_follows _ _ _ _ _).bind fun h => ?_
  refine optionalColon_follows.bind fun _ => ?_
  refine minute_follows.bind fun m => ?_
  exact endOfText_follows.bind fun _ => .pure _

theorem hourMinuteSecondWithSuffix_follows :
    Follows hourMinuteSecondWithSuffix Grammar.hourMinuteSecondWithSuffix := by
  refine hour12_follows.bind fun h => ?_
  refine (tag_follows ":").bind fun _ => ?_
  refine minute_follows.bind fun m => ?_
  refine (tag_follows ":").bind fun _ => ?_
  refine second_follows.bind fun s => ?_
  exact meridiem_follows.bind fun half => .pure _

/-- **A time at a position follows the one on what is left**, form by form. -/
theorem clockTime_follows : Follows clockTime Grammar.clockTime := by
  apply Follows.firstMatch
  exact .cons ⟨rfl, military_follows⟩ (.cons ⟨rfl, hourWithSuffix_follows⟩
    (.cons ⟨rfl, hourMinuteWithSuffix_follows⟩ (.cons ⟨rfl, hourMinute24_follows⟩
      (.cons ⟨rfl, hourMinuteSecondWithSuffix_follows⟩ .nil))))

end DateCalc.Placed
