/-
  The grammar of expressions at a position follows the one on what is left.

  Most rules are put together from others in the same way on both sides, so that they follow as soon
  as their parts do.  The literal date is not: at a position, the next sign is searched for in the
  whole text, and the end of the date is counted in positions.  The part that is cut out is the
  segment of the rest, and the count is where the date ends in it.
-/
import DateCalc.Grammar.Placed.Expression
import DateCalc.Proofs.Grammar.Placed.Token
import DateCalc.Proofs.Grammar.Anchors

namespace DateCalc.Placed

open PlacedRule

variable {text : List Char} {position : Nat}

/-! ## Periods -/

theorem quantity_follows : Follows quantity Grammar.quantity :=
  digits_follows.orElse (oneOf_follows _ _)

/-- The mark of the plural is a word that may be missing. -/
theorem pluralMark_follows : Follows (optional "s") Grammar.pluralMark := by
  apply optional_follows
  intro s
  cases s with
  | nil => rfl
  | cons c s =>
    by_cases hc : c = 's'
    · subst hc
      rfl
    · simp [Grammar.pluralMark, Token.afterWord?, hc, Ne.symm hc]

theorem unit_follows : Follows unit Grammar.unit := by
  refine (oneOf_follows _ _).bind fun u => ?_
  exact pluralMark_follows.bind fun _ => .pure u

theorem period_follows : Follows period Grammar.period := by
  refine quantity_follows.bind fun count => ?_
  refine space1_follows.bind fun _ => ?_
  exact unit_follows.bind fun u => .pure _

/-- A sign is one of two words of one character. -/
theorem sign_eq_oneOf : Grammar.sign = Token.oneOf [("+", .plus), ("-", .minus)] .sign := by
  funext s
  cases s with
  | nil => rfl
  | cons c s =>
    by_cases hplus : c = '+'
    · subst hplus
      rfl
    · by_cases hminus : c = '-'
      · subst hminus
        rfl
      · simp [Grammar.sign, Token.oneOf, Token.afterWord?, hplus, hminus, Ne.symm hplus,
          Ne.symm hminus]

theorem sign_follows : Follows sign Grammar.sign := by
  rw [sign_eq_oneOf]
  exact oneOf_follows _ _

theorem shift_follows : Follows shift Grammar.shift := by
  refine space0_follows.bind fun _ => ?_
  refine sign_follows.bind fun sg => ?_
  refine space0_follows.bind fun _ => ?_
  exact period_follows.bind fun p => .pure _

theorem shifts_follows : Follows shifts Grammar.shifts := shift_follows.many

/-! ## Dates -/

/-- No digit stands at a position when none stands at the front of the rest. -/
theorem noDigit_follows : Follows noDigit Grammar.noDigit := by
  intro text position hposition
  rcases end_or_char hposition with ⟨hdrop, hnone, rfl⟩ | ⟨c, hdrop, hc, -⟩
  · have hdone := Agree.ok (a := ()) (Nat.le_refl text.length) (Nat.le_refl text.length)
    simp only [noDigit, hnone, Grammar.noDigit, hdrop]
    rwa [hdrop] at hdone
  · simp only [noDigit, hc, Grammar.noDigit, hdrop]
    rw [← hdrop]
    split
    · exact .start hposition .date
    · exact .ok (Nat.le_refl _) hposition

theorem isoFields_follows : Follows isoFields Grammar.isoFields := by
  refine space0_follows.bind fun _ => ?_
  refine (figures_follows 4 4).bind fun year => ?_
  refine (tag_follows "-").bind fun _ => ?_
  refine (figures_follows 1 2).bind fun month => ?_
  refine (tag_follows "-").bind fun _ => ?_
  refine (figures_follows 1 2).bind fun day => ?_
  exact noDigit_follows.bind fun _ => .pure _

/-- **The operator search**: the part of the text up to the next sign is the segment of the rest. -/
theorem segment_eq (hposition : position ≤ text.length) :
    segment text position = Grammar.segment (text.drop position) := by
  obtain ⟨hle, hend, hrun, -⟩ := runEnd_spec (fun c => !Grammar.isSign c) hposition
  have hfinish : (nextSign? text position).getD text.length =
      runEnd (fun c => !Grammar.isSign c) text position := by
    simp only [nextSign?]
    split
    · rfl
    · rw [Option.getD_none]
      omega
  rw [segment, hfinish, hrun, Grammar.segment]

/-- **The literal date**: it is cut out of the whole text as it is out of the rest, and ends where
as much is left. -/
theorem literal_follows (reference : Date) :
    Follows (literal reference) (Grammar.literal reference) := by
  intro text position hposition
  rcases isoFields_follows.ok_or_error hposition with
    ⟨fields, finish, hiso, hiso', hle, hend⟩ | ⟨_, _, _, hiso, hiso', -⟩
  · simp only [literal, Grammar.literal, hiso, hiso']
    cases fields.date? with
    | none => exact .start hposition .validDate
    | some date => exact .ok hle hend
  · have hle := Grammar.length_trim_segment_le (text.drop position)
    rw [List.length_drop] at hle
    -- The segment is longer than without its leading blanks by their number.
    have hleading := congrArg List.length
      (Text.takeWhile_append_trimStart (Grammar.segment (text.drop position)))
    rw [List.length_append] at hleading
    simp only [literal, Grammar.literal, hiso, hiso', segment_eq hposition, ← hleading,
      Nat.add_sub_cancel, List.drop_drop]
    rcases Grammar.wholeFields reference _ with m | ⟨fields, rest⟩
    · exact .start hposition .date
    · simp only
      cases fields.date? with
      | none => exact .start hposition .validDate
      | some date =>
        rw [← Nat.add_assoc]
        exact .ok (by omega) (by omega)

theorem anchor_follows (reference : Date) : Follows (anchor reference) (Grammar.anchor reference) :=
  (oneOf_follows _ _).orElse ((literal_follows reference).bind fun _ => .pure _)

/-! ## Sentences -/

theorem conjunction_follows : Follows conjunction Grammar.conjunction := by
  refine space1_follows.bind fun _ => ?_
  exact (tag_follows "and").bind fun _ => space1_follows

theorem listedPeriod_follows : Follows listedPeriod Grammar.listedPeriod := by
  refine period_follows.bind fun p => ?_
  exact (tag_follows ",").bind fun _ => .pure p

theorem nextListed_follows : Follows nextListed Grammar.nextListed :=
  space1_follows.bind fun _ => listedPeriod_follows

/-- A list follows part by part, and fails in both ways when it is too short. -/
theorem commaList_follows : Follows commaList Grammar.commaList := by
  refine listedPeriod_follows.bind fun first => ?_
  refine nextListed_follows.many.bind fun listed => ?_
  split
  · exact .fail .anotherListed
  · refine conjunction_follows.bind fun _ => ?_
    exact period_follows.bind fun last => .pure _

theorem pair_follows : Follows pair Grammar.pair := by
  refine period_follows.bind fun first => ?_
  refine conjunction_follows.bind fun _ => ?_
  exact period_follows.bind fun second => .pure _

theorem single_follows : Follows single Grammar.single := period_follows.bind fun _ => .pure _

theorem sentence_follows : Follows sentence Grammar.sentence := by
  apply Follows.firstMatch
  exact .cons ⟨rfl, commaList_follows⟩ (.cons ⟨rfl, pair_follows⟩
    (.cons ⟨rfl, single_follows⟩ .nil))

/-- A sentence follows part by part, with and without an anchor behind its phrase. -/
theorem relative_follows (reference : Date) :
    Follows (relative reference) (Grammar.relative reference) := by
  refine sentence_follows.bind fun list => ?_
  refine (oneOf_follows _ _).bind fun trailer => ?_
  obtain ⟨direction, anchored⟩ := trailer
  cases anchored with
  | true => exact (anchor_follows reference).bind fun _ => .pure _
  | false => exact (Follows.pure Anchor.today).bind fun _ => .pure _

/-! ## Expressions -/

section Expressions

variable (reference : Date)

theorem anchorWithShifts_follows :
    Follows (anchorWithShifts reference) (Grammar.anchorWithShifts reference) := by
  refine (anchor_follows reference).bind fun a => ?_
  refine shift_follows.bind fun first => ?_
  exact shifts_follows.bind fun more => .pure _

theorem difference_follows : Follows (difference reference) (Grammar.difference reference) := by
  refine (anchor_follows reference).bind fun start => ?_
  refine space0_follows.bind fun _ => ?_
  refine (tag_follows "-").bind fun _ => ?_
  refine space0_follows.bind fun _ => ?_
  exact (anchor_follows reference).bind fun finish => .pure _

theorem relativeExpression_follows :
    Follows (relativeExpression reference) (Grammar.relativeExpression reference) :=
  (relative_follows reference).bind fun _ => .pure _

theorem loneAnchor_follows : Follows (loneAnchor reference) (Grammar.loneAnchor reference) :=
  (anchor_follows reference).bind fun _ => .pure _

theorem periodChain_follows : Follows periodChain Grammar.periodChain := by
  refine period_follows.bind fun base => ?_
  exact shifts_follows.bind fun more => .pure _

/-- **An expression at a position follows the one on what is left**, alternative by alternative. -/
theorem expression_follows : Follows (expression reference) (Grammar.expression reference) := by
  apply Follows.firstMatch
  exact .cons ⟨rfl, anchorWithShifts_follows reference⟩
    (.cons ⟨rfl, difference_follows reference⟩
      (.cons ⟨rfl, relativeExpression_follows reference⟩
        (.cons ⟨rfl, loneAnchor_follows reference⟩ (.cons ⟨rfl, periodChain_follows⟩ .nil))))

end Expressions

end DateCalc.Placed
