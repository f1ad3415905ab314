/-
  The spellings of a date are interchangeable.

  Where an anchor stands at the front of a text, the expression there is that anchor and what stands
  behind it: shifts, a second anchor, or nothing that belongs to it (`behindAnchor`).  So of the
  anchor's text nothing is left but the anchor itself.  Two spellings of one date give the same
  anchor and leave the same text, although the ISO form is read by its digits and every other form
  by the end of its segment: what may stand behind an anchor, blanks and then a sign or the end,
  ends both.
-/
import DateCalc.Proofs.Grammar.Order

namespace DateCalc

/-- The anchor that an expression starts from, unless it is counted from a period. -/
def Expression.firstAnchor? : Expression → Option Anchor
  | anchor a => some a
  | shifted a _ _ => some a
  | difference start _ => some start
  | chain _ _ => none

namespace Grammar

open Rule Token

/-! ## Behind an anchor -/

/-- Shifts behind an anchor. -/
def shiftsBehind (a : Anchor) : Rule Expression := do
  let first ← shift
  let more ← shifts
  return .shifted a first more

/-- A hyphen and a second anchor behind the first one. -/
def differenceBehind (reference : Date) (a : Anchor) : Rule Expression := do
  space0
  tag "-"
  space0
  let finish ← anchor reference
  return .difference a finish

/-- What an anchor turns into by what stands behind it; with none of this it stays alone. -/
def behindAnchor (reference : Date) (a : Anchor) : Rule Expression :=
  (shiftsBehind a).orElse ((differenceBehind reference a).orElse (pure (.anchor a)))

section Behind

variable {reference : Date} {a : Anchor} {s rest : List Char} {x : Expression × List Char}

/-- Whatever stands behind an anchor, the expression starts from it. -/
theorem firstAnchor_behindAnchor (h : behindAnchor reference a s = .ok x) :
    x.1.firstAnchor? = some a := by
  rcases orElse_eq_ok_iff.1 h with h | ⟨-, h⟩
  · obtain ⟨first, _, -, h⟩ := bind_eq_ok_iff.1 h
    obtain ⟨more, _, -, hpure⟩ := bind_eq_ok_iff.1 h
    cases hpure
    rfl
  · rcases orElse_eq_ok_iff.1 h with h | ⟨-, hpure⟩
    · obtain ⟨_, _, -, h⟩ := bind_eq_ok_iff.1 h
      obtain ⟨_, _, -, h⟩ := bind_eq_ok_iff.1 h
      obtain ⟨_, _, -, h⟩ := bind_eq_ok_iff.1 h
      obtain ⟨finish, _, -, hpure⟩ := bind_eq_ok_iff.1 h
      cases hpure
      rfl
    · cases hpure
      rfl

/-- An anchor is never refused for what stands behind it. -/
theorem exists_behindAnchor (reference : Date) (a : Anchor) (s : List Char) :
    ∃ x, behindAnchor reference a s = .ok x := by
  rcases fails_or_ok (behindAnchor reference a) s with hfails | ⟨e, rest, h⟩
  · obtain ⟨-, hfails⟩ := fails_orElse_iff.1 hfails
    obtain ⟨-, m, hpure⟩ := fails_orElse_iff.1 hfails
    cases hpure
  · exact ⟨_, h⟩

/-- **Where an anchor stands, the expression is that anchor and what stands behind it.** -/
theorem expression_of_anchor (h : anchor reference s = .ok (a, rest)) :
    expression reference s = behindAnchor reference a rest := by
  obtain ⟨x, hx⟩ := exists_behindAnchor reference a rest
  rw [hx]
  simp only [expression, expressionForms, firstMatch_cons_eq_ok_iff]
  rcases orElse_eq_ok_iff.1 hx with hshifts | ⟨hunshifted, hx⟩
  · exact Or.inl (bind_eq_ok_iff.2 ⟨_, _, h, hshifts⟩)
  · refine Or.inr ⟨fails_bind_of_ok h hunshifted, ?_⟩
    rcases orElse_eq_ok_iff.1 hx with hdifference | ⟨hsingle, halone⟩
    · exact Or.inl (bind_eq_ok_iff.2 ⟨_, _, h, hdifference⟩)
    · refine Or.inr ⟨fails_bind_of_ok h hsingle, Or.inr ⟨?_, Or.inl ?_⟩⟩
      · -- A sentence would start with a period, which no anchor does.
        apply fails_relativeExpression_of_no_period
        apply fails_of_not_matches
        intro hperiod
        exact not_anchor_and_period ⟨_, h⟩ hperiod
      · exact bind_eq_ok_iff.2 ⟨_, _, h, halone⟩

end Behind

/-! ## Spellings of one date -/

/-- A date is read in each of its spellings, up to the end of the spelling. -/
theorem anchor_of_dateText {reference d : Date} {x s : List Char} (hx : DateText reference x d)
    (hs : EndsAnchor s) : anchor reference (x ++ s) = .ok (.literal d, s) :=
  (anchor_reads reference).complete (.literal (w := []) rfl hx) hs

/-- **The spellings of a date are interchangeable**: put in front of blanks, or of blanks, a sign
and any text, two spellings of one date are read as the same expression, which starts from that
date, and they leave the same text or both leave nothing. -/
theorem spellings_interchangeable {reference d : Date} {x y s : List Char}
    (hx : DateText reference x d) (hy : DateText reference y d) (hs : EndsAnchor s) :
    ∃ e, e.firstAnchor? = some (.literal d) ∧
      (parseExpression reference (x ++ s) = .full e ∧
          parseExpression reference (y ++ s) = .full e ∨
        ∃ rem, parseExpression reference (x ++ s) = .leaving e rem ∧
          parseExpression reference (y ++ s) = .leaving e rem) := by
  have hread := expression_of_anchor (anchor_of_dateText hx hs)
  have hread' := expression_of_anchor (anchor_of_dateText hy hs)
  obtain ⟨⟨e, rem⟩, hbehind⟩ := exists_behindAnchor reference (.literal d) s
  rw [hbehind] at hread hread'
  refine ⟨e, firstAnchor_behindAnchor hbehind, ?_⟩
  by_cases hrem : rem = []
  · left
    rw [hrem] at hread hread'
    exact ⟨parse_eq_full_iff.2 hread, parse_eq_full_iff.2 hread'⟩
  · right
    exact ⟨rem, parse_eq_leaving_iff.2 ⟨hread, hrem⟩, parse_eq_leaving_iff.2 ⟨hread', hrem⟩⟩

/-- A date without its year, in capitals and behind a tab, and the same date in the ISO form without
zeros, both before a second date and words. -/
theorem spellings_interchangeable_capitals :
    let day : Date := ⟨2022, 2, 1, by decide, by decide, by decide, by decide⟩
    let behind := " -2021-12-31 or so".toList
    ∃ e, e.firstAnchor? = some (.literal day) ∧
      (parseExpression day ("FEB\t01".toList ++ behind) = .full e ∧
          parseExpression day ("2022-2-1".toList ++ behind) = .full e ∨
        ∃ rem, parseExpression day ("FEB\t01".toList ++ behind) = .leaving e rem ∧
          parseExpression day ("2022-2-1".toList ++ behind) = .leaving e rem) := by
  intro day behind
  have hmonth : IsMonthName "FEB".toList 2 := ⟨"feb", by decide, by decide⟩
  have hgap : Gap ['\t'] := ⟨by decide, by decide⟩
  have hpadded : IsPart ['0', '1'] := ⟨by decide, by decide, by decide⟩
  have hname : DateText day "FEB\t01".toList day :=
    .whole (.yearless hmonth hgap hpadded) (by decide)
  have hyear : IsYear "2022".toList := ⟨by decide, by decide, by decide⟩
  have htwo : IsPart ['2'] := ⟨by decide, by decide, by decide⟩
  have hone : IsPart ['1'] := ⟨by decide, by decide, by decide⟩
  have hiso : DateText day "2022-2-1".toList day := .iso (.mk hyear htwo hone) (by decide)
  exact spellings_interchangeable hname hiso rfl

end Grammar

end DateCalc
