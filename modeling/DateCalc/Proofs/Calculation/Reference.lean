/-
  Which day everything is measured from.

  A text that is set for the reference date is read when it is a literal date with or without blanks
  around it, and every other text is put aside for the day of the clock.  Trimming is a matter of
  how reading goes about it: the spelling `PaddedDateText` knows nothing of it, and is the same for
  a text and for what trimming leaves of it.

  A date in its ISO form is read as itself on every day of the clock, so it fixes the reference date
  and the clock has no say any more.
-/
import DateCalc.Proofs.Grammar.Canonical
import DateCalc.Reference

namespace DateCalc

namespace Grammar

open Rule

/-! ## Dates with blanks around them -/

/-- A literal date with blanks before and behind it. -/
inductive PaddedDateText (reference : Date) : Spelling Date where
  | mk {w p w' : List Char} {date : Date} :
      Text.allBlank w = true → DateText reference p date → Text.allBlank w' = true →
      PaddedDateText reference (w ++ p ++ w') date

/-- A date without blanks around it is one with none. -/
theorem DateText.padded {reference date : Date} {p : List Char} (hp : DateText reference p date) :
    PaddedDateText reference p date := by
  have hpadded : PaddedDateText reference ([] ++ p ++ []) date := .mk rfl hp rfl
  rwa [List.append_nil] at hpadded

/-- Blanks alone are no date. -/
theorem PaddedDateText.not_allBlank {reference date : Date} {text : List Char}
    (h : PaddedDateText reference text date) : Text.allBlank text = false := by
  rw [Bool.eq_false_iff]
  intro hblank
  cases h with
  | @mk w p w' _ hw hp hw' =>
    rw [allBlank_append, allBlank_append] at hblank
    have hstop := hp.front.stops_blank []
    have hnone : p.takeWhile Text.isBlank = p := by
      have hrun := takeWhile_run hblank.1.2 (stops_nil Text.isBlank)
      rwa [List.append_nil] at hrun
    rw [List.append_nil] at hstop
    rw [hstop.takeWhile_eq] at hnone
    exact hp.front.ne_nil hnone.symm

/-- **A text is one literal date and nothing more** if it is the text of a date with blanks around
it. -/
theorem literalDate_eq_ok_iff {reference date : Date} {text : List Char} :
    literalDate reference text = .ok date ↔ PaddedDateText reference text date := by
  constructor
  · intro h
    unfold literalDate at h
    split at h
    · rename_i date' rest hread
      split at h
      · rename_i hrest
        cases h
        obtain ⟨w, p, rfl, hw, hp⟩ := literal_sound hread
        exact .mk hw hp hrest
      · cases h
    · cases h
  · intro h
    cases h with
    | mk hw hp hw' =>
      have hread := literal_append hw hp (endsAnchor_blanks hw')
      simp only [literalDate, hread, hw', if_true]

/-- Trimming neither makes a date nor loses one. -/
theorem paddedDateText_trim_iff {reference date : Date} {text : List Char} :
    PaddedDateText reference (Text.trim text) date ↔ PaddedDateText reference text date := by
  constructor
  · intro h
    obtain ⟨w', htext, hw'⟩ := eq_append_trim text
    have hw : Text.allBlank (text.takeWhile Text.isBlank) = true := List.all_takeWhile
    generalize Text.trim text = t at h htext
    cases h with
    | mk hv hp hv' =>
      have hpadded := PaddedDateText.mk (allBlank_append.2 ⟨hw, hv⟩) hp
        (allBlank_append.2 ⟨hv', hw'⟩)
      rw [htext]
      simpa only [List.append_assoc] using hpadded
  · intro h
    cases h with
    | mk hw hp hw' =>
      rw [trim_append hw hw' (hp.front.stops_blank _) hp.stops_blank_reverse]
      exact hp.padded

end Grammar

namespace Reference

open Grammar

/-! ## The reference date -/

/-- A text that is a date is the reference date, and nothing is put aside. -/
theorem resolve_of_date {text : String} {clock date : Date}
    (h : PaddedDateText clock text.toList date) : resolve (some text) clock = ⟨date, none⟩ := by
  have hread := literalDate_eq_ok_iff.2 (paddedDateText_trim_iff.2 h)
  simp [resolve, h.not_allBlank, hread]

/-- A text that is neither blank nor a date is put aside for the day of the clock. -/
theorem resolve_of_no_date {text : String} {clock : Date}
    (hblank : Text.allBlank text.toList = false)
    (hno : ∀ date, ¬ PaddedDateText clock text.toList date) :
    ∃ failure, resolve (some text) clock = ⟨clock, some (text, failure)⟩ := by
  cases hread : literalDate clock (Text.trim text.toList) with
  | ok date => exact absurd (paddedDateText_trim_iff.1 (literalDate_eq_ok_iff.1 hread)) (hno date)
  | error failure => exact ⟨failure, by simp [resolve, hblank, hread]⟩

/-- **The clock has no say** where the ISO text of a date is set. -/
theorem resolve_isoText (date clock : Date) : resolve (some date.isoText) clock = ⟨date, none⟩ := by
  apply resolve_of_date
  rw [Date.isoText, String.toList_ofList]
  exact (dateText_isoChars clock date).padded

end Reference

end DateCalc
