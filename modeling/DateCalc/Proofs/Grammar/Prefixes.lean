/-
  What is read of a text is read of its consumed part alone.

  Rules look past what they consume: a date wants no digit behind it, and an hour of 24 with a colon
  wants the end of the text.  So it is not plain that the text up to the remainder, read by itself,
  is taken by the same alternative.  It follows from soundness, by which the consumed part is a
  spelling of the value, and completeness, by which a spelling that fills its text is read in full.
-/
import DateCalc.Proofs.Grammar.ClockTimes
import DateCalc.Proofs.Grammar.Expressions

namespace DateCalc.Grammar

open Rule

/-- No expression is spelled without a character. -/
theorem ExpressionText.ne_nil {reference : Date} {p : List Char} {e : Expression}
    (h : ExpressionText reference p e) : p ≠ [] := by
  rintro rfl
  have hfull := parse_full_iff.2 h
  cases hfull

/-- No clock time is spelled without a character. -/
theorem ClockText.ne_nil {p : List Char} {t : ClockTime} (h : ClockText p t) : p ≠ [] := by
  rintro rfl
  have hfull := parseClockTime_full_iff.2 (Or.inl h)
  cases hfull

/-- An expression read in front of a remainder is spelled by the text before it. -/
theorem parseExpression_leaving {reference : Date} {text rem : List Char} {e : Expression}
    (h : parseExpression reference text = .leaving e rem) :
    rem ≠ [] ∧ ∃ p, text = p ++ rem ∧ ExpressionText reference p e := by
  obtain ⟨hread, hrem⟩ := parse_eq_leaving_iff.1 h
  exact ⟨hrem, expression_sound hread⟩

/-- A clock time read in front of a remainder is spelled by the text before it. -/
theorem parseClockTime_leaving {text rem : List Char} {t : ClockTime}
    (h : parseClockTime text = .leaving t rem) :
    rem ≠ [] ∧ ∃ p, text = p ++ rem ∧ ClockText p t := by
  obtain ⟨hread, hrem⟩ := parse_eq_leaving_iff.1 h
  refine ⟨hrem, ?_⟩
  -- The spelling that must fill its text leaves nothing.
  rcases clockTime_sound hread with hp | ⟨hnil, -⟩
  · exact hp
  · exact absurd hnil hrem

/-- **A partial reading means what its consumed part means**: cut the remainder off, and what is
left is a text of its own that is read in full, with the same value. -/
theorem consumed_read_full (reference : Date) (text rem : List Char) :
    (∀ e, parseExpression reference text = .leaving e rem →
      ∃ p, text = p ++ rem ∧ p ≠ [] ∧ rem ≠ [] ∧ parseExpression reference p = .full e) ∧
    ∀ t, parseClockTime text = .leaving t rem →
      ∃ p, text = p ++ rem ∧ p ≠ [] ∧ rem ≠ [] ∧ parseClockTime p = .full t := by
  constructor
  · intro e h
    obtain ⟨hrem, p, htext, hp⟩ := parseExpression_leaving h
    exact ⟨p, htext, hp.ne_nil, hrem, parse_full_iff.2 hp⟩
  · intro t h
    obtain ⟨hrem, p, htext, hp⟩ := parseClockTime_leaving h
    exact ⟨p, htext, hp.ne_nil, hrem, parseClockTime_full_iff.2 (Or.inl hp)⟩

/-- An expression with words behind it, and four digits with a suffix that military time leaves. -/
theorem consumed_read_full_before_words :
    (∃ p, "tomorrow at noon".toList = p ++ " at noon".toList ∧ p ≠ [] ∧ " at noon".toList ≠ [] ∧
      parseExpression .first p = .full (.anchor .tomorrow)) ∧
    ∃ p, "0130pm".toList = p ++ "pm".toList ∧ p ≠ [] ∧ "pm".toList ≠ [] ∧
      parseClockTime p = .full ⟨⟨1, by decide⟩, ⟨30, by decide⟩, ⟨0, by decide⟩⟩ :=
  ⟨(consumed_read_full .first _ _).1 _ (by decide), (consumed_read_full .first _ _).2 _ (by decide)⟩

end DateCalc.Grammar
