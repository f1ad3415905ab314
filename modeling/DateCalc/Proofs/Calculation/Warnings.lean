/-
  Which calculations say that the reference date was put aside.

  The warning is part of the conditions: it is there whenever the text set for the reference date is
  neither blank nor a date, whatever is calculated.  A value hands it on, in front of the warning
  about leftover input.  The three refusals have no place for it.

  So the clock is used without a word exactly when there is no value: for a text that cannot be
  read, for leftover input under strict conditions, and for a date outside the calendar.
-/
import DateCalc.Proofs.Calculation.Reference
import DateCalc.Report.Basic

namespace DateCalc

/-! ## Values -/

/-- What is accepted with a warning is accepted with one about leftover input. -/
theorem Parsed.eq_leftover_of_accept {α : Type} {p : Parsed α} {strict : Bool} {a : α}
    {warnings : List Warning} (h : p.accept strict = .ok (a, warnings)) :
    ∀ w ∈ warnings, ∃ remaining, w = .leftover remaining := by
  cases p with
  | full value =>
    cases h
    exact List.forall_mem_nil _
  | leaving value remaining =>
    cases strict with
    | true => cases h
    | false =>
      cases h
      exact List.forall_mem_singleton.2 ⟨remaining, rfl⟩
  | failed failure => cases h

/-- There is a report of a value exactly when there is a value. -/
theorem Answer.report_ok_iff {α : Type} {answer : Answer α} {op : String} {text : List Char}
    {data : α → Fields} {about : α → Option Fields} :
    (answer.report op text data about).ok = true ↔
      ∃ value warnings, answer = .value value warnings := by
  cases answer with
  | value value warnings => simp [report]
  | refused refusal => simp [report]

namespace Conditions

/-- When a calculation has a value, and which: the text is accepted as an expression, which has an
outcome on the reference date. -/
theorem calculate_eq_value_iff {c : Conditions} {text : List Char} {calculation : Calculation}
    {warnings : List Warning} :
    c.calculate text = .value calculation warnings ↔
      ∃ leftover, (c.read text).accept c.strict = .ok (calculation.expression, leftover) ∧
        calculation.expression.evaluate? c.reference.date = some calculation.outcome ∧
        calculation.reference = c.reference.date ∧ warnings = c.referenceWarnings ++ leftover := by
  unfold calculate
  constructor
  · intro h
    split at h
    · cases h
    · rename_i expression leftover haccept
      split at h
      · cases h
      · rename_i outcome houtcome
        cases h
        exact ⟨leftover, haccept, houtcome, rfl, rfl⟩
  · rintro ⟨leftover, haccept, houtcome, hreference, rfl⟩
    obtain ⟨expression, outcome, reference⟩ := calculation
    obtain rfl := hreference
    simp only [haccept, houtcome]

/-! ## The warning about the reference date -/

/-- Where a text is put aside, the day of the clock is used and there is a warning that says so. -/
theorem reference_of_no_date {c : Conditions} {override : String}
    (hset : c.override = some override) (hblank : Text.allBlank override.toList = false)
    (hno : ∀ date, ¬ Grammar.PaddedDateText c.clock override.toList date) :
    c.reference.date = c.clock ∧ c.referenceWarnings = [.ignoredReference override c.clock] := by
  obtain ⟨failure, hresolve⟩ := Reference.resolve_of_no_date hblank hno
  have hreference : c.reference = ⟨c.clock, some (override, failure)⟩ := by
    rw [reference, hset, hresolve]
  exact ⟨by rw [hreference], by rw [referenceWarnings, hreference]⟩

/-- **The clock is not used in silence where there is a value**, and only there: when the text set
for the reference date is neither blank nor a date, the day of the clock is used, and the report on
a text has the warning exactly when it reports a value. -/
theorem ignored_reference_warned_iff {c : Conditions} {override : String}
    (hset : c.override = some override) (hblank : Text.allBlank override.toList = false)
    (hno : ∀ date, ¬ Grammar.PaddedDateText c.clock override.toList date) (text : List Char) :
    c.reference.date = c.clock ∧
      ((Warning.ignoredReference override c.clock).text ∈ (c.calculateReport text).warnings ↔
        (c.calculateReport text).ok = true) := by
  obtain ⟨hclock, hwarnings⟩ := reference_of_no_date hset hblank hno
  refine ⟨hclock, ?_⟩
  unfold calculateReport
  cases hanswer : c.calculate text with
  | value calculation warnings =>
    obtain ⟨leftover, -, -, -, rfl⟩ := calculate_eq_value_iff.1 hanswer
    simp [Answer.report, hwarnings]
  | refused refusal => simp [Answer.report]

/-- A word that is no month is no date. -/
theorem someday_no_date (date : Date) :
    ¬ Grammar.PaddedDateText .last "someday".toList date := by
  intro h
  have hread := Grammar.literalDate_eq_ok_iff.2 h
  cases hread

/-- On the last day of the calendar, with leftover input that is not refused. -/
theorem ignored_reference_warned_someday :
    let c : Conditions := ⟨some "someday", .last, false⟩
    c.reference.date = .last ∧
      ((Warning.ignoredReference "someday" .last).text ∈
          (c.calculateReport "today rest".toList).warnings ↔
        (c.calculateReport "today rest".toList).ok = true) :=
  ignored_reference_warned_iff rfl (by decide) someday_no_date _

/-- The warning is lost on all three ways to a refusal: there a text that is no date is put aside,
and no warning says so. -/
theorem ignored_reference_lost :
    let c : Conditions := ⟨some "someday", .last, true⟩
    Text.allBlank "someday".toList = false ∧
      (∀ date, ¬ Grammar.PaddedDateText c.clock "someday".toList date) ∧
      ∀ lost ∈ [("garbage", "PARSE_FAILED"), ("today rest", "UNPARSED_INPUT"),
          ("tomorrow", "OUT_OF_RANGE")],
        (c.calculateReport lost.1.toList).error.map Problem.code = some lost.2 ∧
          (Warning.ignoredReference "someday" c.clock).text ∉
            (c.calculateReport lost.1.toList).warnings := by
  refine ⟨by decide, someday_no_date, ?_⟩
  decide

end Conditions

end DateCalc
