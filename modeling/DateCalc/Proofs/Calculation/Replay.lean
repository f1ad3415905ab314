/-
  A calculation can be replayed from its own report.

  What a calculation makes of a text depends on the clock and on the text set for the reference date
  only through the reference date itself: the year of dates without one, the keywords and the start
  of a row of periods all come from it.  So two conditions with one reference date have the same
  value and the same warnings about leftover input, and differ at most in the warning about the
  reference date (`calculate_of_same_date`).

  The report of a value names its reference date in the ISO form, which is read as the same date on
  every day of the clock.  Set for the reference date, it brings the report back, on any day.
-/
import DateCalc.Proofs.Calculation.Warnings

namespace DateCalc

/-! ## The wording of warnings -/

/-- The wording is that of a warning about the reference date. -/
def isIgnoredReferenceText (s : String) : Bool :=
  "Ignoring unparseable reference date ".toList.isPrefixOf s.toList

/-- The warning about an ignored reference date is known by how it begins. -/
theorem isIgnoredReferenceText_ignoredReference (override : String) (used : Date) :
    isIgnoredReferenceText (Warning.ignoredReference override used).text = true := by
  have htext : (Warning.ignoredReference override used).text =
      "Ignoring unparseable reference date " ++ Text.quoted override ++ "; using " ++
        used.isoText := rfl
  rw [isIgnoredReferenceText, List.isPrefixOf_iff_prefix, htext, String.toList_append,
    String.toList_append, String.toList_append, List.append_assoc, List.append_assoc]
  exact List.prefix_append _ _

/-- The two wordings differ in their first letter. -/
theorem isIgnoredReferenceText_leftover (remaining : List Char) :
    isIgnoredReferenceText (Warning.leftover remaining).text = false := by
  have htext : (Warning.leftover remaining).text =
      "Unparsed input: '" ++ String.ofList remaining ++ "'" := rfl
  rw [isIgnoredReferenceText, htext, String.toList_append, String.toList_append,
    List.append_assoc]
  rfl

namespace Conditions

/-- Without the warnings about the reference date, those of a value are about leftover input. -/
theorem filter_warnings {c : Conditions} {leftover : List Warning}
    (hleftover : ∀ w ∈ leftover, ∃ remaining, w = .leftover remaining) :
    ((c.referenceWarnings ++ leftover).map Warning.text).filter
      (fun s => !isIgnoredReferenceText s) = leftover.map Warning.text := by
  rw [List.map_append, List.filter_append]
  have hnone : (c.referenceWarnings.map Warning.text).filter
      (fun s => !isIgnoredReferenceText s) = [] := by
    unfold referenceWarnings
    split
    · simp [isIgnoredReferenceText_ignoredReference]
    · rfl
  have hall : (leftover.map Warning.text).filter (fun s => !isIgnoredReferenceText s) =
      leftover.map Warning.text := by
    rw [List.filter_eq_self, List.forall_mem_map]
    intro w hw
    obtain ⟨remaining, rfl⟩ := hleftover w hw
    rw [isIgnoredReferenceText_leftover, Bool.not_false]
  rw [hnone, hall, List.nil_append]

/-! ## Conditions with one reference date -/

/-- Conditions with one reference date make the same of a text; only their warnings about the
reference date may differ. -/
theorem calculate_of_same_date {c c' : Conditions} {text : List Char} {calculation : Calculation}
    {warnings : List Warning} (hdate : c'.reference.date = c.reference.date)
    (hstrict : c'.strict = c.strict) (h : c.calculate text = .value calculation warnings) :
    ∃ leftover, (∀ w ∈ leftover, ∃ remaining, w = .leftover remaining) ∧
      warnings = c.referenceWarnings ++ leftover ∧
      c'.calculate text = .value calculation (c'.referenceWarnings ++ leftover) := by
  obtain ⟨leftover, haccept, houtcome, hreference, rfl⟩ := calculate_eq_value_iff.1 h
  have hread : c'.read text = c.read text := by rw [read, read, hdate]
  refine ⟨leftover, Parsed.eq_leftover_of_accept haccept, rfl, calculate_eq_value_iff.2 ?_⟩
  refine ⟨leftover, ?_, ?_, ?_, rfl⟩
  · rw [hread, hstrict]
    exact haccept
  · rw [hdate]
    exact houtcome
  · rw [hdate]
    exact hreference

/-- The conditions in which the text of a date is set for the reference date. -/
def measuredFrom (c : Conditions) (reference : String) (clock : Date) : Conditions :=
  { c with override := some reference, clock := clock }

theorem reference_measuredFrom (c : Conditions) (date clock : Date) :
    (c.measuredFrom date.isoText clock).reference = ⟨date, none⟩ :=
  Reference.resolve_isoText date clock

/-- Where a date is set for the reference date, there is no warning about it. -/
theorem referenceWarnings_measuredFrom (c : Conditions) (date clock : Date) :
    (c.measuredFrom date.isoText clock).referenceWarnings = [] := by
  rw [referenceWarnings, reference_measuredFrom]

/-! ## Replay -/

/-- **A calculation with a value can be replayed from its own report.**  The report names the
reference date, and with that text set for it the report on any day of the clock is the same but for
the warning that another text was put aside. -/
theorem calculateReport_replayed {c : Conditions} {text : List Char}
    (hok : (c.calculateReport text).ok = true) :
    ∃ reference, (c.calculateReport text).about = some [("reference_date", .str reference)] ∧
      ∀ clock, (c.measuredFrom reference clock).calculateReport text =
        { c.calculateReport text with
          warnings := (c.calculateReport text).warnings.filter
            fun s => !isIgnoredReferenceText s } := by
  obtain ⟨calculation, warnings, hvalue⟩ := Answer.report_ok_iff.1 hok
  obtain ⟨-, -, -, hreference, -⟩ := calculate_eq_value_iff.1 hvalue
  refine ⟨calculation.reference.isoText, ?_, ?_⟩
  · rw [calculateReport, hvalue]
    rfl
  · intro clock
    have hdate : (c.measuredFrom calculation.reference.isoText clock).reference.date =
        c.reference.date := by
      rw [reference_measuredFrom, hreference]
    obtain ⟨leftover, hleftover, rfl, hreplayed⟩ := calculate_of_same_date hdate rfl hvalue
    rw [referenceWarnings_measuredFrom, List.nil_append] at hreplayed
    rw [calculateReport, calculateReport, hvalue, hreplayed]
    simp only [Answer.report, filter_warnings hleftover]

/-- A text that is no date was set, and the replay has only the warning about leftover input. -/
theorem calculateReport_replayed_someday :
    let c : Conditions := ⟨some "someday", .last, false⟩
    let report := c.calculateReport "today rest".toList
    report.ok = true ∧ ∃ reference, report.about = some [("reference_date", .str reference)] ∧
      ∀ clock, (c.measuredFrom reference clock).calculateReport "today rest".toList =
        { report with
          warnings := report.warnings.filter fun s => !isIgnoredReferenceText s } := by
  intro c report
  have hok : report.ok = true := by decide
  exact ⟨hok, calculateReport_replayed hok⟩

end Conditions

end DateCalc
