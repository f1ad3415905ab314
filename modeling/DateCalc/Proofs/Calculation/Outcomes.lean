/-
  Every text has a report, and the reading of the text decides which.

  A date expression and a clock time go the same way: the text is read, leftover input is accepted or
  refused, and the value is worked out (`Parsed.answer`).  A clock time is its own value, so nothing
  can fail there any more.  Four endings are left, and a report has exactly one of them:

    the text cannot be read                                      PARSE_FAILED
    input is left over, under strict conditions                  UNPARSED_INPUT
    the value that was accepted leads outside the calendar       OUT_OF_RANGE
    otherwise                                                    the value

  Leftover input is looked at before the value is worked out, so it decides where both would refuse.
  Reports are functions of the conditions and the text: there is no text without one.
-/
import DateCalc.Report.Basic

namespace DateCalc

variable {α β : Type}

/-! ## Endings -/

/-- The value was read, and leftover input does not stand in its way. -/
def Parsed.Accepted (parsed : Parsed α) (strict : Bool) (a : α) : Prop :=
  parsed = .full a ∨ strict = false ∧ ∃ remaining, parsed = .leaving a remaining

/-- Something was read and something was left over. -/
def Parsed.IsLeaving (parsed : Parsed α) : Prop := ∃ a remaining, parsed = .leaving a remaining

/-- The code of the error in a report, if there is one. -/
def Report.code? (report : Report) : Option String := report.error.map Problem.code

/-- The report has the ending that the reading decides.  `data?` gives the data of a value, unless
the value leads outside the calendar. -/
structure Report.Classified (report : Report) (parsed : Parsed α) (strict : Bool)
    (data? : α → Option Fields) : Prop where
  unreadable_iff : report.code? = some "PARSE_FAILED" ↔ ∃ failure, parsed = .failed failure
  leftover_iff : report.code? = some "UNPARSED_INPUT" ↔ strict = true ∧ parsed.IsLeaving
  outOfRange_iff : report.code? = some "OUT_OF_RANGE" ↔
    ∃ a, parsed.Accepted strict a ∧ data? a = none
  ok_iff : report.ok = true ↔ ∃ a data, parsed.Accepted strict a ∧ data? a = some data
  of_ok : report.ok = true →
    report.error = none ∧ ∃ a, parsed.Accepted strict a ∧ data? a = some report.data
  of_not_ok : report.ok = false → report.data = [] ∧ report.error.isSome = true

namespace Parsed

variable {strict : Bool} {a b : α} {remaining : List Char} {failure : Failure}

@[simp] theorem accepted_full_iff : (full a).Accepted strict b ↔ a = b := by
  simp [Accepted]

@[simp] theorem accepted_leaving_iff :
    (leaving a remaining).Accepted strict b ↔ strict = false ∧ a = b := by
  simp [Accepted]

@[simp] theorem not_accepted_failed : ¬ (failed failure).Accepted strict b := by
  simp [Accepted]

@[simp] theorem isLeaving_leaving : (leaving a remaining).IsLeaving := ⟨a, remaining, rfl⟩

@[simp] theorem not_isLeaving_full : ¬ (full a).IsLeaving := by
  simp [IsLeaving]

@[simp] theorem not_isLeaving_failed : ¬ (failed failure : Parsed α).IsLeaving := by
  simp [IsLeaving]

end Parsed

/-! ## From a reading to an answer -/

/-- The answer that follows from a reading: leftover input is refused or accepted, and then the value
is worked out. -/
def Parsed.answer (parsed : Parsed α) (strict : Bool) (value? : α → Option β)
    (warnings : List Warning) : Answer β :=
  match parsed.accept strict with
  | .error refusal => .refused refusal
  | .ok (a, leftover) =>
    match value? a with
    | none => .refused .outOfRange
    | some b => .value b (warnings ++ leftover)

namespace Conditions

/-- A calculation answers for what was read with its outcome and the date it was measured from. -/
theorem calculate_eq_answer (c : Conditions) (text : List Char) :
    c.calculate text = (c.read text).answer c.strict
      (fun e => (e.evaluate? c.reference.date).map fun outcome => ⟨e, outcome, c.reference.date⟩)
      c.referenceWarnings := by
  unfold calculate Parsed.answer
  cases (c.read text).accept c.strict with
  | error refusal => rfl
  | ok accepted =>
    obtain ⟨e, leftover⟩ := accepted
    dsimp only
    cases e.evaluate? c.reference.date with
    | none => rfl
    | some outcome => rfl

/-- A time answers for what was read with the time itself, and knows no other warnings. -/
theorem clockTime_eq_answer (c : Conditions) (text : List Char) :
    c.clockTime text = (Grammar.parseClockTime text).answer c.strict some [] := by
  unfold clockTime Parsed.answer
  cases (Grammar.parseClockTime text).accept c.strict with
  | error refusal => rfl
  | ok accepted => rfl

end Conditions

namespace Parsed

variable (value? : α → Option β) (warnings : List Warning)

theorem answer_failed (strict : Bool) (failure : Failure) :
    (failed failure).answer strict value? warnings = .refused (.unreadable failure) := rfl

/-- Under strict conditions the value is not even worked out. -/
theorem answer_leaving_strict (a : α) (remaining : List Char) :
    (leaving a remaining).answer true value? warnings = .refused (.leftover remaining) := rfl

/-- What an accepted value comes to decides between the last two endings. -/
theorem answer_of_accepted {parsed : Parsed α} {strict : Bool} {a : α}
    (h : parsed.Accepted strict a) :
    (value? a = none ∧ parsed.answer strict value? warnings = .refused .outOfRange) ∨
    ∃ b ws, value? a = some b ∧ parsed.answer strict value? warnings = .value b ws := by
  have haccept : ∃ leftover, parsed.accept strict = .ok (a, leftover) := by
    rcases h with rfl | ⟨rfl, remaining, rfl⟩
    · exact ⟨_, rfl⟩
    · exact ⟨_, rfl⟩
  obtain ⟨leftover, haccept⟩ := haccept
  cases hb : value? a with
  | none => exact Or.inl ⟨rfl, by simp only [answer, haccept, hb]⟩
  | some b => exact Or.inr ⟨b, warnings ++ leftover, rfl, by simp only [answer, haccept, hb]⟩

/-- A reading is refused for what could not be read, refused for what was left, or accepted. -/
theorem cases_accepted (parsed : Parsed α) (strict : Bool) :
    (∃ failure, parsed = .failed failure) ∨ (strict = true ∧ parsed.IsLeaving) ∨
      ∃ a, parsed.Accepted strict a := by
  cases parsed with
  | failed failure => exact Or.inl ⟨failure, rfl⟩
  | full a => exact Or.inr (Or.inr ⟨a, Or.inl rfl⟩)
  | leaving a remaining =>
    cases strict with
    | true => exact Or.inr (Or.inl ⟨rfl, a, remaining, rfl⟩)
    | false => exact Or.inr (Or.inr ⟨a, Or.inr ⟨rfl, remaining, rfl⟩⟩)

end Parsed

namespace Parsed.Accepted

variable {parsed : Parsed α} {strict : Bool} {a : α}

/-- There is no other accepted value. -/
theorem accepted_iff (h : parsed.Accepted strict a) (b : α) : parsed.Accepted strict b ↔ a = b := by
  rcases h with rfl | ⟨rfl, remaining, rfl⟩
  · simp
  · simp

theorem not_failed (h : parsed.Accepted strict a) : ¬ ∃ failure, parsed = .failed failure := by
  rintro ⟨failure, rfl⟩
  exact not_accepted_failed h

theorem not_leaving (h : parsed.Accepted strict a) : ¬ (strict = true ∧ parsed.IsLeaving) := by
  rintro ⟨rfl, b, remaining, rfl⟩
  simp at h

end Parsed.Accepted

/-! ## From an answer to a report -/

section Reports

variable (value? : α → Option β) (warnings : List Warning) (op : String) (text : List Char)
  (data : β → Fields) (about : β → Option Fields)

@[simp] theorem Answer.report_value_ok (b : β) :
    ((Answer.value b warnings).report op text data about).ok = true := rfl

@[simp] theorem Answer.report_value_error (b : β) :
    ((Answer.value b warnings).report op text data about).error = none := rfl

@[simp] theorem Answer.report_value_data (b : β) :
    ((Answer.value b warnings).report op text data about).data =
      ("input", .str (String.ofList text)) :: data b := rfl

@[simp] theorem Answer.report_refused_ok (refusal : Refusal) :
    ((Answer.refused refusal).report op text data about).ok = false := rfl

@[simp] theorem Answer.report_refused_error (refusal : Refusal) :
    ((Answer.refused refusal).report op text data about).error = some (refusal.problem text) := rfl

@[simp] theorem Answer.report_refused_data (refusal : Refusal) :
    ((Answer.refused refusal).report op text data about).data = [] := rfl

/-- The report of an answer that follows from a reading has the ending that the reading decides. -/
theorem Parsed.report_classified (parsed : Parsed α) (strict : Bool) :
    ((parsed.answer strict value? warnings).report op text data about).Classified parsed strict
      (fun a => (value? a).map fun b => ("input", .str (String.ofList text)) :: data b) := by
  rcases parsed.cases_accepted strict with ⟨failure, rfl⟩ | ⟨rfl, a, remaining, rfl⟩ | ⟨a, h⟩
  · rw [answer_failed]
    constructor <;> simp [Report.code?, Refusal.problem]
  · rw [answer_leaving_strict]
    constructor <;> simp [Report.code?, Refusal.problem]
  · -- the value was accepted, so the reading is none of the two that are refused
    rcases answer_of_accepted value? warnings h with ⟨hb, hanswer⟩ | ⟨b, ws, hb, hanswer⟩
    · rw [hanswer]
      constructor <;>
        simp [Report.code?, Refusal.problem, h.accepted_iff, h.not_leaving, h.not_failed, hb]
    · rw [hanswer]
      constructor <;> simp [Report.code?, h.accepted_iff, h.not_leaving, h.not_failed, hb]

/-- Strict conditions make a difference exactly where something was left over. -/
theorem Parsed.report_strict_ne_iff (parsed : Parsed α) :
    (parsed.answer true value? warnings).report op text data about ≠
      (parsed.answer false value? warnings).report op text data about ↔ parsed.IsLeaving := by
  cases parsed with
  | failed failure => simp [answer_failed]
  | full a =>
    have hsame : (full a).answer true value? warnings = (full a).answer false value? warnings := rfl
    simp [hsame]
  | leaving a remaining =>
    refine iff_of_true ?_ isLeaving_leaving
    intro hsame
    have hrefused := (report_classified value? warnings op text data about (leaving a remaining)
      true).leftover_iff.mpr ⟨rfl, isLeaving_leaving⟩
    rw [hsame, (report_classified value? warnings op text data about (leaving a remaining)
      false).leftover_iff] at hrefused
    exact absurd hrefused.1 Bool.false_ne_true

end Reports

/-! ## The two operations -/

namespace Conditions

/-- The data of an expression: the text, the rendering of the outcome and the expression. -/
def data? (c : Conditions) (text : List Char) (e : Expression) : Option Fields :=
  (e.evaluate? c.reference.date).map fun outcome =>
    ("input", .str (String.ofList text)) :: ("result", .str outcome.text) ::
      (outcome.fields ++ [("expression", e.value)])

/-- The report of a calculation is that of its answer, with the reference date besides. -/
theorem calculateReport_eq (c : Conditions) (text : List Char) :
    c.calculateReport text = ((c.read text).answer c.strict
      (fun e => (e.evaluate? c.reference.date).map fun outcome => ⟨e, outcome, c.reference.date⟩)
      c.referenceWarnings).report "calculate" text Calculation.data fun calculation =>
        some [("reference_date", .str calculation.reference.isoText)] := by
  rw [calculateReport, calculate_eq_answer]

/-- The report of a time is that of its answer, with nothing besides. -/
theorem clockTimeReport_eq (c : Conditions) (text : List Char) :
    c.clockTimeReport text = ((Grammar.parseClockTime text).answer c.strict some []).report
      "parse_time" text ClockTime.data fun _ => none := by
  rw [clockTimeReport, clockTime_eq_answer]

/-- **Every report of a calculation is of one of the classes.** -/
theorem calculateReport_classified (c : Conditions) (text : List Char) :
    (c.calculateReport text).Classified (c.read text) c.strict (c.data? text) := by
  have hdata : c.data? text = fun e =>
      ((e.evaluate? c.reference.date).map fun outcome =>
        (⟨e, outcome, c.reference.date⟩ : Calculation)).map fun calculation =>
          ("input", .str (String.ofList text)) :: calculation.data := by
    funext e
    rw [Option.map_map]
    rfl
  rw [calculateReport_eq, hdata]
  exact Parsed.report_classified _ _ _ _ _ _ _ _

/-- **Every report of a time is of one of the classes.** -/
theorem clockTimeReport_classified (c : Conditions) (text : List Char) :
    (c.clockTimeReport text).Classified (Grammar.parseClockTime text) c.strict
      (fun t => some (("input", .str (String.ofList text)) :: t.data)) := by
  rw [clockTimeReport_eq]
  exact Parsed.report_classified some [] "parse_time" text ClockTime.data (fun _ => none) _ _

/-- **Every text has a report, and its reading decides which**: for a date expression, for a clock
time, which is never out of range, and for what strict conditions change. -/
theorem reports_classified (c : Conditions) (text : List Char) :
    (c.calculateReport text).Classified (c.read text) c.strict (c.data? text) ∧
    (c.clockTimeReport text).Classified (Grammar.parseClockTime text) c.strict
      (fun t => some (("input", .str (String.ofList text)) :: t.data)) ∧
    (c.clockTimeReport text).code? ≠ some "OUT_OF_RANGE" ∧
    ({ c with strict := true }.calculateReport text ≠
        { c with strict := false }.calculateReport text ↔ (c.read text).IsLeaving) ∧
    ({ c with strict := true }.clockTimeReport text ≠
        { c with strict := false }.clockTimeReport text ↔
      (Grammar.parseClockTime text).IsLeaving) := by
  refine ⟨c.calculateReport_classified text, c.clockTimeReport_classified text, ?_, ?_, ?_⟩
  · intro hcode
    obtain ⟨t, -, hnone⟩ := (c.clockTimeReport_classified text).outOfRange_iff.mp hcode
    exact absurd hnone (by simp)
  · rw [calculateReport_eq, calculateReport_eq]
    exact Parsed.report_strict_ne_iff _ _ _ _ _ _ (c.read text)
  · rw [clockTimeReport_eq, clockTimeReport_eq]
    exact Parsed.report_strict_ne_iff _ _ _ _ _ _ (Grammar.parseClockTime text)

end Conditions

end DateCalc
