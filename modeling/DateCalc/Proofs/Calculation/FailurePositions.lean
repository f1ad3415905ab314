/-
  Positions can be trusted, from the smallest rule to the report.

  Every rule of the grammar ends or stops inside the text, never before its start, and the next rule
  goes on where it ended.  So the loops of the grammar end, what a reading leaves is a proper end of
  the text, and the report of a text that cannot be read cuts the text in two where reading stopped.
-/
import DateCalc.Proofs.Calculation.Outcomes
import DateCalc.Proofs.Grammar.Positions

namespace DateCalc

/-- The particulars of a problem cut the text in two, at the position that they name. -/
def Problem.Located (problem : Problem) (text : List Char) : Prop :=
  ∃ before remaining, text = before ++ remaining ∧
    problem.detail.get? "input" = some (.str (String.ofList text)) ∧
    problem.detail.get? "position" = some (.nat before.length) ∧
    problem.detail.get? "remaining" = some (.str (String.ofList remaining))

/-- The remainder of a reading is an end of the text, neither nothing nor everything. -/
def Parsed.LeavesProperEnd {α : Type} (parsed : Parsed α) (text : List Char) : Prop :=
  ∀ a remaining, parsed = .leaving a remaining →
    remaining ≠ [] ∧ remaining <:+ text ∧ remaining ≠ text

/-- If the report is about a text that cannot be read, it says where reading stopped. -/
def Report.LocatesFailure (report : Report) (text : List Char) : Prop :=
  ∀ problem, report.error = some problem → problem.code = "PARSE_FAILED" → problem.Located text

/-! ## Failures -/

/-- Where a rule that proceeds fails on a text, the reported position lies in the text and splits
it. -/
theorem Rule.Proceeds.located {α : Type} {strict : Bool} {r : Rule α} (hr : r.Proceeds strict)
    {text : List Char} {failure : Failure} (h : r.parse text = .failed failure) :
    ((Refusal.unreadable failure).problem text).Located text := by
  obtain ⟨before, remaining, htext, hposition, hremaining⟩ := hr.failed h
  refine ⟨before, remaining, htext, ?_, ?_, ?_⟩
  · simp only [Refusal.problem, Fields.get?_cons_self]
  · rw [← hposition]
    rfl
  · rw [← hremaining]
    rfl

/-- A text that cannot be read is reported with the mismatch of the rule that reads it. -/
theorem Rule.Proceeds.locatesFailure {α β : Type} {strict : Bool} {r : Rule α}
    (hr : r.Proceeds strict) (text : List Char) (strictly : Bool) (value? : α → Option β)
    (warnings : List Warning) (op : String) (data : β → Fields) (about : β → Option Fields) :
    (((r.parse text).answer strictly value? warnings).report op text data about).LocatesFailure
      text := by
  intro problem herror hcode
  have hclassified := Parsed.report_classified value? warnings op text data about (r.parse text)
    strictly
  have hcode? : (((r.parse text).answer strictly value? warnings).report op text data about).code? =
      some "PARSE_FAILED" := by
    rw [Report.code?, herror, Option.map_some, hcode]
  obtain ⟨failure, hfailed⟩ := hclassified.unreadable_iff.1 hcode?
  rw [hfailed, Parsed.answer_failed, Answer.report_refused_error] at herror
  cases herror
  exact hr.located hfailed

open Grammar in
/-- **Rules respect positions**: at every position of every text, a rule of the grammar ends between
that position and the end of the text, behind the position unless it may match nothing, and stops
between them where it does not match.  So the loops over shifts and over listed periods end, a
remainder is a proper end of the text, and every report of a text that cannot be read locates the
failure. -/
theorem positions_respected (reference : Date) :
    (∀ {α : Type} {strict : Bool} {r : Rule α}, GrammarRule reference strict r →
      r.InPlace strict) ∧
    shift.EndsByItself ∧ nextListed.EndsByItself ∧
    (∀ text, (parseExpression reference text).LeavesProperEnd text ∧
      (parseClockTime text).LeavesProperEnd text) ∧
    ∀ (c : Conditions) (text : List Char), (c.calculateReport text).LocatesFailure text ∧
      (c.clockTimeReport text).LocatesFailure text := by
  refine ⟨fun h => h.proceeds.inPlace, shift_proceeds.endsByItself,
    nextListed_proceeds.endsByItself, fun text => ⟨?_, ?_⟩, fun c text => ⟨?_, ?_⟩⟩
  · intro e remaining h
    exact (expression_proceeds reference).leaving h
  · intro t remaining h
    exact clockTime_proceeds.leaving h
  · rw [c.calculateReport_eq]
    exact (expression_proceeds c.reference.date).locatesFailure text _ _ _ _ _ _
  · rw [c.clockTimeReport_eq]
    exact clockTime_proceeds.locatesFailure text _ _ _ _ _ _

open Grammar in
/-- A period in the middle of a text, a unit that is missing there, an expression with words behind
it, and a text that is given up behind its first word. -/
theorem positions_respected_ten_moons :
    (∃ a, period.parseAt "in 3 days".toList 3 = .ok (a, 9) ∧ 3 < 9 ∧ 9 ≤ "in 3 days".length) ∧
    (∃ failure, unit.parseAt "ten moons".toList 4 = .error failure ∧ 4 ≤ failure.position) ∧
    " at noon".toList <:+ "tomorrow at noon".toList ∧
    ∃ problem, ((⟨none, .first, false⟩ : Conditions).calculateReport "ten moons".toList).error =
      some problem ∧ problem.Located "ten moons".toList := by
  obtain ⟨hrules, -, -, hremainders, hreports⟩ := positions_respected .first
  refine ⟨⟨⟨.day, 3⟩, by decide, ?_, by decide⟩, ⟨_, rfl, ?_⟩, ?_, ⟨_, rfl, ?_⟩⟩
  · obtain ⟨-, -, hlt, -⟩ := (hrules .period "in 3 days".toList 3 (by decide)).1 ⟨.day, 3⟩ 9
      (by decide)
    exact hlt rfl
  · exact ((hrules .unit "ten moons".toList 4 (by decide)).2 _ rfl).1
  · exact ((hremainders "tomorrow at noon".toList).1 (.anchor .tomorrow) " at noon".toList
      (by decide)).2.1
  · exact (hreports ⟨none, .first, false⟩ "ten moons".toList).1 _ rfl (by decide)

end DateCalc
