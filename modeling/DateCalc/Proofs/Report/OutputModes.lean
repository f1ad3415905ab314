/-
  The ways of showing a report agree.

  A view changes what a run prints about a report, never the report.  A value is printed to the
  output: as JSON, which is read back as the report; as the bare result; or as lines, the first of
  which is the result.  Its warnings are told once, in the JSON or on the error stream.  A refusal
  leaves the output empty, whatever the view.

  Everything comes from five facts about the report of a value (`Presentable`), one lemma for each
  command and one that draws the conclusion.  That the first line is the result is the fact which
  needs a reason: the result is a plain line, so whatever is printed behind it, a text with newlines
  or control sequences included, it is neither broken nor joined by anything.
-/
import DateCalc.Proofs.Calendar.Numbering
import DateCalc.Proofs.Report.ShownExpressions
import DateCalc.Proofs.Value.JsonRoundTrip

namespace DateCalc

open Text

/-! ## Results are plain -/

/-- Two days are no further apart than the first and the last one. -/
theorem distance_le (a b : Date) : a.distance b ≤ Date.last.dayNumber := by
  have ha := a.dayNumber_le_last
  have hb := b.dayNumber_le_last
  unfold Date.distance
  omega

/-- No outcome is a number of more than seven digits. -/
theorem days_lt_of_evaluate? {e : Expression} {today : Date} {days : Nat}
    (h : e.evaluate? today = some (.difference days)) : days < 10 ^ 7 := by
  cases e with
  | anchor a =>
    obtain ⟨d, -, hd⟩ := Option.map_eq_some_iff.1 h
    cases hd
  | shifted a first more =>
    obtain ⟨_, -, h⟩ := Option.bind_eq_some_iff.1 h
    obtain ⟨d, -, hd⟩ := Option.bind_eq_some_iff.1 h
    cases hd
  | chain base shifts =>
    obtain ⟨_, -, h⟩ := Option.bind_eq_some_iff.1 h
    obtain ⟨d, -, hd⟩ := Option.bind_eq_some_iff.1 h
    cases hd
  | difference start finish =>
    obtain ⟨a, -, h⟩ := Option.bind_eq_some_iff.1 h
    obtain ⟨b, -, hd⟩ := Option.bind_eq_some_iff.1 h
    cases hd
    exact Nat.lt_of_le_of_lt (distance_le a b) (by decide)

theorem plain_of_plainText {most : Nat} {s : String} (h : PlainText most s.toList)
    (hmost : most ≤ Report.consoleWidth) (hne : s.toList ≠ []) : Report.Plain s :=
  ⟨h.plain, hne, Nat.le_trans h.short hmost⟩

/-- The text of an outcome is a plain line. -/
theorem plain_outcome {e : Expression} {today : Date} {outcome : Outcome}
    (h : e.evaluate? today = some outcome) : Report.Plain outcome.text := by
  cases outcome with
  | date d =>
    have htext : (Outcome.date d).text.toList = d.isoChars := String.toList_ofList
    have hshort : PlainText 10 (Outcome.date d).text.toList := by
      rw [htext]
      exact plainText_isoChars d
    refine plain_of_plainText hshort (by decide) ?_
    rw [htext]
    simp [Date.isoChars]
  | difference days =>
    have hdays := days_lt_of_evaluate? h
    have htext : (Outcome.difference days).text.toList =
        decimal days ++ (if days = 1 then " day" else " days").toList := by
      rw [Outcome.text, Outcome.daysText, String.toList_append, String.toList_ofList]
    have hunit : PlainText 5 (if days = 1 then " day" else " days").toList := by
      split
      · exact ⟨by decide, by decide⟩
      · exact ⟨by decide, by decide⟩
    have hshort : PlainText (7 + 5) (Outcome.difference days).text.toList := by
      rw [htext]
      exact (plainText_decimal (by decide) hdays).append hunit
    refine plain_of_plainText hshort (by decide) ?_
    rw [htext]
    exact List.append_ne_nil_of_left_ne_nil (decimal_ne_nil days) _

/-- The text of a time is a plain line. -/
theorem plain_clockTime (t : ClockTime) : Report.Plain t.isoText := by
  have hpart : ∀ n : Nat, n < 10 ^ 2 → PlainText 2 (paddedDecimal 2 n) := by
    intro n hn
    exact plainText_of_numeral (paddedDecimal_numeral ((length_decimal_le_iff (by decide)).2 hn))
  have hcolon : PlainText 1 [':'] := ⟨by decide, by decide⟩
  have hhour := hpart t.hour.val (Nat.lt_of_le_of_lt t.hour.property.2 (by decide))
  have hminute := hpart t.minute.val (Nat.lt_of_le_of_lt t.minute.property.2 (by decide))
  have hsecond := hpart t.second.val (Nat.lt_of_le_of_lt t.second.property.2 (by decide))
  have htext : t.isoText.toList = paddedDecimal 2 t.hour.val ++ ([':'] ++
      (paddedDecimal 2 t.minute.val ++ ([':'] ++ paddedDecimal 2 t.second.val))) :=
    String.toList_ofList
  have hshort : PlainText (2 + (1 + (2 + (1 + 2)))) t.isoText.toList := by
    rw [htext]
    exact hhour.append (hcolon.append (hminute.append (hcolon.append hsecond)))
  refine plain_of_plainText hshort (by decide) ?_
  rw [htext]
  simp

/-! ## Reports are read back from JSON -/

section Portable

open Value

theorem portable_nat {n : Nat} (places : Nat) (hplaces : 0 < places) (hle : places ≤ longestNumber)
    (h : n < 10 ^ places) : (Value.nat n).Portable :=
  Nat.le_trans ((length_decimal_le_iff hplaces).2 h) hle

theorem portableItems_str (texts : List String) : PortableItems (texts.map .str) := by
  induction texts with
  | nil => exact trivial
  | cons s texts ih => exact ⟨trivial, ih⟩

/-- The value of an anchor can be read back. -/
theorem portable_anchor (a : Anchor) : a.value.Portable := by
  cases a with
  | literal date => exact ⟨(by decide : ["kind", "date"].Nodup), trivial, trivial, trivial⟩
  | _ => exact ⟨by decide, trivial, trivial⟩

theorem portable_count {p : Period} (h : p.count ≤ Period.longest) :
    (Value.nat p.count).Portable :=
  portable_nat 9 (by decide) (by decide) (Nat.lt_of_le_of_lt h (by decide))

/-- Shifts whose counts are not too long are written as values that can be read back. -/
theorem portableItems_shifts {shifts : List Shift}
    (h : ∀ s ∈ shifts, s.period.count ≤ Period.longest) :
    PortableItems (shifts.map Shift.value) := by
  induction shifts with
  | nil => exact trivial
  | cons s shifts ih =>
    rw [List.forall_mem_cons] at h
    refine ⟨⟨?_, trivial, trivial, portable_count h.1, trivial⟩, ih h.2⟩
    show ["sign", "unit", "count"].Nodup
    decide

/-- The document of an expression with short counts is read back. -/
theorem portable_expression {e : Expression} (h : ∀ p ∈ e.periods, p.count ≤ Period.longest) :
    e.value.Portable := by
  cases e with
  | anchor a =>
    refine ⟨?_, trivial, portable_anchor a, trivial⟩
    show ["shape", "anchor"].Nodup
    decide
  | shifted a first more =>
    rw [Expression.periods, List.forall_mem_cons, List.forall_mem_map] at h
    refine ⟨?_, trivial, portable_anchor a, portableItems_shifts (List.forall_mem_cons.2 h),
      trivial⟩
    show ["shape", "anchor", "operations"].Nodup
    decide
  | difference start finish =>
    refine ⟨?_, trivial, portable_anchor start, portable_anchor finish, trivial⟩
    show ["shape", "start", "end"].Nodup
    decide
  | chain base shifts =>
    rw [Expression.periods, List.forall_mem_cons, List.forall_mem_map] at h
    refine ⟨?_, trivial, ⟨?_, trivial, portable_count h.1, trivial⟩, portableItems_shifts h.2,
      trivial⟩
    · show ["shape", "base", "operations"].Nodup
      decide
    · show ["unit", "count"].Nodup
      decide

/-- A report of a value is read back when its data are and what it says about itself is. -/
theorem portable_report {r : Report} (herror : r.error = none)
    (hdata : (Value.object r.data).Portable)
    (habout : ((r.about.map Value.object).getD .null).Portable) : r.value.Portable := by
  have hnone : ((r.error.map Problem.value).getD .null).Portable := by
    rw [herror]
    exact trivial
  refine ⟨?_, trivial, trivial, hdata, portableItems_str r.warnings, hnone, habout, trivial⟩
  show ["ok", "op", "data", "warnings", "error", "meta"].Nodup
  decide

end Portable

/-! ## What there is to show -/

/-- The report is one of a value with this result: the result is a plain line, the data name it, the
lines for a person begin with it, and the JSON is read back. -/
structure Report.Presentable (r : Report) (result : String) : Prop where
  ok : r.ok = true
  plain : Report.Plain result
  data : r.data.get? "result" = some (.str result)
  lines : ∀ verbose showExpression, ∃ more,
    r.lines verbose showExpression = .ok (result :: more)
  portable : r.value.Portable

namespace Conditions

/-- A calculation with a value has something to show. -/
theorem presentable_calculate {c : Conditions} {text : List Char} {calculation : Calculation}
    {warnings : List Warning} (h : c.calculate text = .value calculation warnings) :
    (c.calculateReport text).Presentable calculation.outcome.text := by
  obtain ⟨leftover, -, houtcome, -, -⟩ := calculate_eq_value_iff.1 h
  have hexpression := portable_expression (count_le_of_evaluate? houtcome)
  constructor
  case ok => exact Answer.report_ok_iff.2 ⟨_, _, h⟩
  case plain => exact plain_outcome houtcome
  case data =>
    rw [calculateReport, h]
    rfl
  case lines =>
    intro verbose showExpression
    exact ⟨_, lines_of_value h verbose showExpression⟩
  case portable =>
    rw [calculateReport, h]
    refine portable_report rfl ?_ ⟨(by decide : ["reference_date"].Nodup), trivial, trivial⟩
    obtain ⟨expression, outcome, reference⟩ := calculation
    cases outcome with
    | date d =>
      exact ⟨(by decide : ["input", "result", "kind", "date", "expression"].Nodup), trivial,
        trivial, trivial, trivial, hexpression, trivial⟩
    | difference days =>
      exact ⟨(by decide : ["input", "result", "kind", "days", "expression"].Nodup), trivial,
        trivial, trivial,
        portable_nat 7 (by decide) (by decide) (days_lt_of_evaluate? houtcome), hexpression, trivial⟩

/-- So has a clock time that is read. -/
theorem presentable_clockTime {c : Conditions} {text : List Char} {t : ClockTime}
    {warnings : List Warning} (h : c.clockTime text = .value t warnings) :
    (c.clockTimeReport text).Presentable t.isoText := by
  have hpart : ∀ {n most : Nat}, n ≤ most → most < 10 ^ 2 → (Value.nat n).Portable :=
    fun hle hmost => portable_nat 2 (by decide) (by decide) (Nat.lt_of_le_of_lt hle hmost)
  constructor
  case ok => exact Answer.report_ok_iff.2 ⟨_, _, h⟩
  case plain => exact plain_clockTime t
  case data =>
    rw [clockTimeReport, h]
    rfl
  case lines =>
    intro verbose showExpression
    rw [clockTimeReport, h]
    exact ⟨_, rfl⟩
  case portable =>
    rw [clockTimeReport, h]
    refine portable_report rfl ?_ trivial
    exact ⟨(by decide : ["input", "result", "hour", "minute", "second"].Nodup), trivial, trivial,
      hpart t.hour.property.2 (by decide), hpart t.minute.property.2 (by decide),
      hpart t.second.property.2 (by decide), trivial⟩

end Conditions

namespace CommandLine

/-- Whenever a command reports a value, there is something to show. -/
theorem Command.presentable {command : Command} {c : Conditions} {text : List Char}
    (hok : (command.report c text).ok = true) :
    ∃ result, (command.report c text).Presentable result := by
  cases command with
  | calculate =>
    obtain ⟨calculation, warnings, h⟩ := Answer.report_ok_iff.1 hok
    exact ⟨_, Conditions.presentable_calculate h⟩
  | clockTime =>
    obtain ⟨t, warnings, h⟩ := Answer.report_ok_iff.1 hok
    exact ⟨_, Conditions.presentable_clockTime h⟩

end CommandLine

/-! ## What is printed -/

/-- Outside JSON nothing that is printed to the output depends on the warnings. -/
theorem Report.render_warnings (r : Report) (ws : List String) {view : View}
    (h : view.json = false) : { r with warnings := ws }.render view = r.render view := by
  have hlines : ∀ verbose showExpression,
      { r with warnings := ws }.lines verbose showExpression = r.lines verbose showExpression := by
    intro verbose showExpression
    cases r
    rfl
  simp only [Report.render, h, Bool.false_eq_true, if_false, hlines]
  rfl

/-- The same settings with another view. -/
def Config.Settings.viewed (settings : Config.Settings) (view : View) : Config.Settings :=
  { settings with
    json := view.json
    quiet := view.quiet
    verbose := view.verbose
    showExpression := view.showExpression }

/-- What is printed about a value in a view.  As JSON it is read back as the report, which names the
result and holds the warnings.  Else it is the result, alone or as the first line, and each warning
follows on the error stream; what is printed to the output does not depend on them. -/
structure CommandLine.Output.Delivers (o : Output) (log : String) (view : View) (r : Report)
    (result : String) : Prop where
  json : view.json = true →
    (∃ payload data, Value.ofJson? o.out = some payload ∧ payload = r.value ∧
      payload.get? "data" = some data ∧ data.get? "result" = some (.str result) ∧
      payload.get? "warnings" = some (.list (r.warnings.map .str))) ∧
    o.err = log
  quiet : view.json = false → view.quiet = true → o.out = result ++ "\n"
  lines : view.json = false → view.quiet = false → ∃ more, o.out = result ++ "\n" ++ more
  warnings : view.json = false →
    o.err = log ++ String.join (r.warnings.map fun w => Output.echo ("WARNING: " ++ w)) ∧
      ∀ ws, { r with warnings := ws }.render view = r.render view

namespace CommandLine

/-- What the log of a run puts on the error stream. -/
def Command.logText (command : Command) (s : Surroundings) (settings : Config.Settings)
    (text : List Char) : String :=
  let notes := if settings.verbose then command.notes (s.conditions settings) text else []
  String.join (notes.map fun note => note.line settings.logJson s.stamp ++ "\n")

/-- Behind the command and the end of the options, any text is the words of the command. -/
theorem Command.run_text (command : Command) (s : Surroundings) (settings : Config.Settings)
    (text : List Char) :
    command.run s settings ["--", String.ofList text] = command.answer s settings text := by
  have hparts : Parts.ofArguments .mixed CommandOption.forms ["--", String.ofList text] =
      .ok ⟨[], [String.ofList text]⟩ := rfl
  have hwords : (" ".intercalate [String.ofList text]).toList = text := by
    rw [String.intercalate_singleton, String.toList_ofList]
  simp only [Command.run, hparts, hwords]

/-- What is printed to the output and the ending are those of the report; its log stands before it
on the error stream. -/
theorem Command.answer_eq (command : Command) (s : Surroundings) (settings : Config.Settings)
    (text : List Char) :
    command.answer s settings text =
      let shown := Output.ofReport (viewOf settings) (command.report (s.conditions settings) text)
      { shown with err := command.logText s settings text ++ shown.err } := by
  simp only [Command.answer, Output.logging, Command.logText, List.map_map]
  rfl

/-- A plain line is printed as it is. -/
theorem Output.echo_of_plain {line : String} (h : Report.Plain line) :
    Output.echo line = line ++ "\n" := by
  have hescape : escapeChar ∉ line.toList ++ ['\n'] := by
    rw [List.mem_append, not_or]
    exact ⟨h.not_mem (by decide), by decide⟩
  rw [← String.toList_inj, Output.echo, String.toList_ofList, stripStyling_eq_self hescape,
    String.toList_append]
  rfl

/-- The JSON of a portable value is printed as it is. -/
theorem Output.echo_json {v : Value} (hv : v.Portable) : Output.echo v.json = v.json ++ "\n" := by
  have hescape : escapeChar ∉ v.json.toList ++ ['\n'] := by
    rw [List.mem_append, not_or]
    refine ⟨fun hmem => ?_, by decide⟩
    rcases Value.isJsonChar_jsonAt v 0 hv _ hmem with h | h
    · exact absurd h (by decide)
    · exact absurd h (by decide)
  rw [← String.toList_inj, Output.echo, String.toList_ofList, stripStyling_eq_self hescape,
    String.toList_append]
  rfl

/-- **What there is to show is delivered in every view.** -/
theorem Output.delivers_of_presentable {r : Report} {result : String} (h : r.Presentable result)
    (view : View) :
    (Output.ofReport view r).ending = .exit 0 ∧
      (Output.ofReport view r).Delivers "" view r result := by
  obtain ⟨json, quiet, verbose, showExpression⟩ := view
  have hquiet : r.quiet = result := by
    rw [Report.quiet, if_pos h.ok, h.data]
    rfl
  obtain ⟨more, hlines⟩ := h.lines verbose showExpression
  cases json with
  | true =>
    have hrender : r.render ⟨true, quiet, verbose, showExpression⟩ = .ok r.value.json := rfl
    have hshown : Output.ofReport ⟨true, quiet, verbose, showExpression⟩ r =
        ⟨r.value.json ++ "\n", "", .exit 0⟩ := by
      rw [Output.ofReport, hrender]
      simp only [h.ok, if_true, Output.echo_json h.portable]
      rfl
    rw [hshown]
    refine ⟨rfl, fun _ => ⟨⟨r.value, .object r.data, ?_, rfl, rfl, h.data, rfl⟩, rfl⟩, ?_, ?_, ?_⟩
    · exact Value.ofJson?_json (w := ['\n']) h.portable rfl
    all_goals
      intro hview
      cases hview
  | false =>
    cases quiet with
    | true =>
      have hrender : r.render ⟨false, true, verbose, showExpression⟩ = .ok result := by
        rw [← hquiet]
        rfl
      have hshown : Output.ofReport ⟨false, true, verbose, showExpression⟩ r =
          ⟨result ++ "\n", String.join (r.warnings.map fun w => Output.echo ("WARNING: " ++ w)),
            .exit 0⟩ := by
        rw [Output.ofReport, hrender]
        simp only [h.ok, if_true, Output.echo_of_plain h.plain]
        rfl
      rw [hshown]
      refine ⟨rfl, fun hview => ?_, fun _ _ => rfl, fun _ hview => ?_,
        fun _ => ⟨String.empty_append.symm, fun ws => r.render_warnings ws rfl⟩⟩
      all_goals cases hview
    | false =>
      have hrender : r.render ⟨false, false, verbose, showExpression⟩ =
          .ok (Report.console (result :: more)) := by
        show (do return Report.console (← r.lines verbose showExpression)) = _
        rw [hlines]
        rfl
      obtain ⟨rest, hrest⟩ := Report.echo_console_first h.plain more
      have hshown : Output.ofReport ⟨false, false, verbose, showExpression⟩ r =
          ⟨result ++ "\n" ++ rest,
            String.join (r.warnings.map fun w => Output.echo ("WARNING: " ++ w)), .exit 0⟩ := by
        rw [Output.ofReport, hrender]
        simp only [h.ok, if_true, hrest]
        rfl
      rw [hshown]
      refine ⟨rfl, fun hview => ?_, fun _ hview => ?_, fun _ _ => ⟨rest, rfl⟩,
        fun _ => ⟨String.empty_append.symm, fun ws => r.render_warnings ws rfl⟩⟩
      all_goals cases hview

/-- A refusal can be shown in every view, and the output stays empty. -/
theorem Output.refused {r : Report} (h : r.ok = false) (view : View) :
    ∃ shown, r.render view = .ok shown ∧
      Output.ofReport view r = ⟨"", Output.echo shown, .exit 1⟩ := by
  obtain ⟨shown, hrender⟩ : ∃ shown, r.render view = .ok shown := by
    obtain ⟨json, quiet, verbose, showExpression⟩ := view
    cases json with
    | true => exact ⟨_, rfl⟩
    | false =>
      cases quiet with
      | true => exact ⟨_, rfl⟩
      | false =>
        refine ⟨Report.console (r.errorLines verbose), ?_⟩
        show (do return Report.console (← r.lines verbose showExpression)) = _
        rw [Report.lines, if_neg (by rw [h]; exact Bool.false_ne_true)]
        rfl
  refine ⟨shown, hrender, ?_⟩
  rw [Output.ofReport, hrender]
  simp only [h, Bool.false_eq_true, if_false]
  rfl

/-- **The ways of showing a report agree.**  What is reported on a text, and with it the code of the
run, is the same in every view.  A value has one result, a line that every view prints to the
output, and each of its warnings is told in one place; of a refusal nothing is printed to the
output. -/
theorem output_modes_agree (command : Command) (s : Surroundings) (settings : Config.Settings)
    (text : List Char) :
    let report := command.report (s.conditions settings) text
    let shown := fun view =>
      command.run s (settings.viewed view) ["--", String.ofList text]
    let log := fun view => command.logText s (settings.viewed view) text
    (∀ view, (shown view).ending = .exit (if report.ok then 0 else 1)) ∧
      (report.ok = true → ∃ result, '\n' ∉ result.toList ∧
        ∀ view, (shown view).Delivers (log view) view report result) ∧
      (report.ok = false → ∀ view, (shown view).out = "" ∧
        ∃ rendering, report.render view = .ok rendering ∧
          (shown view).err = log view ++ Output.echo rendering) := by
  intro report shown log
  have hshown : ∀ view, shown view =
      { Output.ofReport view report with
        err := log view ++ (Output.ofReport view report).err } := fun view => by
    show command.run s (settings.viewed view) ["--", String.ofList text] = _
    rw [Command.run_text, Command.answer_eq]
    rfl
  cases hok : report.ok with
  | true =>
    obtain ⟨result, hresult⟩ := Command.presentable hok
    have hdelivers := fun view => Output.delivers_of_presentable hresult view
    refine ⟨fun view => ?_, fun _ => ⟨result, hresult.plain.not_mem (by decide), fun view => ?_⟩,
      nofun⟩
    · rw [hshown]
      exact (hdelivers view).1
    · obtain ⟨-, hjson, hquiet, hlines, hwarnings⟩ := hdelivers view
      rw [hshown]
      refine ⟨fun h => ⟨(hjson h).1, ?_⟩, hquiet, hlines, fun h => ⟨?_, (hwarnings h).2⟩⟩
      · show log view ++ (Output.ofReport view report).err = log view
        rw [(hjson h).2, String.append_empty]
      · show log view ++ (Output.ofReport view report).err = _
        rw [(hwarnings h).1, String.empty_append]
  | false =>
    refine ⟨fun view => ?_, nofun, fun _ view => ?_⟩
    · obtain ⟨rendering, -, hrefused⟩ := Output.refused hok view
      rw [hshown, hrefused]
      rfl
    · obtain ⟨rendering, hrender, hrefused⟩ := Output.refused hok view
      rw [hshown, hrefused]
      exact ⟨rfl, rendering, hrender, rfl⟩

end CommandLine

end DateCalc
