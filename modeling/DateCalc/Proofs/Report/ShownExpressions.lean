/-
  The lines of an expression can be put together again.

  A report shows its expression in lines: its shape, its anchor or its base, and one line for each
  shift, or the two ends of a difference.  The lines are made from the document of the report by
  wordings of their own, and they are the words of the canonical text, with a label before each of
  its parts (`expressionLines_value`).  Without the labels and with spaces between them the parts are
  the canonical text again (`joinedParts_shownLines`), which is read back as the expression.

  What was calculated is on the screen unchanged.  A value has no period that is longer than any may
  be, so no count on these lines has more than nine digits, and every line is a plain one.
-/
import DateCalc.Proofs.Calculation.Outcomes
import DateCalc.Proofs.Calculation.Replay
import DateCalc.Proofs.Grammar.Canonical
import DateCalc.Proofs.Report.ConsoleLines

namespace DateCalc

/-! ## Putting lines together -/

/-- The labels of the parts of an expression, and what stands before a part in the text: a hyphen
before the end of a difference.  The sign of a base is left out with its label. -/
def partLabels : List (String × String) :=
  [("  anchor: ", ""), ("  base: + ", ""), ("  then: ", ""), ("  from: ", ""), ("  to: ", "- ")]

/-- The part of an expression on a line, if there is one; the shape is no part. -/
def shownPart? (line : String) : Option String :=
  partLabels.findSome? fun (label, before) =>
    (Token.afterWord? label.toList line.toList).map fun part => before ++ String.ofList part

/-- The parts on some lines, with spaces between them. -/
def joinedParts (lines : List String) : String := " ".intercalate (lines.filterMap shownPart?)

example : joinedParts ["  shape: period_chain", "  base: + 2 days", "  then: - 1 week"] =
    "2 days - 1 week" := by decide
example : joinedParts ["  shape: difference", "  from: today", "  to: 2022-01-31"] =
    "today - 2022-01-31" := by decide

/-! ## The lines of an expression -/

/-- The lines that show an expression. -/
def Expression.shownLines : Expression → List String
  | anchor a => [fieldLine "shape" "anchor", fieldLine "anchor" a.text]
  | shifted a first more =>
    fieldLine "shape" "anchor_with_operations" :: fieldLine "anchor" a.text ::
      (first :: more).map fun s => fieldLine "then" s.text
  | difference start finish =>
    [fieldLine "shape" "difference", fieldLine "from" start.text, fieldLine "to" finish.text]
  | chain base shifts =>
    fieldLine "shape" "period_chain" :: fieldLine "base" ("+ " ++ base.text) ::
      shifts.map fun s => fieldLine "then" s.text

section Wording

theorem shown_nat (n : Nat) : (Value.nat n).shown = String.ofList (Text.decimal n) := rfl

/-- A number is shown in the singular if it is one. -/
theorem isOne_nat (n : Nat) : (Value.nat n).isOne = (n == 1) := by
  show ((n : Int) == 1) = (n == 1)
  rw [Bool.eq_iff_iff, beq_iff_eq, beq_iff_eq]
  omega

/-- Sign, count and unit are worded like the canonical text. -/
theorem describeOperation_fields (sign : String) (p : Period) :
    describeOperation (("sign", .str sign) :: p.fields) = .ok (sign ++ " " ++ p.text) := by
  have hcount : Fields.require (("sign", .str sign) :: p.fields) "count" = .ok (.nat p.count) := rfl
  have hunit : Fields.require (("sign", .str sign) :: p.fields) "unit" = .ok (.str p.unit.name) :=
    rfl
  have hsign : Fields.require (("sign", .str sign) :: p.fields) "sign" = .ok (.str sign) := rfl
  simp only [describeOperation, hcount, hunit, hsign, isOne_nat, beq_iff_eq, shown_nat, bind,
    Except.bind, pure, Except.pure, Except.ok.injEq]
  rw [← String.toList_inj]
  by_cases hone : p.count = 1
  · simp [hone, Value.shown, Period.text, Period.chars]
  · simp [hone, Value.shown, Period.text, Period.chars]

theorem text_eq (s : Shift) : s.text = s.sign.symbol.toString ++ " " ++ s.period.text := by
  rw [← String.toList_inj]
  simp [Shift.text, Shift.chars, Period.text, Char.toString]

/-- An anchor is described by its text. -/
theorem describeAnchor_value (a : Anchor) : describeAnchor a.value = .ok a.text := by
  cases a with
  | literal date => rfl
  | _ => rfl

/-- An anchor is shown on a line with its text. -/
theorem anchorLines_of_anchor {fields : Fields} {a : Anchor}
    (h : fields.get? "anchor" = some a.value) :
    anchorLines fields = .ok [fieldLine "anchor" a.text] := by
  simp only [anchorLines, h, describeAnchor_value]
  rfl

/-- A base period is shown on a line as one that is added. -/
theorem baseLines_of_base {fields : Fields} {base : Period}
    (h : fields.get? "base" = some base.value) :
    baseLines fields = .ok [fieldLine "base" ("+ " ++ base.text)] := by
  have hrequired : base.value.requireFields .noBase = .ok base.fields := rfl
  have hsign : baseOperation base.fields = ("sign", .str "+") :: base.fields := rfl
  have hwording := describeOperation_fields "+" base
  simp only [baseLines, h, hrequired, hsign, bind, Except.bind, hwording]
  rfl

/-- One line for each operation, by induction on the operations. -/
theorem operationLines_of_shifts {fields : Fields} (shifts : List Shift)
    (h : fields.get? "operations" = some (.list (shifts.map Shift.value))) :
    operationLines fields = .ok (shifts.map fun s => fieldLine "then" s.text) := by
  simp only [operationLines, h, Value.elements?]
  clear h
  induction shifts with
  | nil => rfl
  | cons s shifts ih =>
    have hrequired : s.value.requireFields .noOperation =
        .ok (("sign", .str s.sign.symbol.toString) :: s.period.fields) := rfl
    rw [List.map_cons, List.mapM_cons, ih, hrequired]
    simp only [bind, Except.bind, describeOperation_fields, pure, Except.pure, text_eq,
      List.map_cons]

/-- Every shape but a difference has its lines in one order. -/
theorem expressionLines_of_lines {fields : Fields} (shape : String)
    {anchor base operations : List String} (hshape : fields.get? "shape" = some (.str shape))
    (hne : shape ≠ "difference") (hanchor : anchorLines fields = .ok anchor)
    (hbase : baseLines fields = .ok base) (hoperations : operationLines fields = .ok operations) :
    expressionLines fields =
      .ok (fieldLine "shape" shape :: (anchor ++ base ++ operations)) := by
  simp only [expressionLines, hshape, Option.getD_some, hanchor, hbase, hoperations]
  split
  · rename_i heq
    cases heq
    exact absurd rfl hne
  · rfl

/-- **The wording of the lines is that of the canonical text**, one shape at a time. -/
theorem expressionLines_value (e : Expression) :
    ∃ fields, e.value = .object fields ∧ expressionLines fields = .ok e.shownLines := by
  cases e with
  | anchor a =>
    refine ⟨_, rfl, ?_⟩
    exact Eq.trans (expressionLines_of_lines "anchor" rfl (by decide)
      (anchorLines_of_anchor rfl) rfl rfl) rfl
  | shifted a first more =>
    refine ⟨_, rfl, ?_⟩
    exact Eq.trans (expressionLines_of_lines "anchor_with_operations" rfl (by decide)
      (anchorLines_of_anchor rfl) rfl (operationLines_of_shifts (first :: more) rfl)) rfl
  | difference start finish =>
    refine ⟨_, rfl, ?_⟩
    have hstart := describeAnchor_value start
    have hfinish := describeAnchor_value finish
    simp only [expressionLines, Fields.get?_cons_self, Option.getD_some]
    show (do
      let a ← describeAnchor start.value
      let b ← describeAnchor finish.value
      return [fieldLine "shape" "difference", fieldLine "from" a, fieldLine "to" b] :
        Rendered (List String)) = _
    rw [hstart, hfinish]
    rfl
  | chain base shifts =>
    refine ⟨_, rfl, ?_⟩
    exact Eq.trans (expressionLines_of_lines "period_chain" rfl (by decide) rfl
      (baseLines_of_base rfl) (operationLines_of_shifts shifts rfl)) rfl

end Wording

/-! ## The text of the lines -/

theorem toList_fieldLine (name text : String) :
    (fieldLine name text).toList = ("  " ++ name ++ ": ").toList ++ text.toList := by
  simp [fieldLine]

/-- The part behind each label is found again. -/
theorem shownPart?_lines (text : String) :
    shownPart? (fieldLine "shape" text) = none ∧
      shownPart? (fieldLine "anchor" text) = some text ∧
      shownPart? (fieldLine "base" ("+ " ++ text)) = some text ∧
      shownPart? (fieldLine "then" text) = some text ∧
      shownPart? (fieldLine "from" text) = some text ∧
      shownPart? (fieldLine "to" text) = some ("- " ++ text) := by
  have hbase : ("+ " ++ text).toList = '+' :: ' ' :: text.toList := by simp
  have hlabels : ("  " ++ "shape" ++ ": ").toList = "  shape: ".toList ∧
      ("  " ++ "anchor" ++ ": ").toList = "  anchor: ".toList ∧
      ("  " ++ "base" ++ ": ").toList = "  base: ".toList ∧
      ("  " ++ "then" ++ ": ").toList = "  then: ".toList ∧
      ("  " ++ "from" ++ ": ").toList = "  from: ".toList ∧
      ("  " ++ "to" ++ ": ").toList = "  to: ".toList := by decide
  simp only [shownPart?, partLabels, toList_fieldLine, hlabels, hbase]
  simp [List.findSome?, Token.afterWord?]

/-- The lines of shifts are their texts again. -/
theorem filterMap_shifts (shifts : List Shift) :
    (shifts.map fun s => fieldLine "then" s.text).filterMap shownPart? = shifts.map Shift.text := by
  rw [List.filterMap_map]
  have hpart : shownPart? ∘ (fun s : Shift => fieldLine "then" s.text) = some ∘ Shift.text := by
    funext s
    exact (shownPart?_lines s.text).2.2.2.1
  rw [hpart, List.filterMap_eq_map]

/-- Texts of shifts behind another text, with spaces between them, by induction on the shifts. -/
theorem intercalate_shifts (front : String) (shifts : List Shift) :
    " ".intercalate (front :: shifts.map Shift.text) =
      front ++ String.ofList (Expression.shiftChars shifts) := by
  induction shifts generalizing front with
  | nil => simp [Expression.shiftChars]
  | cons s shifts ih =>
    rw [List.map_cons, String.intercalate_cons_cons, ih, ← String.toList_inj]
    simp [Expression.shiftChars, Shift.text]

/-- **The lines are put together to the canonical text.** -/
theorem joinedParts_shownLines (e : Expression) :
    joinedParts e.shownLines = String.ofList e.chars := by
  cases e with
  | anchor a =>
    simp only [joinedParts, Expression.shownLines, List.filterMap_cons, shownPart?_lines,
      List.filterMap_nil]
    rfl
  | shifted a first more =>
    simp only [joinedParts, Expression.shownLines, List.filterMap_cons, shownPart?_lines,
      filterMap_shifts]
    rw [intercalate_shifts, ← String.toList_inj]
    simp [Expression.chars, Anchor.text]
  | difference start finish =>
    simp only [joinedParts, Expression.shownLines, List.filterMap_cons, shownPart?_lines,
      List.filterMap_nil]
    rw [String.intercalate_cons_cons, ← String.toList_inj]
    simp [Expression.chars, Anchor.text]
  | chain base shifts =>
    simp only [joinedParts, Expression.shownLines, List.filterMap_cons, shownPart?_lines,
      filterMap_shifts]
    rw [intercalate_shifts, ← String.toList_inj]
    simp [Expression.chars, Period.text]

/-! ## Counts of a value -/

/-- A shift that leads somewhere is no longer than any period may be. -/
theorem count_le_of_move? {s : Shift} {d d' : Date} (h : s.move? d = some d') :
    s.period.count ≤ Period.longest := by
  obtain ⟨days, hdays, -⟩ := Option.bind_eq_some_iff.1 h
  obtain ⟨length, hlength, -⟩ := Option.map_eq_some_iff.1 hdays
  unfold Period.days? at hlength
  dsimp only at hlength
  split at hlength
  · rename_i hle
    have hunit : 1 ≤ s.period.unit.days := by
      cases s.period.unit <;> decide
    exact Nat.le_trans (Nat.le_mul_of_pos_left _ hunit) hle
  · cases hlength

/-- Shifts that lead to a date have counts within the longest period. -/
theorem count_le_of_moveAll? {shifts : List Shift} {d d' : Date}
    (h : Shift.moveAll? shifts d = some d') : ∀ s ∈ shifts, s.period.count ≤ Period.longest := by
  induction shifts generalizing d with
  | nil => exact List.forall_mem_nil _
  | cons s shifts ih =>
    obtain ⟨mid, hmove, hmore⟩ := Option.bind_eq_some_iff.1 h
    exact List.forall_mem_cons.2 ⟨count_le_of_move? hmove, ih hmore⟩

/-- **An expression with an outcome has no long count.** -/
theorem count_le_of_evaluate? {e : Expression} {today : Date} {outcome : Outcome}
    (h : e.evaluate? today = some outcome) : ∀ p ∈ e.periods, p.count ≤ Period.longest := by
  cases e with
  | anchor a => exact List.forall_mem_nil _
  | difference start finish => exact List.forall_mem_nil _
  | shifted a first more =>
    obtain ⟨start, -, h⟩ := Option.bind_eq_some_iff.1 h
    obtain ⟨d, hmoved, -⟩ := Option.bind_eq_some_iff.1 h
    have hcounts := count_le_of_moveAll? hmoved
    rw [List.forall_mem_cons] at hcounts
    exact List.forall_mem_cons.2 ⟨hcounts.1, List.forall_mem_map.2 hcounts.2⟩
  | chain base shifts =>
    obtain ⟨start, hbase, h⟩ := Option.bind_eq_some_iff.1 h
    obtain ⟨d, hmoved, -⟩ := Option.bind_eq_some_iff.1 h
    exact List.forall_mem_cons.2 ⟨count_le_of_move? hbase,
      List.forall_mem_map.2 (count_le_of_moveAll? hmoved)⟩

/-! ## Plain lines -/

namespace Text

/-- A plain text of at most so many characters. -/
structure PlainText (most : Nat) (s : List Char) : Prop where
  plain : s.all isPlain = true
  short : s.length ≤ most

/-- Two plain texts after one another are a plain text. -/
theorem PlainText.append {most most' : Nat} {s t : List Char} (hs : PlainText most s)
    (ht : PlainText most' t) : PlainText (most + most') (s ++ t) := by
  refine ⟨?_, ?_⟩
  · rw [List.all_append, hs.plain, ht.plain, Bool.and_self]
  · have hs := hs.short
    have ht := ht.short
    rw [List.length_append]
    omega

theorem PlainText.widen {most most' : Nat} {s : List Char} (h : PlainText most s)
    (hle : most ≤ most') : PlainText most' s :=
  ⟨h.plain, Nat.le_trans h.short hle⟩

/-- The digits of a number are plain, and as many as it has places. -/
theorem plainText_decimal {n places : Nat} (hplaces : 0 < places) (h : n < 10 ^ places) :
    PlainText places (decimal n) :=
  ⟨List.all_eq_true.2 fun _ hc => isPlain_of_isDigit (isDigit_of_mem_decimal hc),
    (length_decimal_le_iff hplaces).2 h⟩

end Text

open Text

/-- A numeral is plain. -/
theorem plainText_of_numeral {least most : Nat} {ds : List Char} (h : Numeral least most ds) :
    PlainText most ds :=
  ⟨List.all_eq_true.2 fun c hc => isPlain_of_isDigit (List.all_eq_true.1 h.all_digits c hc),
    h.le_most⟩

/-- The text of a date is plain. -/
theorem plainText_isoChars (d : Date) : PlainText 10 d.isoChars := by
  have hyphen : PlainText 1 ['-'] := ⟨by decide, Nat.le_refl 1⟩
  have hiso : ∀ {p : List Char} {f : Grammar.DateFields}, Grammar.IsoText p f → PlainText 10 p := by
    rintro p f ⟨hy, hm, hd⟩
    exact ((((plainText_of_numeral hy).append hyphen).append (plainText_of_numeral hm)).append
      hyphen).append (plainText_of_numeral hd)
  exact hiso (Grammar.isoText_isoChars d)

theorem plainText_anchor (a : Anchor) : PlainText 10 a.chars := by
  cases a with
  | literal date => exact plainText_isoChars date
  | _ => exact ⟨by decide, by decide⟩

/-- The text of a period is plain, and short if its count is within the longest period. -/
theorem plainText_period {p : Period} (h : p.count ≤ Period.longest) : PlainText 16 p.chars := by
  have hcount : PlainText 9 (decimal p.count) :=
    plainText_decimal (by decide) (Nat.lt_of_le_of_lt h (by decide))
  have hunit : PlainText 6 (' ' :: p.unit.name.toList) := by
    cases p.unit <;> exact ⟨by decide, by decide⟩
  have hplural : PlainText 1 (if p.count = 1 then [] else ['s']) := by
    split
    · exact ⟨by decide, by decide⟩
    · exact ⟨by decide, by decide⟩
  have htext := (hcount.append hunit).append hplural
  rwa [List.append_assoc, List.cons_append] at htext

/-- The text of a shift is plain, and short if its count is within the longest period. -/
theorem plainText_shift {s : Shift} (h : s.period.count ≤ Period.longest) :
    PlainText 18 s.chars := by
  have hsign : PlainText 2 [s.sign.symbol, ' '] := by
    cases s.sign <;> exact ⟨by decide, by decide⟩
  exact hsign.append (plainText_period h)

/-- A short text on a line of its own leaves the line plain. -/
theorem plain_fieldLine {name text : String} (hname : PlainText 30 name.toList)
    (htext : PlainText 30 text.toList) : Report.Plain (fieldLine name text) := by
  have hfront : PlainText 34 ("  " ++ name ++ ": ").toList := by
    have hblanks : PlainText 2 "  ".toList := ⟨by decide, by decide⟩
    have hcolon : PlainText 2 ": ".toList := ⟨by decide, by decide⟩
    rw [String.toList_append, String.toList_append]
    exact (hblanks.append hname).append hcolon
  have hline : PlainText 64 (fieldLine name text).toList := by
    rw [toList_fieldLine]
    exact hfront.append htext
  refine ⟨hline.plain, ?_, Nat.le_trans hline.short (by decide)⟩
  rw [toList_fieldLine, String.toList_append, String.toList_append]
  simp

/-- The lines of an expression are plain when its counts are short. -/
theorem plain_shownLines {e : Expression} (h : ∀ p ∈ e.periods, p.count ≤ Period.longest) :
    ∀ line ∈ e.shownLines, Report.Plain line := by
  have hanchor : ∀ (name : String) (a : Anchor), PlainText 30 name.toList →
      Report.Plain (fieldLine name a.text) := by
    intro name a hname
    refine plain_fieldLine hname ?_
    rw [Anchor.text, String.toList_ofList]
    exact (plainText_anchor a).widen (by decide)
  have hshifts : ∀ shifts : List Shift, (∀ s ∈ shifts, s.period.count ≤ Period.longest) →
      ∀ line ∈ shifts.map fun s => fieldLine "then" s.text, Report.Plain line := by
    intro shifts hcounts
    refine List.forall_mem_map.2 fun s hs => plain_fieldLine ⟨by decide, by decide⟩ ?_
    rw [Shift.text, String.toList_ofList]
    exact (plainText_shift (hcounts s hs)).widen (by decide)
  cases e with
  | anchor a =>
    simp only [Expression.shownLines, List.forall_mem_cons]
    exact ⟨plain_fieldLine ⟨by decide, by decide⟩ ⟨by decide, by decide⟩,
      hanchor "anchor" a ⟨by decide, by decide⟩, List.forall_mem_nil _⟩
  | shifted a first more =>
    rw [Expression.periods, List.forall_mem_cons, List.forall_mem_map] at h
    simp only [Expression.shownLines]
    rw [List.forall_mem_cons, List.forall_mem_cons]
    exact ⟨plain_fieldLine ⟨by decide, by decide⟩ ⟨by decide, by decide⟩,
      hanchor "anchor" a ⟨by decide, by decide⟩, hshifts _ (List.forall_mem_cons.2 h)⟩
  | difference start finish =>
    simp only [Expression.shownLines, List.forall_mem_cons]
    exact ⟨plain_fieldLine ⟨by decide, by decide⟩ ⟨by decide, by decide⟩,
      hanchor "from" start ⟨by decide, by decide⟩, hanchor "to" finish ⟨by decide, by decide⟩,
      List.forall_mem_nil _⟩
  | chain base shifts =>
    rw [Expression.periods, List.forall_mem_cons, List.forall_mem_map] at h
    simp only [Expression.shownLines]
    rw [List.forall_mem_cons, List.forall_mem_cons]
    refine ⟨plain_fieldLine ⟨by decide, by decide⟩ ⟨by decide, by decide⟩,
      plain_fieldLine ⟨by decide, by decide⟩ ?_, hshifts _ h.2⟩
    have hsign : PlainText 2 "+ ".toList := ⟨by decide, by decide⟩
    have htext : base.text.toList = base.chars := String.toList_ofList
    rw [String.toList_append, htext]
    exact (hsign.append (plainText_period h.1)).widen (by decide)

/-! ## The report of a value -/

/-- What the renderer looks up in the data of a value. -/
theorem Calculation.get?_data (calculation : Calculation) (input : Value) :
    Fields.get? (("input", input) :: calculation.data) "kind" =
        some (.str calculation.outcome.kind) ∧
      Fields.get? (("input", input) :: calculation.data) "expression" =
        some calculation.expression.value := by
  obtain ⟨expression, outcome, reference⟩ := calculation
  cases outcome with
  | date d => exact ⟨rfl, rfl⟩
  | difference days => exact ⟨rfl, rfl⟩

namespace Conditions

section Values

variable {c : Conditions} {text : List Char} {calculation : Calculation} {warnings : List Warning}

/-- The lines of the expression in the report of a value. -/
theorem partLines_of_value (h : c.calculate text = .value calculation warnings) :
    (c.calculateReport text).partLines = .ok calculation.expression.shownLines := by
  obtain ⟨fields, hfields, hlines⟩ := expressionLines_value calculation.expression
  have hexpression : (c.calculateReport text).data.get? "expression" = some (.object fields) := by
    rw [calculateReport, h, ← hfields]
    exact (calculation.get?_data _).2
  have hne : (Value.object fields).isEmpty = false := by
    rw [← hfields]
    cases calculation.expression <;> rfl
  rw [Report.partLines, hexpression]
  simp only [hne, Bool.false_eq_true, if_false, Value.requireFields, bind, Except.bind, hlines]

/-- **The lines of a value for a person**: the result, then on request the text and the parts of the
expression, then the reference date. -/
theorem lines_of_value (h : c.calculate text = .value calculation warnings)
    (verbose showExpression : Bool) :
    (c.calculateReport text).lines verbose showExpression =
      .ok (calculation.outcome.text ::
        ((if verbose || showExpression then
            fieldLine "input" (String.ofList text) :: calculation.expression.shownLines
          else []) ++
          if verbose then (c.calculateReport text).aboutLines else [])) := by
  have hparts := partLines_of_value h
  have hok : (c.calculateReport text).ok = true := Answer.report_ok_iff.2 ⟨_, _, h⟩
  have hop : (c.calculateReport text).op = "calculate" := by rw [calculateReport, h]; rfl
  have hkind : (c.calculateReport text).checkOutcomeKind = .ok () := by
    rw [Report.checkOutcomeKind, calculateReport, h, Answer.report_value_data,
      (calculation.get?_data _).1]
  have hresult : (c.calculateReport text).dataText "result" = calculation.outcome.text := by
    rw [calculateReport, h]; rfl
  have hinput : (c.calculateReport text).dataText "input" = String.ofList text := by
    rw [calculateReport, h]; rfl
  rw [Report.lines, if_pos hok, if_pos hop, Report.calculationLines, hkind, hparts, hresult, hinput]
  cases verbose with
  | true => rfl
  | false => cases showExpression <;> rfl

/-- Besides its parts, a calculation with a value shows the reference date. -/
theorem aboutLines_of_value (h : c.calculate text = .value calculation warnings) :
    (c.calculateReport text).aboutLines =
      [fieldLine "reference_date" calculation.reference.isoText] := by
  rw [calculateReport, h]
  rfl

/-- What a calculation shows besides its parts is plain. -/
theorem plain_aboutLines (h : c.calculate text = .value calculation warnings) :
    ∀ line ∈ (c.calculateReport text).aboutLines, Report.Plain line := by
  rw [aboutLines_of_value h, List.forall_mem_singleton]
  refine plain_fieldLine ⟨by decide, by decide⟩ ?_
  rw [Date.isoText, String.toList_ofList]
  exact (plainText_isoChars _).widen (by decide)

open CommandLine in
/-- The lines of the expression are the last that are printed, before those about the report. -/
theorem out_of_value (h : c.calculate text = .value calculation warnings) (verbose : Bool) :
    ∃ before, (Output.ofReport ⟨false, false, verbose, true⟩ (c.calculateReport text)).out =
      before ++ String.join ((calculation.expression.shownLines ++
        if verbose then (c.calculateReport text).aboutLines else []).map (· ++ "\n")) := by
  obtain ⟨_, -, houtcome, -⟩ := calculate_eq_value_iff.1 h
  have hok : (c.calculateReport text).ok = true := Answer.report_ok_iff.2 ⟨_, _, h⟩
  have hplain : ∀ line ∈ calculation.expression.shownLines ++
      (if verbose then (c.calculateReport text).aboutLines else []), Report.Plain line := by
    refine List.forall_mem_append.2 ⟨plain_shownLines (count_le_of_evaluate? houtcome), ?_⟩
    cases verbose with
    | false => exact List.forall_mem_nil _
    | true => exact plain_aboutLines h
  have hne : calculation.expression.shownLines ++
      (if verbose then (c.calculateReport text).aboutLines else []) ≠ [] := by
    refine List.append_ne_nil_of_left_ne_nil ?_ _
    cases calculation.expression <;> exact List.cons_ne_nil _ _
  obtain ⟨shown, hshown⟩ := Report.echo_console_last hne hplain
    [calculation.outcome.text, fieldLine "input" (String.ofList text)]
  refine ⟨shown, ?_⟩
  rw [← hshown]
  have hrender : (c.calculateReport text).render ⟨false, false, verbose, true⟩ =
      .ok (Report.console ([calculation.outcome.text, fieldLine "input" (String.ofList text)] ++
        (calculation.expression.shownLines ++
          if verbose then (c.calculateReport text).aboutLines else []))) := by
    show (do return Report.console (← (c.calculateReport text).lines verbose true)) = _
    rw [lines_of_value h, Bool.or_true]
    rfl
  rw [Output.ofReport, hrender]
  simp only [hok, if_true]

/-- The canonical text of the expression of a value has that value again, with nothing left over. -/
theorem calculate_chars_of_value (h : c.calculate text = .value calculation warnings) :
    c.calculate calculation.expression.chars = .value calculation c.referenceWarnings := by
  obtain ⟨_, -, houtcome, hreference, -⟩ := calculate_eq_value_iff.1 h
  -- The counts are those of a text that was worked out, so the canonical text is read as well.
  have hread : c.read calculation.expression.chars = .full calculation.expression := by
    refine Grammar.parse_full_iff.2 (Grammar.expressionText_chars _ fun p hp => ?_)
    have hcount := count_le_of_evaluate? houtcome p hp
    have hshort : (decimal p.count).length ≤ 9 :=
      (length_decimal_le_iff (by decide)).2 (Nat.lt_of_le_of_lt hcount (by decide))
    exact Nat.le_trans hshort (by decide)
  refine calculate_eq_value_iff.2 ⟨[], ?_, houtcome, hreference, (List.append_nil _).symm⟩
  rw [hread]
  rfl

/-- The data of the report of a value, the text aside, are those of the value. -/
theorem data_of_value (h : c.calculate text = .value calculation warnings) :
    (c.calculateReport text).data.filter (fun field => field.1 ≠ "input") = calculation.data := by
  rw [calculateReport, h]
  cases houtcome : calculation.outcome with
  | date d => simp [Answer.report, Calculation.data, houtcome, Outcome.fields]
  | difference days => simp [Answer.report, Calculation.data, houtcome, Outcome.fields]

end Values

/-- No warning about leftover input is worded like one about the reference date. -/
theorem leftover_not_mem_referenceWarnings (c : Conditions) (remaining : List Char) :
    (Warning.leftover remaining).text ∉ c.referenceWarnings.map Warning.text := by
  intro hmem
  have hfiltered := filter_warnings (c := c) (List.forall_mem_nil _)
  rw [List.append_nil, List.map_nil] at hfiltered
  have hnone := List.filter_eq_nil_iff.1 hfiltered _ hmem
  rw [isIgnoredReferenceText_leftover] at hnone
  exact hnone rfl

open CommandLine in
/-- **The expression that is shown is read back.**  The parts of the expression of a value are the
last lines that are printed, before those about the report.  Put together again, they are a text
that has the same data under the same conditions, and nothing of it is left over. -/
theorem shown_expression_read_back {c : Conditions} {text : List Char}
    (hok : (c.calculateReport text).ok = true) :
    ∃ parts, (c.calculateReport text).partLines = .ok parts ∧
      (∀ verbose, ∃ before,
        (Output.ofReport ⟨false, false, verbose, true⟩ (c.calculateReport text)).out =
          before ++ String.join
            ((parts ++ if verbose then (c.calculateReport text).aboutLines else []).map
              (· ++ "\n"))) ∧
      (c.calculateReport (joinedParts parts).toList).ok = true ∧
      (c.calculateReport (joinedParts parts).toList).data =
        ("input", .str (joinedParts parts)) ::
          (c.calculateReport text).data.filter (fun field => field.1 ≠ "input") ∧
      (c.calculateReport (joinedParts parts).toList).warnings =
        c.referenceWarnings.map Warning.text ∧
      ∀ remaining, (Warning.leftover remaining).text ∉
        (c.calculateReport (joinedParts parts).toList).warnings := by
  obtain ⟨calculation, warnings, hvalue⟩ := Answer.report_ok_iff.1 hok
  have htext : (joinedParts calculation.expression.shownLines).toList =
      calculation.expression.chars := by
    rw [joinedParts_shownLines, String.toList_ofList]
  have hreport : c.calculateReport calculation.expression.chars =
      (Answer.value calculation c.referenceWarnings).report "calculate"
        calculation.expression.chars Calculation.data fun calculation =>
          some [("reference_date", .str calculation.reference.isoText)] := by
    rw [calculateReport, calculate_chars_of_value hvalue]
  refine ⟨calculation.expression.shownLines, partLines_of_value hvalue, out_of_value hvalue, ?_⟩
  rw [htext, hreport, data_of_value hvalue, joinedParts_shownLines]
  exact ⟨rfl, rfl, rfl, c.leftover_not_mem_referenceWarnings⟩

open CommandLine in
/-- A sentence with leftover input, shown as an anchor and two shifts. -/
theorem shown_expression_read_back_sentence :
    let c : Conditions := ⟨some "someday", .first, false⟩
    let report := c.calculateReport "1 week and 2 days after 2022-01-31 or so".toList
    report.ok = true ∧
      ∃ parts, report.partLines = .ok parts ∧
        (∀ verbose, ∃ before,
          (Output.ofReport ⟨false, false, verbose, true⟩ report).out =
            before ++ String.join
              ((parts ++ if verbose then report.aboutLines else []).map (· ++ "\n"))) ∧
        (c.calculateReport (joinedParts parts).toList).ok = true ∧
        (c.calculateReport (joinedParts parts).toList).data =
          ("input", .str (joinedParts parts)) ::
            report.data.filter (fun field => field.1 ≠ "input") ∧
        (c.calculateReport (joinedParts parts).toList).warnings =
          c.referenceWarnings.map Warning.text ∧
        ∀ remaining, (Warning.leftover remaining).text ∉
          (c.calculateReport (joinedParts parts).toList).warnings := by
  intro c report
  have hok : report.ok = true := by decide
  exact ⟨hok, shown_expression_read_back hok⟩

end Conditions

end DateCalc
