/-
  Expressions are read back from their canonical text.

  The canonical text of an expression is put together from the texts of its parts, and each part is
  one of the spellings that the grammar has for it: a count is a numeral, a date is in the ISO form
  with all its digits, a shift has one blank on either side of its sign.  So the grammar derives the
  canonical text with the value that it was written from, whatever the shape of the expression.

  One condition is left.  A count may be any number, but there is a longest numeral that is read.
  An expression with a longer count is not read from any text, so the condition cannot be dropped.
-/
import Mathlib.Algebra.Group.Nat.Defs
import DateCalc.Proofs.Grammar.Expressions

namespace DateCalc

/-! ## Decimal numbers as numerals -/

namespace Text

theorem decimal_all_digits (n : Nat) : (decimal n).all Char.isDigit = true :=
  List.all_eq_true.2 fun _ h => isDigit_of_mem_decimal h

theorem length_decimal_le_iff {n most : Nat} (hmost : 0 < most) :
    (decimal n).length ≤ most ↔ n < 10 ^ most :=
  Nat.length_toDigits_le_iff (by decide) hmost

/-- Digits behind a number that was read before them add so many places to it. -/
theorem ofDigitChars_lt {ds : List Char} (hds : ds.all Char.isDigit = true) (before : Nat) :
    Nat.ofDigitChars 10 ds before < (before + 1) * 10 ^ ds.length := by
  induction ds generalizing before with
  | nil => simp
  | cons c ds ih =>
    rw [List.all_cons, Bool.and_eq_true] at hds
    have hc := isDigit_iff.1 hds.1
    have hzero : '0'.toNat = 48 := rfl
    have hlt := ih hds.2 (10 * before + (c.toNat - '0'.toNat))
    have hle : 10 * before + (c.toNat - '0'.toNat) + 1 ≤ (before + 1) * 10 := by omega
    rw [Nat.ofDigitChars_cons, List.length_cons, Nat.pow_succ', ← Nat.mul_assoc]
    exact Nat.lt_of_lt_of_le hlt (Nat.mul_le_mul_right _ hle)

/-- A number has no more digits than any run of digits that denotes it. -/
theorem length_decimal_decimalValue_le {ds : List Char} (hds : ds.all Char.isDigit = true)
    (hne : ds ≠ []) : (decimal (decimalValue ds)).length ≤ ds.length := by
  rw [length_decimal_le_iff (List.length_pos_iff.2 hne)]
  have hlt := ofDigitChars_lt hds 0
  rwa [Nat.zero_add, Nat.one_mul] at hlt

theorem decimal_numeral {n most : Nat} (h : (decimal n).length ≤ most) :
    Numeral 1 most (decimal n) :=
  ⟨decimal_all_digits n, List.length_pos_iff.2 (decimal_ne_nil n), h⟩

/-- A number that fits a width is written in exactly so many digits. -/
theorem paddedDecimal_numeral {n width : Nat} (h : (decimal n).length ≤ width) :
    Numeral width width (paddedDecimal width n) := by
  have hlength : (paddedDecimal width n).length = width := by
    rw [paddedDecimal, padLeft, List.length_append, List.length_replicate]
    omega
  refine ⟨?_, Nat.le_of_eq hlength.symm, Nat.le_of_eq hlength⟩
  rw [paddedDecimal, padLeft, List.all_append, decimal_all_digits, Bool.and_true,
    List.all_eq_true]
  intro c hc
  obtain rfl := (List.mem_replicate.1 hc).2
  rfl

end Text

/-- The count is written in so few digits that they are read as a number. -/
def Period.Readable (p : Period) : Prop := (Text.decimal p.count).length ≤ Text.longestNumber

instance (p : Period) : Decidable p.Readable := inferInstanceAs (Decidable (_ ≤ _))

/-- The periods in an expression. -/
def Expression.periods : Expression → List Period
  | anchor _ | difference _ _ => []
  | shifted _ first more => first.period :: more.map Shift.period
  | chain base shifts => base :: shifts.map Shift.period

namespace Grammar

open Rule

/-! ## Dates and anchors -/

/-- No month has more than 31 days. -/
theorem daysInMonth_le (year month : Nat) : daysInMonth year month ≤ 31 := by
  unfold daysInMonth
  split
  case h_12 => split <;> decide
  all_goals decide

/-- The three numbers of a date fit the widths in which they are written. -/
theorem isoText_isoChars (d : Date) : IsoText d.isoChars ⟨d.year, d.month, d.day⟩ := by
  have hyear : (Text.decimal d.year).length ≤ 4 := by
    rw [Text.length_decimal_le_iff (by decide)]
    exact Nat.lt_of_le_of_lt d.year_le (by decide)
  have hmonth : (Text.decimal d.month).length ≤ 2 := by
    rw [Text.length_decimal_le_iff (by decide)]
    exact Nat.lt_of_le_of_lt d.month_range.2 (by decide)
  have hday : (Text.decimal d.day).length ≤ 2 := by
    rw [Text.length_decimal_le_iff (by decide)]
    exact Nat.lt_of_le_of_lt (Nat.le_trans d.day_le (daysInMonth_le _ _)) (by decide)
  have htext := IsoText.mk (Text.paddedDecimal_numeral hyear)
    ((Text.paddedDecimal_numeral hmonth).widen (by decide) (by decide))
    ((Text.paddedDecimal_numeral hday).widen (by decide) (by decide))
  simpa only [Date.isoChars, Text.decimalValue_paddedDecimal, List.append_assoc, List.cons_append,
    List.nil_append] using htext

/-- The ISO text of a date names it, whatever the reference date. -/
theorem dateText_isoChars (reference d : Date) : DateText reference d.isoChars d :=
  .iso (isoText_isoChars d) d.make?_self

/-- An anchor is shown as one of its texts. -/
theorem anchorText_chars (reference : Date) (a : Anchor) : AnchorText reference a.chars a := by
  cases a with
  | today => exact .today
  | yesterday => exact .yesterday
  | tomorrow => exact .tomorrow
  | literal d => exact .literal (w := []) rfl (dateText_isoChars reference d)

/-! ## Periods and shifts -/

theorem gap_space : Gap [' '] := ⟨by decide, List.cons_ne_nil _ _⟩

/-- A period that is not too long to be read is shown as one of its texts. -/
theorem periodText_chars {p : Period} (h : p.Readable) : PeriodText p.chars p := by
  have hcount : QuantityText (Text.decimal p.count) p.count := by
    have hfigures := QuantityText.figures (Text.decimal_numeral h)
    rwa [Text.decimalValue_decimal] at hfigures
  have hsplit : ∀ v, UnitText v p.unit → PeriodText (Text.decimal p.count ++ ' ' :: v) p := by
    intro v hv
    have hperiod := PeriodText.mk hcount gap_space hv
    rwa [List.append_assoc] at hperiod
  apply hsplit
  split
  · rw [List.append_nil]
    exact .singular p.unit
  · exact .plural p.unit

/-- A shift behind a blank. -/
theorem shiftText_chars {s : Shift} (h : s.period.Readable) : ShiftText (' ' :: s.chars) s := by
  have htext : ShiftText ([' '] ++ [s.sign.symbol] ++ [' '] ++ s.period.chars) s :=
    .mk s.sign gap_space.1 gap_space.1 (periodText_chars h)
  exact htext

/-- Shifts are shown as texts of each of them, one after the other. -/
theorem each_shiftChars {shifts : List Shift} (h : ∀ s ∈ shifts, s.period.Readable) :
    Each ShiftText (Expression.shiftChars shifts) shifts := by
  induction shifts with
  | nil => exact .nil
  | cons s shifts ih =>
    rw [List.forall_mem_cons] at h
    exact .cons (shiftText_chars h.1) (ih h.2)

/-! ## Expressions -/

/-- **The grammar derives the canonical text** of an expression with that expression; one case for
each shape. -/
theorem expressionText_chars (reference : Date) {e : Expression}
    (h : ∀ p ∈ e.periods, p.Readable) : ExpressionText reference e.chars e := by
  cases e with
  | anchor a => exact .anchor (anchorText_chars reference a)
  | shifted a first more =>
    rw [Expression.periods, List.forall_mem_cons, List.forall_mem_map] at h
    have htext := ExpressionText.shifted (anchorText_chars reference a) (shiftText_chars h.1)
      (each_shiftChars h.2)
    rwa [List.append_assoc] at htext
  | difference start finish =>
    have htext := ExpressionText.difference (anchorText_chars reference start) gap_space.1
      gap_space.1 (anchorText_chars reference finish)
    have hbetween : " - ".toList = [' '] ++ ['-'] ++ [' '] := rfl
    simpa only [Expression.chars, hbetween, List.append_assoc] using htext
  | chain base shifts =>
    rw [Expression.periods, List.forall_mem_cons, List.forall_mem_map] at h
    exact .chain (periodText_chars h.1) (each_shiftChars h.2)

/-! ## What is read is readable

  Whatever text a count is read from, digits or a word, the number has no more digits than are
  read; so no expression with a longer count is read at all. -/

/-- A count that was read has no more digits than can be read. -/
theorem QuantityText.length_decimal_le {q : List Char} {n : Nat} (h : QuantityText q n) :
    (Text.decimal n).length ≤ Text.longestNumber := by
  cases h with
  | figures hds =>
    exact Nat.le_trans (Text.length_decimal_decimalValue_le hds.all_digits hds.ne_nil) hds.le_most
  | word hmem =>
    have hwords : ∀ e ∈ quantityWords, (Text.decimal e.2).length ≤ Text.longestNumber := by decide
    exact hwords _ hmem

theorem PeriodText.readable {q : List Char} {p : Period} (h : PeriodText q p) : p.Readable := by
  cases h with
  | mk hq => exact hq.length_decimal_le

theorem ShiftText.readable {q : List Char} {s : Shift} (h : ShiftText q s) :
    s.period.Readable := by
  cases h with
  | mk sign hw hw' hp => exact hp.readable

/-- The periods of a sentence that was read can be read again. -/
theorem SentenceText.readable {q : List Char} {list : Sentence} (h : SentenceText q list) :
    ∀ p ∈ list.first :: list.more, p.Readable := by
  cases h with
  | single hp => simp [hp.readable]
  | pair hp _ hq => simp [hp.readable, hq.readable]
  | list hp hps _ _ hq =>
    have hlisted : ∀ {q : List Char} {p : Period}, ListedText q p → p.Readable := by
      rintro q p ⟨-, hp⟩
      exact hp.readable
    rw [List.forall_mem_cons, List.forall_mem_append, List.forall_mem_singleton]
    exact ⟨hp.readable, hps.forall_mem hlisted, hq.readable⟩

/-- A direction changes no period of a sentence. -/
theorem Sentence.periods_shiftedFrom (list : Sentence) (direction : Sign) (start : Anchor) :
    (list.shiftedFrom direction start).periods = list.first :: list.more := by
  simp [Sentence.shiftedFrom, Expression.periods, Function.comp_def]

/-- The periods of an expression that was read can be read again. -/
theorem ExpressionText.readable {reference : Date} {q : List Char} {e : Expression}
    (h : ExpressionText reference q e) : ∀ p ∈ e.periods, p.Readable := by
  have hshifts : ∀ {qs : List Char} {shifts : List Shift}, Each ShiftText qs shifts →
      ∀ p ∈ shifts.map Shift.period, p.Readable := by
    intro qs shifts hqs
    rw [List.forall_mem_map]
    exact hqs.forall_mem ShiftText.readable
  cases h with
  | shifted _ hfirst hmore => exact List.forall_mem_cons.2 ⟨hfirst.readable, hshifts hmore⟩
  | difference | anchor => exact List.forall_mem_nil _
  | ago hlist => rw [Sentence.periods_shiftedFrom]; exact hlist.readable
  | fromAnchor hlist => rw [Sentence.periods_shiftedFrom]; exact hlist.readable
  | afterAnchor hlist => rw [Sentence.periods_shiftedFrom]; exact hlist.readable
  | beforeAnchor hlist => rw [Sentence.periods_shiftedFrom]; exact hlist.readable
  | chain hbase hqs => exact List.forall_mem_cons.2 ⟨hbase.readable, hshifts hqs⟩

/-! ## Round trip -/

/-- **Canonical text is read back**: the text of an expression is read in full as that expression,
whatever its shape and the reference date, exactly when no count in it is longer than the longest
number that is read. -/
theorem parseExpression_chars_iff (reference : Date) (e : Expression) :
    parseExpression reference e.chars = .full e ↔ ∀ p ∈ e.periods, p.Readable := by
  rw [parse_full_iff]
  constructor
  · intro h
    exact h.readable
  · intro h
    exact expressionText_chars reference h

example : (Expression.shifted (.literal .first) ⟨.minus, ⟨.week, 1⟩⟩ [⟨.plus, ⟨.day, 0⟩⟩]).chars =
    "0001-01-01 - 1 week + 0 days".toList := by decide

end Grammar

end DateCalc
