/-
  A sentence says the same as a row of shifts.

  Periods may be listed in English, with a trailing phrase that gives them a direction, or written
  one after the other behind an anchor, each with the sign of that direction:

    P1, P2, and P3 before A      A - P1 - P2 - P3
    P1, P2, and P3 after A       A + P1 + P2 + P3
    P1, P2, and P3 ago           today - P1 - P2 - P3

  Two parts of the grammar read them, but both derive one expression: the periods in the order in
  which they are listed, each with the direction of the phrase.  So a calculation makes the same of
  either text, whatever the conditions and whether or not a date on the way leaves the calendar.
-/
import Mathlib.Data.List.Forall2
import DateCalc.Proofs.Calculation.Outcomes
import DateCalc.Proofs.Grammar.Canonical

namespace DateCalc

namespace Grammar

/-! ## The two ways to write periods -/

/-- The rest of a list of three or more behind the comma of its first period. -/
def listTail : (next : List Char) → (more : List (List Char)) → List Char
  | last, [] => " and ".toList ++ last
  | p, q :: more => [' '] ++ p ++ [','] ++ listTail q more

/-- Periods as an English list: two with "and" between them, more with a comma before each further
one. -/
def englishList (first : List Char) : (more : List (List Char)) → List Char
  | [] => first
  | [second] => first ++ " and ".toList ++ second
  | p :: q :: more => first ++ [','] ++ listTail p (q :: more)

/-- Periods with one sign before each. -/
def signedRow (sign : Sign) (periods : List (List Char)) : List Char :=
  periods.flatMap fun p => [' '] ++ [sign.symbol] ++ [' '] ++ p

example : englishList "1 day".toList ["2 weeks".toList, "3 days".toList, "1 year".toList] =
    "1 day, 2 weeks, 3 days, and 1 year".toList := by decide
example : signedRow .minus ["1 day".toList, "2 weeks".toList] = " - 1 day - 2 weeks".toList := by
  decide

/-! ## What the grammar makes of them -/

theorem andText_blanks : AndText " and ".toList := .mk gap_space gap_space

/-- The tail of a list is further periods with commas, the word "and", and a last period. -/
theorem listTail_text {p : List Char} {ps : List (List Char)} {a : Period} {as : List Period}
    (hp : PeriodText p a) (hps : List.Forall₂ PeriodText ps as) :
    ∃ (t q : List Char) (bs : List Period) (b : Period),
      listTail p ps = t ++ " and ".toList ++ q ∧ Each ListedText t bs ∧ PeriodText q b ∧
        a :: as = bs ++ [b] := by
  induction hps generalizing p a with
  | nil => exact ⟨[], p, [], a, rfl, .nil, hp, rfl⟩
  | @cons p' a' ps as hp' _ ih =>
    obtain ⟨t, q, bs, b, htail, ht, hq, has⟩ := ih hp'
    refine ⟨[' '] ++ p ++ [','] ++ t, q, a :: bs, b, ?_, .cons (.mk gap_space hp) ht, hq, ?_⟩
    · show [' '] ++ p ++ [','] ++ listTail p' ps = _
      rw [htail]
      simp only [List.append_assoc]
    · rw [has, List.cons_append]

/-- An English list is a sentence of its periods in order, however many there are. -/
theorem sentenceText_englishList {p : List Char} {ps : List (List Char)} {a : Period}
    {as : List Period} (hp : PeriodText p a) (hps : List.Forall₂ PeriodText ps as) :
    SentenceText (englishList p ps) ⟨a, as⟩ := by
  cases hps with
  | nil => exact .single hp
  | @cons p₁ a₁ ps as hp₁ hps =>
    cases hps with
    | nil => exact .pair hp andText_blanks hp₁
    | @cons p₂ a₂ ps as hp₂ hps =>
      obtain ⟨t, q, bs, b, htail, ht, hq, has⟩ := listTail_text hp₁ (.cons hp₂ hps)
      -- Two periods stand behind the first one, so the last is not the only one of them.
      have hne : bs ≠ [] := by
        rintro rfl
        have hlength := congrArg List.length has
        simp at hlength
      have hsentence := SentenceText.list hp ht hne andText_blanks hq
      rw [← has] at hsentence
      show SentenceText (p ++ [','] ++ listTail p₁ (p₂ :: ps)) ⟨a, a₁ :: a₂ :: as⟩
      rw [htail]
      simpa only [List.append_assoc] using hsentence

/-- A row of signed periods is as many shifts with that sign. -/
theorem each_signedRow (sign : Sign) {ps : List (List Char)} {as : List Period}
    (hps : List.Forall₂ PeriodText ps as) :
    Each ShiftText (signedRow sign ps) (as.map fun a => ⟨sign, a⟩) := by
  induction hps with
  | nil => exact .nil
  | cons hp _ ih => exact .cons (.mk sign gap_space.1 gap_space.1 hp) ih

section Texts

variable {reference : Date} {p q : List Char} {ps : List (List Char)} {a : Period}
  {as : List Period} {b : Anchor}

/-- Behind an anchor, a row of signed periods means what the sentence of them means. -/
theorem expressionText_signedRow (sign : Sign) (hp : PeriodText p a)
    (hps : List.Forall₂ PeriodText ps as) (hq : AnchorText reference q b) :
    ExpressionText reference (q ++ signedRow sign (p :: ps))
      (Sentence.shiftedFrom ⟨a, as⟩ sign b) := by
  have htext := ExpressionText.shifted hq (.mk sign gap_space.1 gap_space.1 hp)
    (each_signedRow sign hps)
  rwa [List.append_assoc] at htext

end Texts

end Grammar

/-! ## Reports that agree -/

/-- The two reports differ at most in the text that they repeat: in the field of the data that holds
it, and in the wording and the particulars of an error. -/
structure Report.Agrees (r r' : Report) : Prop where
  ok : r.ok = r'.ok
  op : r.op = r'.op
  data : r.data.filter (fun field => field.1 ≠ "input") =
    r'.data.filter fun field => field.1 ≠ "input"
  warnings : r.warnings = r'.warnings
  code : r.code? = r'.code?
  about : r.about = r'.about

/-- The code of a refusal is the same for every text. -/
theorem Refusal.code_problem (refusal : Refusal) (text text' : List Char) :
    (refusal.problem text).code = (refusal.problem text').code := by
  cases refusal with
  | unreadable failure => rfl
  | leftover remaining => rfl
  | outOfRange => rfl

/-- One answer to two texts makes two reports that agree. -/
theorem Answer.report_agrees {α : Type} (answer : Answer α) (op : String)
    (text text' : List Char) (data : α → Fields) (about : α → Option Fields) :
    (answer.report op text data about).Agrees (answer.report op text' data about) := by
  cases answer with
  | value a warnings => exact ⟨rfl, rfl, rfl, rfl, rfl, rfl⟩
  | refused refusal =>
    refine ⟨rfl, rfl, rfl, rfl, ?_, rfl⟩
    show some (refusal.problem text).code = some (refusal.problem text').code
    rw [refusal.code_problem text text']

namespace Conditions

/-- A calculation sees of a text only what it is read as. -/
theorem calculateReport_agrees (c : Conditions) {text text' : List Char}
    (h : c.read text = c.read text') :
    (c.calculateReport text).Agrees (c.calculateReport text') := by
  have hanswer : c.calculate text = c.calculate text' := by rw [calculate, calculate, h]
  rw [calculateReport, calculateReport, hanswer]
  exact Answer.report_agrees _ _ _ _ _ _

/-- Both texts are read in full as the expression, and their reports agree. -/
structure CalculatesAlike (c : Conditions) (e : Expression) (text text' : List Char) : Prop where
  read : c.read text = .full e
  read' : c.read text' = .full e
  agrees : (c.calculateReport text).Agrees (c.calculateReport text')

/-- Two texts that the grammar derives with one expression are read alike. -/
theorem calculatesAlike_of_text {c : Conditions} {e : Expression} {text text' : List Char}
    (h : Grammar.ExpressionText c.reference.date text e)
    (h' : Grammar.ExpressionText c.reference.date text' e) : c.CalculatesAlike e text text' := by
  have hread : c.read text = .full e := Grammar.parse_full_iff.2 h
  have hread' : c.read text' = .full e := Grammar.parse_full_iff.2 h'
  exact ⟨hread, hread', c.calculateReport_agrees (hread.trans hread'.symm)⟩

open Grammar in
/-- **A sentence says the same as a row of shifts**: for any number of periods and any anchor, in
every spelling, the sentence with its trailing phrase and the anchor with the signed periods are
both read in full as the anchor moved by the periods in their order and in the direction of the
phrase, and their reports differ only in their text. -/
theorem sentence_agrees_with_shifts (c : Conditions) {p q : List Char} {ps : List (List Char)}
    {a : Period} {as : List Period} {b : Anchor} (hp : PeriodText p a)
    (hps : List.Forall₂ PeriodText ps as) (hq : AnchorText c.reference.date q b) :
    c.CalculatesAlike (.shifted b ⟨.minus, a⟩ (as.map fun p => ⟨.minus, p⟩))
        (englishList p ps ++ " before ".toList ++ q) (q ++ signedRow .minus (p :: ps)) ∧
      c.CalculatesAlike (.shifted b ⟨.plus, a⟩ (as.map fun p => ⟨.plus, p⟩))
        (englishList p ps ++ " after ".toList ++ q) (q ++ signedRow .plus (p :: ps)) ∧
      c.CalculatesAlike (.shifted b ⟨.plus, a⟩ (as.map fun p => ⟨.plus, p⟩))
        (englishList p ps ++ " from ".toList ++ q) (q ++ signedRow .plus (p :: ps)) ∧
      c.CalculatesAlike (.shifted .today ⟨.minus, a⟩ (as.map fun p => ⟨.minus, p⟩))
        (englishList p ps ++ " ago".toList) ("today".toList ++ signedRow .minus (p :: ps)) := by
  have hlist := sentenceText_englishList hp hps
  refine ⟨?_, ?_, ?_, ?_⟩
  · exact calculatesAlike_of_text (.beforeAnchor hlist hq)
      (expressionText_signedRow .minus hp hps hq)
  · exact calculatesAlike_of_text (.afterAnchor hlist hq)
      (expressionText_signedRow .plus hp hps hq)
  · exact calculatesAlike_of_text (.fromAnchor hlist hq)
      (expressionText_signedRow .plus hp hps hq)
  · exact calculatesAlike_of_text (.ago hlist) (expressionText_signedRow .minus hp hps .today)

open Grammar in
/-- A list of three and a date of its own, in canonical spellings. -/
theorem sentence_agrees_with_shifts_listed :
    let c : Conditions := ⟨none, .first, true⟩
    let day : Date := ⟨2022, 1, 31, by decide, by decide, by decide, by decide⟩
    let list := "1 year, 2 months, and 3 days".toList
    let date := "2022-01-31".toList
    let added := " + 1 year + 2 months + 3 days".toList
    let subtracted := " - 1 year - 2 months - 3 days".toList
    c.CalculatesAlike (.shifted (.literal day) ⟨.minus, ⟨.year, 1⟩⟩
        [⟨.minus, ⟨.month, 2⟩⟩, ⟨.minus, ⟨.day, 3⟩⟩])
        (list ++ " before ".toList ++ date) (date ++ subtracted) ∧
      c.CalculatesAlike (.shifted (.literal day) ⟨.plus, ⟨.year, 1⟩⟩
        [⟨.plus, ⟨.month, 2⟩⟩, ⟨.plus, ⟨.day, 3⟩⟩])
        (list ++ " after ".toList ++ date) (date ++ added) ∧
      c.CalculatesAlike (.shifted (.literal day) ⟨.plus, ⟨.year, 1⟩⟩
        [⟨.plus, ⟨.month, 2⟩⟩, ⟨.plus, ⟨.day, 3⟩⟩])
        (list ++ " from ".toList ++ date) (date ++ added) ∧
      c.CalculatesAlike (.shifted .today ⟨.minus, ⟨.year, 1⟩⟩
        [⟨.minus, ⟨.month, 2⟩⟩, ⟨.minus, ⟨.day, 3⟩⟩])
        (list ++ " ago".toList) ("today".toList ++ subtracted) := by
  intro c day list date added subtracted
  have hyear : PeriodText "1 year".toList ⟨.year, 1⟩ :=
    periodText_chars (p := ⟨.year, 1⟩) (by decide)
  have hmonths : PeriodText "2 months".toList ⟨.month, 2⟩ :=
    periodText_chars (p := ⟨.month, 2⟩) (by decide)
  have hdays : PeriodText "3 days".toList ⟨.day, 3⟩ :=
    periodText_chars (p := ⟨.day, 3⟩) (by decide)
  have hdate := anchorText_chars c.reference.date (.literal day)
  have hday : (Anchor.literal day).chars = date := by decide
  rw [hday] at hdate
  have hlist : englishList "1 year".toList ["2 months".toList, "3 days".toList] = list := by decide
  have hadded : signedRow .plus ["1 year".toList, "2 months".toList, "3 days".toList] = added := by
    decide
  have hsubtracted : signedRow .minus ["1 year".toList, "2 months".toList, "3 days".toList] =
      subtracted := by
    decide
  have halike := c.sentence_agrees_with_shifts hyear (.cons hmonths (.cons hdays .nil)) hdate
  rw [hlist, hadded, hsubtracted] at halike
  exact halike

end Conditions

end DateCalc
