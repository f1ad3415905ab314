/-
  Which texts may be set for the reference date.

  The text set for the reference date and the dates inside expressions are read from two sides.  A
  set text is trimmed, must be one literal date, and may leave blanks only; an expression is the
  first of five alternatives that matches, and it is read in full when nothing is left at all.  Both
  come down to one spelling: a set text is a date with blanks around it (`PaddedDateText`), and a
  text without blanks around it is such a date exactly when the grammar of expressions spells it as
  a lone literal anchor.  Keywords, shifts, a second date and days that do not exist are on neither
  side.

  There is one thing that only a set text can be: blank.  Then it counts as not set, and the clock
  is used without a word.
-/
import DateCalc.Proofs.Calculation.Warnings
import DateCalc.Proofs.Grammar.TrailingBlanks

namespace DateCalc

/-! ## Blanks around a text -/

namespace Text

/-- Blanks around a text make no difference to what trimming leaves of it. -/
theorem trim_surrounded {u v : List Char} (hu : allBlank u = true) (hv : allBlank v = true)
    (t : List Char) : trim (u ++ t ++ v) = trim t := by
  rw [trim_append_of_allBlank hv, trim, trimStart_append_of_allBlank hu]
  rfl

/-- Nothing is left of a text exactly when it is blank. -/
theorem trim_eq_nil_iff {s : List Char} : trim s = [] ↔ allBlank s = true := by
  constructor
  · intro h
    obtain ⟨w, hs, hw⟩ := Grammar.eq_append_trim s
    have hleading : allBlank (s.takeWhile isBlank) = true := List.all_takeWhile
    rw [h, List.append_nil] at hs
    rw [hs]
    exact allBlank_append.2 ⟨hleading, hw⟩
  · intro h
    exact trim_append_of_allBlank h []

end Text

namespace Grammar

/-! ## Lone anchors -/

/-- The grammar spells a lone anchor exactly as it spells the anchor. -/
theorem expressionText_anchor_iff {reference : Date} {t : List Char} {a : Anchor} :
    ExpressionText reference t (.anchor a) ↔ AnchorText reference t a := by
  constructor
  · intro h
    generalize he : Expression.anchor a = e at h
    cases h with
    | anchor ha =>
      cases he
      exact ha
    | _ => cases he
  · exact .anchor

/-- What is a literal anchor is a date with blanks before it; without blanks around it, a date is a
literal anchor as well. -/
theorem paddedDateText_iff_anchor {reference d : Date} {t : List Char} (ht : Text.trim t = t) :
    PaddedDateText reference t d ↔ AnchorText reference t (.literal d) := by
  constructor
  · intro h
    cases h with
    | @mk w p w' _ hw hp hw' =>
      -- Trimming leaves the date alone, and it leaves the text as it is.
      have hdate := trim_append hw hw' (hp.front.stops_blank w') hp.stops_blank_reverse
      rw [← ht, hdate]
      exact .literal (w := []) rfl hp
  · intro h
    cases h with
    | @literal w p _ hw hp =>
      have hpadded : PaddedDateText reference (w ++ p ++ []) d := .mk hw hp rfl
      rwa [List.append_nil] at hpadded

/-- **Set texts and literal anchors are the same dates**: what may be set, apart from blanks around
it, is what is read in full as an expression that is a lone literal date. -/
theorem paddedDateText_iff_parse {reference d : Date} {u t v : List Char}
    (hu : Text.allBlank u = true) (hv : Text.allBlank v = true) (ht : Text.trim t = t) :
    PaddedDateText reference (u ++ t ++ v) d ↔
      parseExpression reference t = .full (.anchor (.literal d)) := by
  rw [← paddedDateText_trim_iff, Text.trim_surrounded hu hv, ht, parse_full_iff,
    expressionText_anchor_iff, paddedDateText_iff_anchor ht]

end Grammar

/-! ## The reference date -/

namespace Conditions

open Grammar

/-- A day is the reference date, and nothing is said about a text that was put aside. -/
def UsesSilently (c : Conditions) (d : Date) : Prop :=
  c.reference.date = d ∧ c.referenceWarnings = []

instance (c : Conditions) (d : Date) : Decidable (c.UsesSilently d) :=
  inferInstanceAs (Decidable (c.reference.date = d ∧ c.referenceWarnings = []))

/-- A set text is used without a word as the date that it is, or as the day of the clock where it is
blank. -/
theorem usesSilently_iff {c : Conditions} {text : String} (hset : c.override = some text)
    {d : Date} : c.UsesSilently d ↔
      PaddedDateText c.clock text.toList d ∨ Text.allBlank text.toList = true ∧ d = c.clock := by
  by_cases hblank : Text.allBlank text.toList = true
  · have hreference : c.reference = ⟨c.clock, none⟩ := by
      rw [reference, hset]
      simp only [Reference.resolve, hblank, if_true]
    rw [UsesSilently, referenceWarnings, hreference]
    constructor
    · intro h
      exact Or.inr ⟨hblank, h.1.symm⟩
    · rintro (hdate | ⟨-, rfl⟩)
      · rw [hdate.not_allBlank] at hblank
        cases hblank
      · exact ⟨rfl, rfl⟩
  · by_cases hdate : ∃ d', PaddedDateText c.clock text.toList d'
    · obtain ⟨d', hd'⟩ := hdate
      have hreference : c.reference = ⟨d', none⟩ := by
        rw [reference, hset, Reference.resolve_of_date hd']
      rw [UsesSilently, referenceWarnings, hreference]
      constructor
      · rintro ⟨rfl, -⟩
        exact Or.inl hd'
      · rintro (hd | ⟨hyes, -⟩)
        · -- A text is no two dates: both would be the reference date.
          have hsame := Reference.resolve_of_date hd
          rw [Reference.resolve_of_date hd'] at hsame
          exact ⟨congrArg Reference.date hsame, rfl⟩
        · exact absurd hyes hblank
    · have hno : ∀ d', ¬ PaddedDateText c.clock text.toList d' := fun d' hd' => hdate ⟨d', hd'⟩
      obtain ⟨-, hwarnings⟩ := reference_of_no_date hset (Bool.eq_false_iff.2 hblank) hno
      rw [UsesSilently, hwarnings]
      constructor
      · rintro ⟨-, h⟩
        cases h
      · rintro (hd | ⟨hyes, -⟩)
        · exact absurd hd (hno d)
        · exact absurd hyes hblank

/-- **What may be set for the reference date are the literal anchors of expressions.**  Take a text
without blanks around it, and put any blanks around it.  What results is a date exactly when the
text is read in full as an expression that is a lone literal anchor with this date, under the same
reference date; in all other cases it is refused.  So it is used without a word as a date in exactly
these cases, and, where there is nothing between the blanks, as the day of the clock. -/
theorem override_iff_literal_anchor (reference d : Date) (strict : Bool) {u t v : List Char}
    (hu : Text.allBlank u = true) (hv : Text.allBlank v = true) (ht : Text.trim t = t) :
    (literalDate reference (u ++ t ++ v) = .ok d ↔
      parseExpression reference t = .full (.anchor (.literal d))) ∧
    ((∃ failure, literalDate reference (u ++ t ++ v) = .error failure) ↔
      ∀ d', parseExpression reference t ≠ .full (.anchor (.literal d'))) ∧
    ((⟨some (String.ofList (u ++ t ++ v)), reference, strict⟩ : Conditions).UsesSilently d ↔
      parseExpression reference t = .full (.anchor (.literal d)) ∨ t = [] ∧ d = reference) := by
  have hread : ∀ d', literalDate reference (u ++ t ++ v) = .ok d' ↔
      parseExpression reference t = .full (.anchor (.literal d')) := by
    intro d'
    rw [literalDate_eq_ok_iff, paddedDateText_iff_parse hu hv ht]
  refine ⟨hread d, ?_, ?_⟩
  · constructor
    · rintro ⟨failure, hfailure⟩ d' hd'
      rw [(hread d').2 hd'] at hfailure
      cases hfailure
    · intro hnone
      cases hresult : literalDate reference (u ++ t ++ v) with
      | ok d' => exact absurd ((hread d').1 hresult) (hnone d')
      | error failure => exact ⟨failure, rfl⟩
  · have hblank : Text.allBlank (u ++ t ++ v) = true ↔ t = [] := by
      rw [← Text.trim_eq_nil_iff, Text.trim_surrounded hu hv, ht]
    rw [usesSilently_iff rfl, String.toList_ofList, paddedDateText_iff_parse hu hv ht, hblank]

/-- The leap day without its year, between two kinds of blanks, in a leap year. -/
theorem override_iff_literal_anchor_leap_day :
    let june : Date := ⟨2024, 6, 1, by decide, by decide, by decide, by decide⟩
    let leap : Date := ⟨2024, 2, 29, by decide, by decide, by decide, by decide⟩
    let text := " ".toList ++ "feb 29".toList ++ "\u3000\t".toList
    literalDate june text = .ok leap ∧
      (⟨some (String.ofList text), june, false⟩ : Conditions).UsesSilently leap := by
  intro june leap text
  have hread : parseExpression june "feb 29".toList = .full (.anchor (.literal leap)) := by decide
  obtain ⟨hdate, -, huse⟩ := override_iff_literal_anchor june leap false
    (u := " ".toList) (t := "feb 29".toList) (v := "\u3000\t".toList)
    (by decide) (by decide) (by decide)
  exact ⟨hdate.2 hread, huse.2 (Or.inl hread)⟩

/-- Blanks alone are no expression, and yet a day is used without a word where they are set: the day
of the clock. -/
theorem blank_override_used_silently :
    let clock : Date := ⟨2022, 1, 31, by decide, by decide, by decide, by decide⟩
    Text.allBlank "  ".toList = true ∧ Text.trim [] = [] ∧
      ¬ ((⟨some "  ", clock, false⟩ : Conditions).UsesSilently clock ↔
        parseExpression clock [] = .full (.anchor (.literal clock))) := by
  intro clock
  refine ⟨by decide, rfl, ?_⟩
  have huse : (⟨some "  ", clock, false⟩ : Conditions).UsesSilently clock := by decide
  intro h
  have hread := h.1 huse
  cases hread

end Conditions

end DateCalc
