/-
  Of the reference date, reading sees the year alone.

  The reference date gives its year to the dates that are written without one, and reading uses it
  for nothing else.  Whether such a date names a day depends on the year only in February, and there
  only on its length.  So under two reference dates whose years are of one length every rule takes
  the same way through a text: it stops at the same place with the same mismatch, or it matches up
  to the same place (`SameEnds`).

  What is read then differs in nothing but those dates.  To say this of the text, the grammar is set
  out once more with two values, one for each reference date (`ExpressionReadings`): both
  expressions have their parts from the same places, and two anchors differ only where the text has
  no year.
-/
import Mathlib.Data.List.Forall2
import DateCalc.Proofs.Grammar.Failures

namespace DateCalc

namespace Rule

variable {α β γ δ : Type}

/-! ## Rules that take the same way -/

/-- On every text both rules stop with the same mismatch, or both match and leave the same rest. -/
def SameEnds (p : Rule α) (q : Rule β) : Prop :=
  ∀ s, (∃ m, p s = .error m ∧ q s = .error m) ∨
    ∃ a b rest, p s = .ok (a, rest) ∧ q s = .ok (b, rest)

namespace SameEnds

/-- A rule takes the same way as itself. -/
theorem refl (r : Rule α) : SameEnds r r := by
  intro s
  rcases fails_or_ok r s with ⟨m, hm⟩ | ⟨a, rest, h⟩
  · exact Or.inl ⟨m, hm, hm⟩
  · exact Or.inr ⟨a, a, rest, h, h⟩

theorem pure (a : α) (b : β) : SameEnds (Pure.pure a : Rule α) (Pure.pure b : Rule β) := by
  intro s
  exact Or.inr ⟨a, b, s, rfl, rfl⟩

/-- Two sequences take the same way when their parts do, whatever the first parts give. -/
theorem bind {p : Rule α} {q : Rule β} {f : α → Rule γ} {g : β → Rule δ} (h : SameEnds p q)
    (hf : ∀ a b, SameEnds (f a) (g b)) : SameEnds (p >>= f) (q >>= g) := by
  intro s
  rcases h s with ⟨m, hp, hq⟩ | ⟨a, b, mid, hp, hq⟩
  · exact Or.inl ⟨m, bind_of_error hp, bind_of_error hq⟩
  · rw [bind_of_ok hp, bind_of_ok hq]
    exact hf a b mid

/-- Two sequences with the same first part go on from the same value. -/
theorem bind_right (r : Rule α) {f : α → Rule γ} {g : α → Rule δ}
    (hf : ∀ a, SameEnds (f a) (g a)) : SameEnds (r >>= f) (r >>= g) := by
  intro s
  rcases fails_or_ok r s with ⟨m, hm⟩ | ⟨a, mid, h⟩
  · exact Or.inl ⟨m, bind_of_error hm, bind_of_error hm⟩
  · rw [bind_of_ok h, bind_of_ok h]
    exact hf a mid

/-- Of two rules the second one is tried on both ways or on neither. -/
theorem orElse {p p' : Rule α} {q q' : Rule β} (hp : SameEnds p q) (hp' : SameEnds p' q') :
    SameEnds (p.orElse p') (q.orElse q') := by
  intro s
  rcases hp s with ⟨m, h, h'⟩ | ⟨a, b, rest, h, h'⟩
  · simp only [Rule.orElse, h, h']
    exact hp' s
  · simp only [Rule.orElse, h, h']
    exact Or.inr ⟨a, b, rest, rfl, rfl⟩

/-- Of two mismatches the one that got further is the same on both ways. -/
theorem orDeeper {p p' : Rule α} {q q' : Rule β} (hp : SameEnds p q) (hp' : SameEnds p' q') :
    SameEnds (p.orDeeper p') (q.orDeeper q') := by
  intro s
  rcases hp s with ⟨m, h, h'⟩ | ⟨a, b, rest, h, h'⟩
  · rcases hp' s with ⟨m₁, h₁, h₁'⟩ | ⟨a, b, rest, h₁, h₁'⟩
    · exact Or.inl ⟨_, orDeeper_of_error h h₁, orDeeper_of_error h' h₁'⟩
    · simp only [Rule.orDeeper, h, h', h₁, h₁']
      exact Or.inr ⟨a, b, rest, rfl, rfl⟩
  · simp only [Rule.orDeeper, h, h']
    exact Or.inr ⟨a, b, rest, rfl, rfl⟩

theorem named {p : Rule α} {q : Rule β} (name : String) (h : SameEnds p q) :
    SameEnds (p.named name) (q.named name) := by
  intro s
  rcases h s with ⟨m, hp, hq⟩ | ⟨a, b, rest, hp, hq⟩
  · exact Or.inl ⟨_, named_of_error hp, named_of_error hq⟩
  · exact Or.inr ⟨a, b, rest, named_eq_ok_iff.2 hp, named_eq_ok_iff.2 hq⟩

/-- Two choices take the same way when their alternatives do one by one, under the same names. -/
theorem firstMatch {forms : List (String × Rule α)} {forms' : List (String × Rule β)}
    (h : List.Forall₂ (fun f g => f.1 = g.1 ∧ SameEnds f.2 g.2) forms forms') :
    SameEnds (Rule.firstMatch forms) (Rule.firstMatch forms') := by
  induction h with
  | nil =>
    intro s
    exact Or.inl ⟨_, rfl, rfl⟩
  | @cons f g forms forms' hfirst hmore ih =>
    obtain ⟨name, p⟩ := f
    obtain ⟨name', q⟩ := g
    obtain ⟨rfl, hfirst⟩ : name = name' ∧ SameEnds p q := hfirst
    cases hmore with
    | nil => exact hfirst.named name
    | cons _ _ => exact (hfirst.named name).orDeeper ih

end SameEnds

end Rule

namespace Grammar

open Rule Token

/-! ## Years of one length -/

/-- In years of one length the same days exist. -/
theorem daysInMonth_congr {year year' : Nat} (h : isLeapYear year = isLeapYear year')
    (month : Nat) : daysInMonth year month = daysInMonth year' month := by
  unfold daysInMonth
  rw [h]

/-- A day of one of the years is a day of the other. -/
theorem make?_of_sameLength {year month day : Nat} {r d : Date}
    (h : isLeapYear year = isLeapYear r.year) (hd : Date.make? year month day = some d) :
    ∃ d', Date.make? r.year month day = some d' := by
  obtain ⟨rfl, rfl, rfl⟩ := Date.make?_eq_some_iff.1 hd
  have hle := d.day_le
  rw [daysInMonth_congr h] at hle
  exact ⟨_, dif_pos ⟨r.one_le_year, r.year_le, d.one_le_day, hle⟩⟩

/-- The name of a month and a day with a gap between them: a date without its year. -/
inductive YearlessText : List Char → Nat → Nat → Prop where
  | mk {name w d : List Char} {month : Nat} :
      IsMonthName name month → Gap w → IsPart d →
      YearlessText (name ++ w ++ d) month (Text.decimalValue d)

/-- A date without its year is one of whatever year is given to it. -/
theorem YearlessText.whole {p : List Char} {month day : Nat} (h : YearlessText p month day)
    (year : Nat) : WholeText year p ⟨year, month, day⟩ := by
  cases h with
  | mk hname hw hd => exact .yearless hname hw hd

/-- A date that fills its text has its year there, or else no year. -/
theorem WholeText.dated_or_yearless {year : Nat} {p : List Char} {f : DateFields}
    (h : WholeText year p f) :
    (∀ year', WholeText year' p f) ∨ YearlessText p f.month f.day ∧ f.year = year := by
  cases h with
  | named hname hw hd hw' hy => exact Or.inl fun _ => .named hname hw hd hw' hy
  | yearless hname hw hd => exact Or.inr ⟨.mk hname hw hd, rfl⟩
  | slashed hm hd hy => exact Or.inl fun _ => .slashed hm hd hy

/-- What is no date that fills its text is none under another reference date either. -/
theorem fails_wholeFields_forYear {r : Date} (r' : Date) {s : List Char}
    (hfails : (wholeFields r).Fails s) : (wholeFields r').Fails s := by
  rcases fails_or_ok (wholeFields r') s with hf | ⟨f, rest, hread⟩
  · exact hf
  · have hmatches : ∃ f', WholeText r.year s f' := by
      rcases (wholeFields_sound hread).dated_or_yearless with htext | ⟨htext, -⟩
      · exact ⟨f, htext r.year⟩
      · exact ⟨_, htext.whole r.year⟩
    exact absurd hfails (matches_wholeFields_iff.2 hmatches).not_fails

section TwoReferences

variable {r r' : Date} (h : isLeapYear r.year = isLeapYear r'.year)

include h

/-- A month and a day name a day of both years or of neither. -/
theorem make?_forYear (month day : Nat) :
    (Date.make? r.year month day = none ∧ Date.make? r'.year month day = none) ∨
      ∃ d d', Date.make? r.year month day = some d ∧ Date.make? r'.year month day = some d' := by
  cases hd : Date.make? r.year month day with
  | some d =>
    obtain ⟨d', hd'⟩ := make?_of_sameLength h hd
    exact Or.inr ⟨d, d', rfl, hd'⟩
  | none =>
    cases hd' : Date.make? r'.year month day with
    | none => exact Or.inl ⟨rfl, rfl⟩
    | some d' =>
      obtain ⟨d, hsome⟩ := make?_of_sameLength h.symm hd'
      rw [hd] at hsome
      cases hsome

/-- What fills its text as a date under one reference date does so under the other, and names a day
under both or under none. -/
theorem wholeFields_forYear {s rest : List Char} {f : DateFields}
    (hread : wholeFields r s = .ok (f, rest)) :
    ∃ f', wholeFields r' s = .ok (f', []) ∧ (f.date? = none ∧ f'.date? = none ∨
      ∃ d d', f.date? = some d ∧ f'.date? = some d') := by
  rcases (wholeFields_sound hread).dated_or_yearless with htext | ⟨htext, hyear⟩
  · refine ⟨f, wholeFields_append (htext r'.year), ?_⟩
    cases hdate : f.date? with
    | none => exact Or.inl ⟨rfl, rfl⟩
    | some d => exact Or.inr ⟨d, d, rfl, rfl⟩
  · refine ⟨_, wholeFields_append (htext.whole r'.year), ?_⟩
    have hdate : f.date? = Date.make? r.year f.month f.day := by
      rw [← hyear]
      rfl
    rw [hdate]
    exact make?_forYear h f.month f.day

/-- **A date is read up to the same place under both reference dates**, or refused for the same
reason. -/
theorem literal_sameEnds : SameEnds (literal r) (literal r') := by
  intro s
  unfold literal
  cases isoFields s with
  | ok x =>
    -- The ISO form has its year.
    cases hdate : x.1.date? with
    | none => exact Or.inl ⟨⟨s, .validDate, none⟩, by simp only [hdate], by simp only [hdate]⟩
    | some d => exact Or.inr ⟨d, d, x.2, by simp only [hdate], by simp only [hdate]⟩
  | error m =>
    rcases fails_or_ok (wholeFields r) (Text.trim (segment s)) with hfails | ⟨f, rest, hread⟩
    · obtain ⟨m', hm'⟩ := fails_wholeFields_forYear r' hfails
      obtain ⟨m'', hm''⟩ := hfails
      exact Or.inl ⟨⟨s, .date, none⟩, by simp only [hm''], by simp only [hm']⟩
    · obtain ⟨f', hread', hdates⟩ := wholeFields_forYear h hread
      simp only [hread, hread']
      rcases hdates with ⟨hnone, hnone'⟩ | ⟨d, d', hsome, hsome'⟩
      · exact Or.inl ⟨⟨s, .validDate, none⟩, by rw [hnone], by rw [hnone']⟩
      · exact Or.inr ⟨d, d', _, by rw [hsome], by rw [hsome']⟩

theorem anchor_sameEnds : SameEnds (anchor r) (anchor r') := by
  apply SameEnds.orElse (.refl _)
  exact (literal_sameEnds h).bind fun _ _ => .pure _ _

/-! ## Expressions under two reference dates -/

theorem anchorWithShifts_sameEnds : SameEnds (anchorWithShifts r) (anchorWithShifts r') := by
  apply (anchor_sameEnds h).bind
  intro _ _
  refine .bind_right _ fun _ => ?_
  exact .bind_right _ fun _ => .pure _ _

theorem difference_sameEnds : SameEnds (difference r) (difference r') := by
  apply (anchor_sameEnds h).bind
  intro _ _
  refine .bind_right _ fun _ => .bind_right _ fun _ => .bind_right _ fun _ => ?_
  exact (anchor_sameEnds h).bind fun _ _ => .pure _ _

theorem relativeExpression_sameEnds :
    SameEnds (relativeExpression r) (relativeExpression r') := by
  have hrelative : SameEnds (relative r) (relative r') := by
    refine .bind_right _ fun list => .bind_right _ fun trailer => ?_
    -- The direction and whether an anchor follows come from the phrase, the anchor from the text.
    obtain ⟨direction, anchored⟩ := trailer
    cases anchored with
    | false => exact .pure _ _
    | true => exact (anchor_sameEnds h).bind fun _ _ => .pure _ _
  exact hrelative.bind fun _ _ => .pure _ _

/-- **Under reference dates of equally long years an expression is read up to the same place**, or
refused with the same mismatch. -/
theorem expression_sameEnds : SameEnds (expression r) (expression r') := by
  have hlone : SameEnds (loneAnchor r) (loneAnchor r') :=
    (anchor_sameEnds h).bind fun _ _ => .pure _ _
  apply SameEnds.firstMatch
  exact .cons ⟨rfl, anchorWithShifts_sameEnds h⟩ <| .cons ⟨rfl, difference_sameEnds h⟩ <|
    .cons ⟨rfl, relativeExpression_sameEnds h⟩ <| .cons ⟨rfl, hlone⟩ <|
    .cons ⟨rfl, .refl periodChain⟩ .nil

end TwoReferences

/-! ## What is read under two reference dates -/

/-- A date with its year: the ISO form, or one that has the same fields whatever year is given to
dates without one. -/
inductive DatedText : Spelling DateFields where
  | iso {p : List Char} {f : DateFields} : IsoText p f → DatedText p f
  | whole {p : List Char} {f : DateFields} : (∀ year, WholeText year p f) → DatedText p f

/-- The anchors that one text spells under two reference dates: the same one, unless the text is a
date without its year, which is the day of that month in either reference year. -/
inductive AnchorReadings (r r' : Date) : List Char → Anchor → Anchor → Prop where
  | keyword {word : String} {a : Anchor} :
      (word, a) ∈ anchorWords → AnchorReadings r r' word.toList a a
  | dated {w p : List Char} {f : DateFields} {d : Date} :
      Text.allBlank w = true → DatedText p f → f.date? = some d →
      AnchorReadings r r' (w ++ p) (.literal d) (.literal d)
  | yearless {w p : List Char} {month day : Nat} {d d' : Date} :
      Text.allBlank w = true → YearlessText p month day →
      Date.make? r.year month day = some d → Date.make? r'.year month day = some d' →
      AnchorReadings r r' (w ++ p) (.literal d) (.literal d')

/-- The expressions that one text spells under two reference dates: the same periods and shifts, and
anchors from the same places. -/
inductive ExpressionReadings (r r' : Date) : List Char → Expression → Expression → Prop where
  | shifted {p q qs : List Char} {a a' : Anchor} {first : Shift} {more : List Shift} :
      AnchorReadings r r' p a a' → ShiftText q first → Each ShiftText qs more →
      ExpressionReadings r r' (p ++ q ++ qs) (.shifted a first more) (.shifted a' first more)
  | difference {p w w' q : List Char} {a a' b b' : Anchor} :
      AnchorReadings r r' p a a' → Text.allBlank w = true → Text.allBlank w' = true →
      AnchorReadings r r' q b b' →
      ExpressionReadings r r' (p ++ w ++ ['-'] ++ w' ++ q) (.difference a b) (.difference a' b')
  | ago {p : List Char} {list : Sentence} :
      SentenceText p list →
      ExpressionReadings r r' (p ++ " ago".toList) (list.shiftedFrom .minus .today)
        (list.shiftedFrom .minus .today)
  | anchored {p q : List Char} {list : Sentence} {phrase : String} {direction : Sign}
      {a a' : Anchor} :
      SentenceText p list → (phrase, (direction, true)) ∈ trailers → AnchorReadings r r' q a a' →
      ExpressionReadings r r' (p ++ phrase.toList ++ q) (list.shiftedFrom direction a)
        (list.shiftedFrom direction a')
  | anchor {p : List Char} {a a' : Anchor} :
      AnchorReadings r r' p a a' → ExpressionReadings r r' p (.anchor a) (.anchor a')
  | chain {p qs : List Char} {base : Period} {shifts : List Shift} :
      PeriodText p base → Each ShiftText qs shifts →
      ExpressionReadings r r' (p ++ qs) (.chain base shifts) (.chain base shifts)

/-- The outcomes of reading one text under two reference dates: both times all of it is consumed, or
the same rest is left, or the reading fails in the same way. -/
inductive OutcomeReadings (r r' : Date) (text : List Char) :
    Parsed Expression → Parsed Expression → Prop where
  | full {e e' : Expression} :
      ExpressionReadings r r' text e e' → OutcomeReadings r r' text (.full e) (.full e')
  | leaving {p rem : List Char} {e e' : Expression} :
      text = p ++ rem → ExpressionReadings r r' p e e' →
      OutcomeReadings r r' text (.leaving e rem) (.leaving e' rem)
  | failed (failure : Failure) :
      OutcomeReadings r r' text (.failed failure) (.failed failure)

section SameYear

variable {r r' : Date} (h : r.year = r'.year)

include h

/-- Under references of one year an anchor is read as one and the same. -/
theorem AnchorReadings.eq_of_sameYear {p : List Char} {a a' : Anchor}
    (ha : AnchorReadings r r' p a a') : a = a' := by
  cases ha with
  | keyword _ => rfl
  | dated _ _ _ => rfl
  | yearless _ _ hd hd' =>
    rw [h, hd'] at hd
    rw [Option.some.inj hd]

/-- Under references of one year an expression is read as one and the same. -/
theorem ExpressionReadings.eq_of_sameYear {p : List Char} {e e' : Expression}
    (he : ExpressionReadings r r' p e e') : e = e' := by
  cases he with
  | shifted ha _ _ => rw [ha.eq_of_sameYear h]
  | difference ha _ _ hb => rw [ha.eq_of_sameYear h, hb.eq_of_sameYear h]
  | ago _ => rfl
  | anchored _ _ ha => rw [ha.eq_of_sameYear h]
  | anchor ha => rw [ha.eq_of_sameYear h]
  | chain _ _ => rfl

/-- In one and the same year nothing is read differently. -/
theorem OutcomeReadings.eq_of_sameYear {text : List Char} {x x' : Parsed Expression}
    (hx : OutcomeReadings r r' text x x') : x = x' := by
  cases hx with
  | full he => rw [he.eq_of_sameYear h]
  | leaving _ he => rw [he.eq_of_sameYear h]
  | failed _ => rfl

end SameYear

section TwoReferences

variable {r r' : Date} (h : isLeapYear r.year = isLeapYear r'.year)

include h

/-- What is an anchor under one reference date is one under the other. -/
theorem AnchorText.readings {p : List Char} {a : Anchor} (ha : AnchorText r p a) :
    ∃ a', AnchorText r' p a' ∧ AnchorReadings r r' p a a' := by
  cases ha with
  | today => exact ⟨_, .today, .keyword (by decide)⟩
  | now => exact ⟨_, .now, .keyword (by decide)⟩
  | yesterday => exact ⟨_, .yesterday, .keyword (by decide)⟩
  | tomorrow => exact ⟨_, .tomorrow, .keyword (by decide)⟩
  | @literal w p date hw hp =>
    cases hp with
    | iso hiso hd => exact ⟨_, .literal hw (.iso hiso hd), .dated hw (.iso hiso) hd⟩
    | @whole _ f _ hwhole hd =>
      rcases hwhole.dated_or_yearless with hdated | ⟨htext, hyear⟩
      · exact ⟨_, .literal hw (.whole (hdated _) hd), .dated hw (.whole hdated) hd⟩
      · have hmake : Date.make? r.year f.month f.day = some date := by
          rw [← hyear]
          exact hd
        obtain ⟨d', hmake'⟩ := make?_of_sameLength h hmake
        exact ⟨_, .literal hw (.whole (htext.whole _) hmake'), .yearless hw htext hmake hmake'⟩

/-- What is an expression under one reference date is one under the other. -/
theorem ExpressionText.readings {p : List Char} {e : Expression} (he : ExpressionText r p e) :
    ∃ e', ExpressionText r' p e' ∧ ExpressionReadings r r' p e e' := by
  cases he with
  | shifted ha hfirst hmore =>
    obtain ⟨a', ha', hreadings⟩ := ha.readings h
    exact ⟨_, .shifted ha' hfirst hmore, .shifted hreadings hfirst hmore⟩
  | difference ha hw hw' hb =>
    obtain ⟨a', ha', hreadings⟩ := ha.readings h
    obtain ⟨b', hb', hreadings'⟩ := hb.readings h
    exact ⟨_, .difference ha' hw hw' hb', .difference hreadings hw hw' hreadings'⟩
  | ago hlist => exact ⟨_, .ago hlist, .ago hlist⟩
  | fromAnchor hlist ha =>
    obtain ⟨a', ha', hreadings⟩ := ha.readings h
    exact ⟨_, .fromAnchor hlist ha', .anchored hlist (by decide) hreadings⟩
  | afterAnchor hlist ha =>
    obtain ⟨a', ha', hreadings⟩ := ha.readings h
    exact ⟨_, .afterAnchor hlist ha', .anchored hlist (by decide) hreadings⟩
  | beforeAnchor hlist ha =>
    obtain ⟨a', ha', hreadings⟩ := ha.readings h
    exact ⟨_, .beforeAnchor hlist ha', .anchored hlist (by decide) hreadings⟩
  | anchor ha =>
    obtain ⟨a', ha', hreadings⟩ := ha.readings h
    exact ⟨_, .anchor ha', .anchor hreadings⟩
  | chain hbase hshifts => exact ⟨_, .chain hbase hshifts, .chain hbase hshifts⟩

/-- Where both reference dates let an expression be read, its text spells the two together. -/
theorem expression_readings {s rest : List Char} {e e' : Expression}
    (he : expression r s = .ok (e, rest)) (he' : expression r' s = .ok (e', rest)) :
    ∃ p, s = p ++ rest ∧ ExpressionReadings r r' p e e' := by
  obtain ⟨p, rfl, hp⟩ := expression_sound he
  obtain ⟨p', hs, hp'⟩ := expression_sound he'
  obtain rfl : p = p' := List.append_cancel_right hs
  obtain ⟨e'', hp'', hreadings⟩ := hp.readings h
  -- Read by itself under the second date, the text has one value, which both must be.
  have hfull : parseExpression r' p = .full e' := parse_full_iff.2 hp'
  rw [parse_full_iff.2 hp''] at hfull
  obtain rfl : e'' = e' := Parsed.full.inj hfull
  exact ⟨p, rfl, hreadings⟩

end TwoReferences

/-- **The reference date is read by its year alone.**  Under two reference dates whose years are
both leap years or both common years, a text is read to the same end or refused for the same reason,
and what is read differs only in the year of the dates that are written without one.  Under
reference dates of one year nothing differs. -/
theorem reference_read_by_year (r r' : Date) (h : isLeapYear r.year = isLeapYear r'.year)
    (text : List Char) :
    OutcomeReadings r r' text (parseExpression r text) (parseExpression r' text) ∧
      (r.year = r'.year → parseExpression r text = parseExpression r' text) := by
  have houtcome :
      OutcomeReadings r r' text (parseExpression r text) (parseExpression r' text) := by
    rcases expression_sameEnds h text with ⟨m, hm, hm'⟩ | ⟨e, e', rest, he, he'⟩
    · rw [parseExpression, parseExpression, parse_eq_failed_iff.2 ⟨m, hm, rfl⟩,
        parse_eq_failed_iff.2 ⟨m, hm', rfl⟩]
      exact .failed _
    · obtain ⟨p, htext, hreadings⟩ := expression_readings h he he'
      by_cases hrest : rest = []
      · subst hrest
        rw [List.append_nil] at htext
        subst htext
        rw [parseExpression, parseExpression, parse_eq_full_iff.2 he, parse_eq_full_iff.2 he']
        exact .full hreadings
      · rw [parseExpression, parseExpression, parse_eq_leaving_iff.2 ⟨he, hrest⟩,
          parse_eq_leaving_iff.2 ⟨he', hrest⟩]
        exact .leaving htext hreadings
  exact ⟨houtcome, fun hyear => houtcome.eq_of_sameYear hyear⟩

/-- The leap day without its year, before a date with one and words, under reference dates of two
leap years and under two of one year. -/
theorem reference_read_by_year_leap_day :
    let june : Date := ⟨2024, 6, 1, by decide, by decide, by decide, by decide⟩
    let july : Date := ⟨2024, 7, 1, by decide, by decide, by decide, by decide⟩
    let later : Date := ⟨2028, 7, 1, by decide, by decide, by decide, by decide⟩
    let text := "feb 29 - 2021-01-15 or so".toList
    let day : Anchor := .literal ⟨2021, 1, 15, by decide, by decide, by decide, by decide⟩
    let leap : Anchor := .literal ⟨2024, 2, 29, by decide, by decide, by decide, by decide⟩
    let leap' : Anchor := .literal ⟨2028, 2, 29, by decide, by decide, by decide, by decide⟩
    parseExpression june text = .leaving (.difference leap day) " or so".toList ∧
      parseExpression later text = .leaving (.difference leap' day) " or so".toList ∧
      OutcomeReadings june later text (.leaving (.difference leap day) " or so".toList)
        (.leaving (.difference leap' day) " or so".toList) ∧
      parseExpression june text = parseExpression july text := by
  intro june july later text day leap leap'
  have hread : parseExpression june text = .leaving (.difference leap day) " or so".toList := by
    decide
  have hread' : parseExpression later text = .leaving (.difference leap' day) " or so".toList := by
    decide
  have houtcome := (reference_read_by_year june later (by decide) text).1
  rw [hread, hread'] at houtcome
  have hsame := (reference_read_by_year june july rfl text).2 rfl
  exact ⟨hread, hread', houtcome, hsame⟩

end Grammar

end DateCalc
