/-
  No shift that could be applied is left behind.

  A run of shifts goes on until the next one cannot be read, and it ends before the blanks and the
  sign that were tried in vain.  So in every reading that has shifts behind an anchor or a period,
  the shifts are the rounds of one rule from the end of that anchor or period on, and the rule does
  not match where they end (`ExhaustedAt`).  An anchor stays alone only where neither a shift nor a
  hyphen with a second anchor stands behind it.

  Whether a text starts with an anchor decides which alternatives are at stake: with an anchor, what
  stands behind it (`behindAnchor`); without one, a relative expression or a period with shifts.
-/
import DateCalc.Proofs.Grammar.Spellings
import DateCalc.Proofs.Grammar.TrailingBlanks

namespace DateCalc

/-! ## Where reading ends -/

/-- What was read of a text and the position up to which it was consumed, unless reading failed. -/
def Parsed.consumed? {α : Type} (text : List Char) : Parsed α → Option (α × Nat)
  | full a => some (a, text.length)
  | leaving a remaining => some (a, text.length - remaining.length)
  | failed _ => none

namespace Rule

variable {α : Type} {r : Rule α} {text : List Char}

/-- What a text is read as, and how far, is what the rule gives at its start. -/
theorem consumed?_parse_iff {a : α} {finish : Nat} :
    (r.parse text).consumed? text = some (a, finish) ↔ r.parseAt text 0 = .ok (a, finish) := by
  rw [parseAt_eq_ok_iff, List.drop_zero]
  rcases hread : r text with m | ⟨b, rest⟩
  · have hfailed : r.parse text = .failed (m.inText text) := parse_eq_failed_iff.2 ⟨m, hread, rfl⟩
    simp [hfailed, Parsed.consumed?]
  · by_cases hrest : rest = []
    · have hfull : r.parse text = .full b := parse_eq_full_iff.2 (by rw [hread, hrest])
      simp [hfull, hrest, Parsed.consumed?]
    · have hleaving : r.parse text = .leaving b rest := parse_eq_leaving_iff.2 ⟨hread, hrest⟩
      simp [hleaving, Parsed.consumed?]

/-! ## Runs between positions -/

/-- The rule matched again and again, each time where it ended before, from one position of the text
to another. -/
inductive RunsAt (r : Rule α) (text : List Char) : Nat → List α → Nat → Prop where
  | done {position : Nat} : RunsAt r text position [] position
  | next {position middle finish : Nat} {a : α} {as : List α} :
      r.parseAt text position = .ok (a, middle) → RunsAt r text middle as finish →
      RunsAt r text position (a :: as) finish

/-- The rule runs from one position to another, where it does not match any more. -/
def ExhaustedAt (r : Rule α) (text : List Char) (start : Nat) (as : List α) (finish : Nat) : Prop :=
  r.RunsAt text start as finish ∧ ¬ r.MatchesAt text finish

/-- What a rule leaves is the text from the position on that is counted from its end. -/
theorem Proceeds.eq_drop {strict : Bool} (hr : r.Proceeds strict) {rest : List Char} {a : α}
    (h : r text = .ok (a, rest)) : rest = text.drop (text.length - rest.length) :=
  List.suffix_iff_eq_drop.1 (hr.ok h)

/-- Rounds on what a text has from a position on are a run between positions, by induction on the
rounds: each ends at the position that is counted from the end of the text. -/
theorem Rounds.runsAt {strict : Bool} (hr : r.Proceeds strict) {s last : List Char} {as : List α}
    (h : r.Rounds s as last) {position : Nat} (hs : s = text.drop position)
    (hposition : position ≤ text.length) :
    r.RunsAt text position as (text.length - last.length) := by
  induction h generalizing position with
  | stop =>
    have hfinish : text.length - (text.drop position).length = position := by
      rw [List.length_drop]
      omega
    rw [hs, hfinish]
    exact .done
  | @step s rest last a as hok _ ih =>
    subst hs
    obtain ⟨hrest, -⟩ := eq_drop_of_suffix (hr.ok hok) hposition
    exact .next (parseAt_eq_ok_iff.2 ⟨rest, hok, rfl⟩) (ih hrest (Nat.sub_le _ _))

/-- Behind its rounds, a rule is exhausted. -/
theorem Rounds.exhaustedAt {strict : Bool} (hr : r.Proceeds strict) {position : Nat}
    {last : List Char} {as : List α} (hposition : position ≤ text.length)
    (h : r.Rounds (text.drop position) as last) :
    r.ExhaustedAt text position as (text.length - last.length) := by
  refine ⟨h.runsAt hr rfl hposition, fun hmatches => ?_⟩
  obtain ⟨hlast, -⟩ := eq_drop_of_suffix (h.suffix hr) hposition
  rw [matchesAt_iff, ← hlast] at hmatches
  exact hmatches.not_fails h.fails

end Rule

namespace Grammar

open Rule Token

/-! ## What stands behind an anchor -/

/-- A hyphen and an anchor, with blanks allowed before either. -/
def hyphenAnchor (reference : Date) : Rule Anchor := do
  space0
  tag "-"
  space0
  anchor reference

theorem differenceBehind_eq (reference : Date) (a : Anchor) :
    differenceBehind reference a =
      hyphenAnchor reference >>= fun finish => pure (.difference a finish) := by
  simp only [differenceBehind, hyphenAnchor, bind_assoc]

/-- A row of shifts is made of the rounds of the rule for shifts. -/
theorem rounds_of_shifts {s last : List Char} {as : List Shift} (h : shifts s = .ok (as, last)) :
    shift.Rounds s as last := by
  have hrep : repeated shift s = (as, last) := Except.ok.inj h
  have hrounds := shift_proceeds.rounds s
  rwa [hrep] at hrounds

/-- Where no shift stands behind an anchor, none is read there. -/
theorem fails_shift_of_shiftsBehind {a : Anchor} {s : List Char}
    (h : (shiftsBehind a).Fails s) : shift.Fails s := by
  rcases fails_bind_iff.1 h with hshift | ⟨first, mid, -, hmore⟩
  · exact hshift
  · -- A row of shifts behind the first one never fails.
    rcases fails_bind_iff.1 hmore with ⟨m, hm⟩ | ⟨more, mid', -, m, hm⟩
    · cases hm
    · cases hm

section Behind

variable {reference : Date} {a : Anchor} {s rest : List Char}

/-- Where shifts stand behind an anchor, they are rounds. -/
theorem rounds_of_behindAnchor {a' : Anchor} {first : Shift} {more : List Shift}
    (h : behindAnchor reference a s = .ok (.shifted a' first more, rest)) :
    a' = a ∧ shift.Rounds s (first :: more) rest := by
  rcases orElse_eq_ok_iff.1 h with h | ⟨-, h⟩
  · obtain ⟨_, mid, hfirst, h⟩ := bind_eq_ok_iff.1 h
    obtain ⟨_, mid', hmore, hpure⟩ := bind_eq_ok_iff.1 h
    cases hpure
    exact ⟨rfl, .step hfirst (rounds_of_shifts hmore)⟩
  · rcases orElse_eq_ok_iff.1 h with h | ⟨-, hpure⟩
    · rw [differenceBehind_eq] at h
      obtain ⟨finish, mid, -, hpure⟩ := bind_eq_ok_iff.1 h
      cases hpure
    · cases hpure

/-- Where an anchor stays alone, neither a shift nor a hyphen with an anchor stands behind it. -/
theorem alone_of_behindAnchor {a' : Anchor}
    (h : behindAnchor reference a s = .ok (.anchor a', rest)) :
    a' = a ∧ rest = s ∧ shift.Fails s ∧ (hyphenAnchor reference).Fails s := by
  rcases orElse_eq_ok_iff.1 h with h | ⟨hshifts, h⟩
  · obtain ⟨_, _, -, h⟩ := bind_eq_ok_iff.1 h
    obtain ⟨_, _, -, hpure⟩ := bind_eq_ok_iff.1 h
    cases hpure
  · rcases orElse_eq_ok_iff.1 h with h | ⟨hdifference, hpure⟩
    · rw [differenceBehind_eq] at h
      obtain ⟨finish, mid, -, hpure⟩ := bind_eq_ok_iff.1 h
      cases hpure
    · cases hpure
      refine ⟨rfl, rfl, fails_shift_of_shiftsBehind hshifts, ?_⟩
      rw [differenceBehind_eq] at hdifference
      rcases fails_bind_iff.1 hdifference with hfails | ⟨finish, mid, -, m, hm⟩
      · exact hfails
      · cases hm

end Behind

/-! ## Texts with and without an anchor -/

section Shapes

variable {reference : Date} {text rest : List Char} {e : Expression}

/-- A relative expression is shifts from an anchor, wherever the anchor stands. -/
theorem exists_shifted_of_relativeExpression
    (h : relativeExpression reference text = .ok (e, rest)) :
    ∃ a first more, e = .shifted a first more := by
  obtain ⟨r, mid, -, hpure⟩ := bind_eq_ok_iff.1 h
  cases hpure
  exact ⟨_, _, _, rfl⟩

/-- Without an anchor at its start, a text is a relative expression or a period with shifts. -/
theorem expression_of_fails_anchor (hanchor : (anchor reference).Fails text)
    (h : expression reference text = .ok (e, rest)) :
    relativeExpression reference text = .ok (e, rest) ∨ periodChain text = .ok (e, rest) := by
  obtain ⟨hshifted, hdifference, hlone⟩ := fails_of_no_anchor hanchor
  simp only [expression, expressionForms, firstMatch_cons_eq_ok_iff, firstMatch_nil_ne_ok,
    and_false, or_false] at h
  rcases h with h | ⟨-, h | ⟨-, h | ⟨-, h | ⟨-, h⟩⟩⟩⟩
  · exact absurd hshifted (not_fails_of_ok h)
  · exact absurd hdifference (not_fails_of_ok h)
  · exact Or.inl h
  · exact absurd hlone (not_fails_of_ok h)
  · exact Or.inr h

/-- What is read as a lone anchor starts with that anchor, which is all that is read. -/
theorem anchor_of_expression {a : Anchor}
    (h : expression reference text = .ok (.anchor a, rest)) :
    anchor reference text = .ok (a, rest) ∧ shift.Fails rest ∧
      (hyphenAnchor reference).Fails rest := by
  rcases fails_or_ok (anchor reference) text with hno | ⟨a', s, hanchor⟩
  · rcases expression_of_fails_anchor hno h with h | h
    · obtain ⟨_, _, _, heq⟩ := exists_shifted_of_relativeExpression h
      cases heq
    · obtain ⟨_, _, -, h⟩ := bind_eq_ok_iff.1 h
      obtain ⟨_, _, -, hpure⟩ := bind_eq_ok_iff.1 h
      cases hpure
  · rw [expression_of_anchor hanchor] at h
    obtain ⟨rfl, rfl, hshift, hhyphen⟩ := alone_of_behindAnchor h
    exact ⟨hanchor, hshift, hhyphen⟩

/-- What is read as a period with shifts starts with that period, and the shifts are rounds. -/
theorem period_of_expression {base : Period} {more : List Shift}
    (h : expression reference text = .ok (.chain base more, rest)) :
    ∃ s, period text = .ok (base, s) ∧ shift.Rounds s more rest := by
  rcases fails_or_ok (anchor reference) text with hno | ⟨a, s, hanchor⟩
  · rcases expression_of_fails_anchor hno h with h | h
    · obtain ⟨_, _, _, heq⟩ := exists_shifted_of_relativeExpression h
      cases heq
    · obtain ⟨_, s, hperiod, h⟩ := bind_eq_ok_iff.1 h
      obtain ⟨_, _, hmore, hpure⟩ := bind_eq_ok_iff.1 h
      cases hpure
      exact ⟨s, hperiod, rounds_of_shifts hmore⟩
  · rw [expression_of_anchor hanchor] at h
    cases firstAnchor_behindAnchor h

end Shapes

/-! ## No shift is left behind -/

/-- **No shift that could be applied is left behind an anchor or a period.**  Let an expression be
read up to some position of a text.  Where the text starts with an anchor and the expression has
shifts, they are what the rule for shifts gives, run again and again from the end of the anchor on,
and the rule does not match where they end.  The same holds behind the period of a chain.  Where the
expression is an anchor alone, neither a shift nor a hyphen and a second anchor can be read behind
it. -/
theorem no_shift_left_behind (reference : Date) (text : List Char) (e : Expression) (finish : Nat)
    (h : (parseExpression reference text).consumed? text = some (e, finish)) :
    (∀ a middle, (anchor reference).parseAt text 0 = .ok (a, middle) →
      ∀ a' first more, e = .shifted a' first more →
        a' = a ∧ shift.ExhaustedAt text middle (first :: more) finish) ∧
    (∀ base more, e = .chain base more →
      ∃ middle, period.parseAt text 0 = .ok (base, middle) ∧
        shift.ExhaustedAt text middle more finish) ∧
    ∀ a, e = .anchor a →
      (anchor reference).parseAt text 0 = .ok (a, finish) ∧ ¬ shift.MatchesAt text finish ∧
        ¬ (hyphenAnchor reference).MatchesAt text finish := by
  obtain ⟨rest, hread, rfl⟩ := parseAt_eq_ok_iff.1 (consumed?_parse_iff.1 h)
  rw [List.drop_zero] at hread
  refine ⟨?shifted, ?chain, ?alone⟩
  case shifted =>
    rintro a middle hanchor a' first more rfl
    obtain ⟨s, hs, rfl⟩ := parseAt_eq_ok_iff.1 hanchor
    rw [List.drop_zero] at hs
    rw [expression_of_anchor hs] at hread
    obtain ⟨rfl, hrounds⟩ := rounds_of_behindAnchor hread
    rw [(anchor_proceeds reference).eq_drop hs] at hrounds
    exact ⟨rfl, hrounds.exhaustedAt shift_proceeds (Nat.sub_le _ _)⟩
  case chain =>
    rintro base more rfl
    obtain ⟨s, hs, hrounds⟩ := period_of_expression hread
    rw [period_proceeds.eq_drop hs] at hrounds
    exact ⟨_, parseAt_eq_ok_iff.2 ⟨s, hs, rfl⟩,
      hrounds.exhaustedAt shift_proceeds (Nat.sub_le _ _)⟩
  case alone =>
    rintro a rfl
    obtain ⟨hanchor, hshift, hhyphen⟩ := anchor_of_expression hread
    rw [matchesAt_iff, matchesAt_iff, ← (anchor_proceeds reference).eq_drop hanchor]
    exact ⟨parseAt_eq_ok_iff.2 ⟨rest, hanchor, rfl⟩, fun hyes => hyes.not_fails hshift,
      fun hyes => hyes.not_fails hhyphen⟩

/-- A date with two shifts and a period with one, each with something behind them that is no shift,
and a keyword that such a thing follows directly. -/
theorem no_shift_left_behind_apples :
    let january : Anchor := .literal ⟨1, 1, 5, by decide, by decide, by decide, by decide⟩
    let shifted := "jan 5 + 1 day - 2 weeks - 3 apples".toList
    let chain := "1 day + 2 months +".toList
    let alone := "today - 3 apples".toList
    ((anchor .first).parseAt shifted 0 = .ok (january, 5) ∧
      (parseExpression .first shifted).consumed? shifted =
        some (.shifted january ⟨.plus, ⟨.day, 1⟩⟩ [⟨.minus, ⟨.week, 2⟩⟩], 23) ∧
      shift.ExhaustedAt shifted 5 [⟨.plus, ⟨.day, 1⟩⟩, ⟨.minus, ⟨.week, 2⟩⟩] 23) ∧
    ((parseExpression .first chain).consumed? chain =
        some (.chain ⟨.day, 1⟩ [⟨.plus, ⟨.month, 2⟩⟩], 16) ∧
      ∃ middle, period.parseAt chain 0 = .ok (⟨.day, 1⟩, middle) ∧
        shift.ExhaustedAt chain middle [⟨.plus, ⟨.month, 2⟩⟩] 16) ∧
    (parseExpression .first alone).consumed? alone = some (.anchor .today, 5) ∧
      ¬ shift.MatchesAt alone 5 ∧ ¬ (hyphenAnchor .first).MatchesAt alone 5 := by
  intro january shifted chain alone
  have hanchor : (anchor .first).parseAt shifted 0 = .ok (january, 5) := by decide
  have hshifted : (parseExpression .first shifted).consumed? shifted =
      some (.shifted january ⟨.plus, ⟨.day, 1⟩⟩ [⟨.minus, ⟨.week, 2⟩⟩], 23) := by decide +kernel
  have hchain : (parseExpression .first chain).consumed? chain =
      some (.chain ⟨.day, 1⟩ [⟨.plus, ⟨.month, 2⟩⟩], 16) := by decide +kernel
  have halone : (parseExpression .first alone).consumed? alone = some (.anchor .today, 5) := by
    decide
  obtain ⟨hbehind, -, -⟩ := no_shift_left_behind .first shifted _ _ hshifted
  obtain ⟨-, hbase, -⟩ := no_shift_left_behind .first chain _ _ hchain
  obtain ⟨-, -, hlone⟩ := no_shift_left_behind .first alone _ _ halone
  exact ⟨⟨hanchor, hshifted, (hbehind _ _ hanchor _ _ _ rfl).2⟩, ⟨hchain, hbase _ _ rfl⟩, halone,
    (hlone _ rfl).2⟩

end Grammar

end DateCalc
