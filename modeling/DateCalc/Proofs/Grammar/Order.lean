/-
  What the order of the alternatives decides.

  No text starts both with an anchor and with a period.  So of the five alternatives for expressions
  two can match at one place only in three ways: an anchor alone where an anchor with shifts or a
  difference stands as well, and a period with shifts where a relative expression does.  In these
  pairs the longer alternative has to be tried first, and the table `precedence` says so.

  The order matters there and nowhere else.  An arrangement of the alternatives reads every text
  like the one in use, with the same value and the same end, exactly when it follows the table.

  That an arrangement which follows the table changes nothing is a fact about ordered choice alone
  (`firstMatch_rearranged`): of the alternatives that match, the first one precedes all others, and
  no arrangement may put another one before it.
-/
import Mathlib.Data.List.Nodup
import DateCalc.Proofs.Grammar.Canonical

namespace DateCalc

namespace Rule

variable {α : Type}

/-! ## Matching -/

/-- The rule matches at the front of this text. -/
def Matches (r : Rule α) (s : List Char) : Prop := ∃ x, r s = .ok x

/-- The rule matches at a position of a text. -/
def MatchesAt (r : Rule α) (text : List Char) (position : Nat) : Prop :=
  ∃ a finish, r.parseAt text position = .ok (a, finish)

theorem Matches.not_fails {r : Rule α} {s : List Char} (h : r.Matches s) : ¬ r.Fails s := by
  obtain ⟨x, hx⟩ := h
  exact not_fails_of_ok hx

theorem fails_of_not_matches {r : Rule α} {s : List Char} (h : ¬ r.Matches s) : r.Fails s := by
  rcases fails_or_ok r s with hf | ⟨a, rest, hok⟩
  · exact hf
  · exact absurd ⟨_, hok⟩ h

/-- What a sequence of rules matches, its first rule does. -/
theorem matches_of_bind {β : Type} {r : Rule α} {f : α → Rule β} {s : List Char}
    (h : (r >>= f).Matches s) : r.Matches s := by
  obtain ⟨x, hx⟩ := h
  obtain ⟨a, mid, ha, -⟩ := bind_eq_ok_iff.1 hx
  exact ⟨_, ha⟩

/-- A rule that is run at a position gives what it gives on the rest, with the end counted from the
start of the text. -/
theorem parseAt_eq_ok_iff {r : Rule α} {text : List Char} {position finish : Nat} {a : α} :
    r.parseAt text position = .ok (a, finish) ↔
      ∃ rest, r (text.drop position) = .ok (a, rest) ∧ text.length - rest.length = finish := by
  unfold parseAt
  split
  · rename_i b rest h
    simp [h]
  · rename_i m h
    simp [h]

/-- A rule matches at a position exactly if it matches the rest from there. -/
theorem matchesAt_iff {r : Rule α} {text : List Char} {position : Nat} :
    r.MatchesAt text position ↔ r.Matches (text.drop position) := by
  constructor
  · rintro ⟨a, finish, h⟩
    obtain ⟨rest, hrest, -⟩ := parseAt_eq_ok_iff.1 h
    exact ⟨_, hrest⟩
  · rintro ⟨⟨a, rest⟩, h⟩
    exact ⟨a, _, parseAt_eq_ok_iff.2 ⟨rest, h, rfl⟩⟩

/-! ## Ordered choice -/

/-- The alternative that decides, with those before it, which fail, and those behind it. -/
theorem firstMatch_eq_ok_iff_split {forms : List (String × Rule α)} {s : List Char}
    {x : α × List Char} :
    firstMatch forms s = .ok x ↔
      ∃ before f after, forms = before ++ f :: after ∧ f.2 s = .ok x ∧
        ∀ g ∈ before, g.2.Fails s := by
  induction forms with
  | nil =>
    constructor
    · intro h
      exact absurd h firstMatch_nil_ne_ok
    · rintro ⟨before, f, after, h, -⟩
      simp at h
  | cons e forms ih =>
    obtain ⟨name, r⟩ := e
    rw [firstMatch_cons_eq_ok_iff, ih]
    constructor
    · rintro (h | ⟨hf, before, f, after, rfl, h, hbefore⟩)
      · exact ⟨[], (name, r), forms, rfl, h, List.forall_mem_nil _⟩
      · exact ⟨(name, r) :: before, f, after, rfl, h, List.forall_mem_cons.2 ⟨hf, hbefore⟩⟩
    · rintro ⟨before, f, after, heq, h, hbefore⟩
      cases before with
      | nil =>
        cases heq
        exact Or.inl h
      | cons g before =>
        cases heq
        rw [List.forall_mem_cons] at hbefore
        exact Or.inr ⟨hbefore.1, before, f, after, rfl, h, hbefore.2⟩

/-- A choice matches where one of its alternatives does. -/
theorem matches_firstMatch {forms : List (String × Rule α)} {s : List Char}
    {f : String × Rule α} (hf : f ∈ forms) (h : f.2.Matches s) : (firstMatch forms).Matches s := by
  induction forms with
  | nil => cases hf
  | cons e forms ih =>
    obtain ⟨name, r⟩ := e
    by_cases hr : r.Matches s
    · obtain ⟨x, hx⟩ := hr
      exact ⟨x, firstMatch_cons_eq_ok_iff.2 (Or.inl hx)⟩
    · -- The first alternative fails, so it is not the one that matches.
      rcases List.mem_cons.1 hf with rfl | hmem
      · exact absurd h hr
      · obtain ⟨x, hx⟩ := ih hmem
        exact ⟨x, firstMatch_cons_eq_ok_iff.2 (Or.inr ⟨fails_of_not_matches hr, hx⟩)⟩

/-- **Rearranged alternatives.**  Where two alternatives match, let the one tried first precede the
other.  Then no arrangement changes the result that puts nothing before what precedes it. -/
theorem firstMatch_rearranged (precedes : String → String → Prop)
    {forms forms' : List (String × Rule α)} {s : List Char} (hperm : forms'.Perm forms)
    (hdecided : forms.Pairwise fun f g => f.2.Matches s → g.2.Matches s → precedes f.1 g.1)
    (horder : forms'.Pairwise fun f g => ¬ precedes g.1 f.1) (x : α × List Char) :
    firstMatch forms' s = .ok x ↔ firstMatch forms s = .ok x := by
  have hsame : ∀ y, firstMatch forms s = .ok y → firstMatch forms' s = .ok y := by
    intro y hy
    obtain ⟨before, f, after, rfl, hf, hbefore⟩ := firstMatch_eq_ok_iff_split.1 hy
    -- The alternative that decides precedes every other one that matches.
    have hfirst : ∀ g ∈ before ++ f :: after, g.2.Matches s → g = f ∨ precedes f.1 g.1 := by
      intro g hg hmatches
      rcases List.mem_append.1 hg with hg | hg
      · exact absurd (hbefore g hg) hmatches.not_fails
      · rcases List.mem_cons.1 hg with rfl | hg
        · exact Or.inl rfl
        · have hbehind := (List.pairwise_append.1 hdecided).2.1
          exact Or.inr ((List.pairwise_cons.1 hbehind).1 g hg ⟨y, hf⟩ hmatches)
    have hmem : f ∈ forms' := hperm.mem_iff.2 (by simp)
    obtain ⟨before', after', rfl, hnot⟩ := List.eq_append_cons_of_mem hmem
    refine firstMatch_eq_ok_iff_split.2 ⟨before', f, after', rfl, hf, fun g hg => ?_⟩
    apply fails_of_not_matches
    intro hmatches
    have hg' : g ∈ before ++ f :: after := hperm.mem_iff.1 (List.mem_append_left _ hg)
    rcases hfirst g hg' hmatches with rfl | hprecedes
    · exact hnot hg
    · exact (List.pairwise_append.1 horder).2.2 g hg f List.mem_cons_self hprecedes
  constructor
  · intro hx
    obtain ⟨before, f, after, rfl, hf, -⟩ := firstMatch_eq_ok_iff_split.1 hx
    have hmem : f ∈ forms := hperm.mem_iff.1 (by simp)
    obtain ⟨y, hy⟩ := matches_firstMatch hmem ⟨x, hf⟩
    have hxy := hsame y hy
    rw [hx] at hxy
    cases hxy
    exact hy
  · exact hsame x

/-- Of two alternatives that alone match, the one that stands before the other decides. -/
theorem firstMatch_of_before {forms : List (String × Rule α)} {s : List Char} {y : α × List Char}
    {f g : String × Rule α} (hnodup : forms.Nodup) (hbefore : [g, f].Sublist forms)
    (hg : g.2 s = .ok y) (honly : ∀ k ∈ forms, k.2.Matches s → k = g ∨ k = f) :
    firstMatch forms s = .ok y := by
  obtain ⟨x, hx⟩ := matches_firstMatch (hbefore.subset List.mem_cons_self) ⟨y, hg⟩
  obtain ⟨before, k, after, rfl, hk, hfails⟩ := firstMatch_eq_ok_iff_split.1 hx
  rcases honly k (by simp) ⟨x, hk⟩ with rfl | rfl
  · rwa [hx, ← hk]
  · -- The later one stands at one place only, and the earlier one before that place.
    obtain ⟨-, hbehind, -⟩ := List.nodup_append.1 hnodup
    have hnot := (List.nodup_cons.1 hbehind).1
    have hmem : g ∈ before := by
      obtain ⟨l, l', hl, hsub, hsub'⟩ := List.sublist_append_iff.1 hbefore
      cases l with
      | cons c l =>
        obtain rfl : g = c := (List.cons.inj hl).1
        exact hsub.subset List.mem_cons_self
      | nil =>
        cases hl
        cases hsub' with
        | cons _ hsub' => exact absurd (hsub'.subset (by simp)) hnot
        | cons_cons _ hsub' => exact absurd (hsub'.subset (by simp)) hnot
    exact absurd (hfails g hmem) (Matches.not_fails ⟨y, hg⟩)

end Rule

namespace Grammar

open Rule Token

/-! ## What starts with what -/

/-- **No text starts both with an anchor and with a period.** -/
theorem not_anchor_and_period {reference : Date} {s : List Char}
    (ha : (anchor reference).Matches s) (hp : period.Matches s) : False := by
  obtain ⟨⟨a, rest⟩, ha⟩ := ha
  obtain ⟨⟨b, rest'⟩, hb⟩ := hp
  obtain ⟨p, rfl, hp⟩ := (anchor_reads reference).sound ha
  obtain ⟨q, heq, hq⟩ := period_reads.sound hb
  exact hp.ne_period hq heq

theorem anchor_of_anchorWithShifts {reference : Date} {s : List Char}
    (h : (anchorWithShifts reference).Matches s) : (anchor reference).Matches s :=
  matches_of_bind h

theorem anchor_of_difference {reference : Date} {s : List Char}
    (h : (difference reference).Matches s) : (anchor reference).Matches s :=
  matches_of_bind h

theorem anchor_of_loneAnchor {reference : Date} {s : List Char}
    (h : (loneAnchor reference).Matches s) : (anchor reference).Matches s :=
  matches_of_bind h

theorem period_of_periodChain {s : List Char} (h : periodChain.Matches s) : period.Matches s :=
  matches_of_bind h

theorem period_of_relativeExpression {reference : Date} {s : List Char}
    (h : (relativeExpression reference).Matches s) : period.Matches s := by
  by_contra hno
  exact h.not_fails (fails_relativeExpression_of_no_period (fails_of_not_matches hno))

/-- The alternatives that start with an anchor. -/
theorem anchor_of_mem {reference : Date} {s : List Char} {r : Rule Expression}
    (hr : r ∈ [anchorWithShifts reference, difference reference, loneAnchor reference])
    (h : r.Matches s) : (anchor reference).Matches s := by
  simp only [List.mem_cons, List.not_mem_nil, or_false] at hr
  rcases hr with rfl | rfl | rfl
  · exact anchor_of_anchorWithShifts h
  · exact anchor_of_difference h
  · exact anchor_of_loneAnchor h

/-- The alternatives that start with a period. -/
theorem period_of_mem {reference : Date} {s : List Char} {r : Rule Expression}
    (hr : r ∈ [relativeExpression reference, periodChain]) (h : r.Matches s) :
    period.Matches s := by
  simp only [List.mem_cons, List.not_mem_nil, or_false] at hr
  rcases hr with rfl | rfl
  · exact period_of_relativeExpression h
  · exact period_of_periodChain h

/-- Behind one anchor a shift and a second anchor cannot both stand: the sign of the shift would be
the hyphen, and its period would start like the second anchor. -/
theorem not_anchorWithShifts_and_difference {reference : Date} {s : List Char}
    (h : (anchorWithShifts reference).Matches s) (h' : (difference reference).Matches s) :
    False := by
  obtain ⟨x, hx⟩ := h
  obtain ⟨a, mid, hanchor, hx⟩ := bind_eq_ok_iff.1 hx
  obtain ⟨first, _, hshift, -⟩ := bind_eq_ok_iff.1 hx
  obtain ⟨_, mid₁, hspace, hshift⟩ := bind_eq_ok_iff.1 hshift
  obtain ⟨sg, mid₂, hsign, hshift⟩ := bind_eq_ok_iff.1 hshift
  obtain ⟨_, mid₃, hspace₂, hshift⟩ := bind_eq_ok_iff.1 hshift
  obtain ⟨y, hy⟩ := h'
  obtain ⟨a', mid', hanchor', hy⟩ := bind_eq_ok_iff.1 hy
  obtain ⟨_, mid₁', hspace', hy⟩ := bind_eq_ok_iff.1 hy
  obtain ⟨_, mid₂', htag, hy⟩ := bind_eq_ok_iff.1 hy
  obtain ⟨_, mid₃', hspace₂', hy⟩ := bind_eq_ok_iff.1 hy
  -- Both go the same way up to where the period and the second anchor start.
  rw [hanchor] at hanchor'
  cases hanchor'
  rw [hspace] at hspace'
  cases hspace'
  have hmid : sg.symbol :: mid₂ = '-' :: mid₂' := (sign_sound hsign).symm.trans (tag_sound htag)
  obtain rfl := (List.cons.inj hmid).2
  rw [hspace₂] at hspace₂'
  cases hspace₂'
  exact not_anchor_and_period (matches_of_bind ⟨y, hy⟩) (matches_of_bind ⟨_, hshift⟩)

/-! ## The table -/

/-- The pairs of alternatives of which the first has to be tried before the second. -/
def precedence : List (String × String) :=
  [("anchor with operations", "anchor"), ("date difference", "anchor"),
   ("relative expression", "period chain")]

/-- No alternative stands behind one that it has to be tried before. -/
def InOrder (forms : List (String × Rule Expression)) : Prop :=
  forms.Pairwise fun f g => (g.1, f.1) ∉ precedence

instance (forms : List (String × Rule Expression)) : Decidable (InOrder forms) :=
  inferInstanceAs (Decidable (List.Pairwise _ forms))

/-- Where two alternatives match, the table says which one is tried first. -/
theorem expressionForms_decided (reference : Date) (s : List Char) :
    (expressionForms reference).Pairwise fun f g =>
      f.2.Matches s → g.2.Matches s → (f.1, g.1) ∈ precedence := by
  have hshifted := fun h => @not_anchor_and_period reference s (anchor_of_anchorWithShifts h)
  have hdifference := fun h => @not_anchor_and_period reference s (anchor_of_difference h)
  have hlone := fun h => @not_anchor_and_period reference s (anchor_of_loneAnchor h)
  simp only [expressionForms, List.pairwise_cons, List.forall_mem_cons, List.not_mem_nil,
    false_implies, implies_true, List.Pairwise.nil, and_true]
  refine ⟨⟨fun h h' => ?_, fun h h' => ?_, fun _ _ => by decide, fun h h' => ?_⟩,
    ⟨fun h h' => ?_, fun _ _ => by decide, fun h h' => ?_⟩,
    ⟨fun h h' => ?_, fun _ _ => by decide⟩, fun h h' => ?_⟩
  · exact (not_anchorWithShifts_and_difference h h').elim
  · exact (hshifted h (period_of_relativeExpression h')).elim
  · exact (hshifted h (period_of_periodChain h')).elim
  · exact (hdifference h (period_of_relativeExpression h')).elim
  · exact (hdifference h (period_of_periodChain h')).elim
  · exact (hlone h' (period_of_relativeExpression h)).elim
  · exact (hlone h (period_of_periodChain h')).elim

/-- No alternative is listed twice. -/
theorem expressionForms_nodup (reference : Date) : (expressionForms reference).Nodup := by
  apply List.Nodup.of_map Prod.fst
  show ["anchor with operations", "date difference", "relative expression", "anchor",
    "period chain"].Nodup
  decide

/-- Where an anchor stands, only the alternatives that start with one match. -/
theorem matching_of_anchor {reference : Date} {s : List Char} {k : String × Rule Expression}
    (hk : k ∈ expressionForms reference) (hmatches : k.2.Matches s)
    (h : (anchor reference).Matches s) :
    k = ("anchor with operations", anchorWithShifts reference) ∨
      k = ("date difference", difference reference) ∨ k = ("anchor", loneAnchor reference) := by
  simp only [expressionForms, List.mem_cons, List.not_mem_nil, or_false] at hk
  rcases hk with rfl | rfl | rfl | rfl | rfl
  · exact Or.inl rfl
  · exact Or.inr (Or.inl rfl)
  · exact (not_anchor_and_period h (period_of_relativeExpression hmatches)).elim
  · exact Or.inr (Or.inr rfl)
  · exact (not_anchor_and_period h (period_of_periodChain hmatches)).elim

/-- Where a period stands, only the alternatives that start with one match. -/
theorem matching_of_period {reference : Date} {s : List Char} {k : String × Rule Expression}
    (hk : k ∈ expressionForms reference) (hmatches : k.2.Matches s) (h : period.Matches s) :
    k = ("relative expression", relativeExpression reference) ∨
      k = ("period chain", periodChain) := by
  simp only [expressionForms, List.mem_cons, List.not_mem_nil, or_false] at hk
  rcases hk with rfl | rfl | rfl | rfl | rfl
  · exact (not_anchor_and_period (anchor_of_anchorWithShifts hmatches) h).elim
  · exact (not_anchor_and_period (anchor_of_difference hmatches) h).elim
  · exact Or.inl rfl
  · exact (not_anchor_and_period (anchor_of_loneAnchor hmatches) h).elim
  · exact Or.inr rfl

/-! ## Texts on which the table decides -/

/-- On some text two alternatives match with different expressions, no other alternative matches,
and what is read is not what the second one gives. -/
def Contested (reference : Date) (f g : String × Rule Expression) : Prop :=
  ∃ s x y, expression reference s = .ok x ∧ g.2 s = .ok y ∧ x.1 ≠ y.1 ∧
    ∀ k ∈ expressionForms reference, k.2.Matches s → k = g ∨ k = f

/-- A date and a shift: the date alone would leave the shift. -/
theorem contested_shift (reference : Date) :
    Contested reference ("anchor with operations", anchorWithShifts reference)
      ("anchor", loneAnchor reference) := by
  have hshift : ShiftText " + 1 day".toList ⟨.plus, ⟨.day, 1⟩⟩ :=
    @shiftText_chars ⟨.plus, ⟨.day, 1⟩⟩ (by decide)
  have hshifted : anchorWithShifts reference "today + 1 day".toList =
      .ok (.shifted .today ⟨.plus, ⟨.day, 1⟩⟩ [], []) :=
    anchorWithShifts_append .today hshift .nil (rfl : Text.allBlank [] = true)
  have halone : loneAnchor reference "today + 1 day".toList =
      .ok (.anchor .today, " + 1 day".toList) := rfl
  refine ⟨_, _, _, firstMatch_cons_eq_ok_iff.2 (Or.inl hshifted), halone, nofun, ?_⟩
  intro k hk hmatches
  rcases matching_of_anchor hk hmatches (anchor_of_loneAnchor ⟨_, halone⟩) with rfl | rfl | rfl
  · exact Or.inr rfl
  · exact (not_anchorWithShifts_and_difference ⟨_, hshifted⟩ hmatches).elim
  · exact Or.inl rfl

/-- A date and another one: the first alone would leave the second. -/
theorem contested_difference (reference : Date) :
    Contested reference ("date difference", difference reference)
      ("anchor", loneAnchor reference) := by
  have hdifference : difference reference "today-today".toList =
      .ok (.difference .today .today, []) := rfl
  have halone : loneAnchor reference "today-today".toList =
      .ok (.anchor .today, "-today".toList) := rfl
  have hunshifted : ¬ (anchorWithShifts reference).Matches "today-today".toList := fun h =>
    not_anchorWithShifts_and_difference h ⟨_, hdifference⟩
  have hread : expression reference "today-today".toList = .ok (.difference .today .today, []) :=
    firstMatch_cons_eq_ok_iff.2 (Or.inr ⟨fails_of_not_matches hunshifted,
      firstMatch_cons_eq_ok_iff.2 (Or.inl hdifference)⟩)
  refine ⟨_, _, _, hread, halone, nofun, ?_⟩
  intro k hk hmatches
  rcases matching_of_anchor hk hmatches (anchor_of_loneAnchor ⟨_, halone⟩) with rfl | rfl | rfl
  · exact absurd hmatches hunshifted
  · exact Or.inr rfl
  · exact Or.inl rfl

/-- A period and a trailing phrase: the period alone would leave the phrase. -/
theorem contested_phrase (reference : Date) :
    Contested reference ("relative expression", relativeExpression reference)
      ("period chain", periodChain) := by
  have hperiod : PeriodText "1 day".toList ⟨.day, 1⟩ := @periodText_chars ⟨.day, 1⟩ (by decide)
  have hago : expression reference "1 day ago".toList =
      .ok (.shifted .today ⟨.minus, ⟨.day, 1⟩⟩ [], []) :=
    parse_eq_full_iff.1 (parse_full_iff.2 (.ago (.single hperiod)))
  have hends : EndsPeriod " ago".toList := stops_cons.2 (by decide)
  have hread : period ("1 day".toList ++ " ago".toList) = .ok (⟨.day, 1⟩, " ago".toList) :=
    period_reads.complete hperiod hends
  -- The row of shifts behind the period is empty: no sign stands there.
  have hunsigned : shift.Fails ([' '] ++ "ago".toList) :=
    fails_shift rfl (stops_cons.2 (by decide)) (stops_cons.2 (by decide))
  have hnone : shifts ([] ++ " ago".toList) = .ok ([], " ago".toList) :=
    shifts_append .nil hends hunsigned
  have hchain : periodChain "1 day ago".toList = .ok (.chain ⟨.day, 1⟩ [], " ago".toList) :=
    bind_eq_ok_iff.2 ⟨_, _, hread, bind_eq_ok_iff.2 ⟨_, _, hnone, rfl⟩⟩
  refine ⟨_, _, _, hago, hchain, nofun, ?_⟩
  intro k hk hmatches
  exact (matching_of_period hk hmatches (period_of_periodChain ⟨_, hchain⟩)).symm

/-- Each pair of the table is needed. -/
theorem contested_of_precedence {reference : Date} {f g : String × Rule Expression}
    (hf : f ∈ expressionForms reference) (hg : g ∈ expressionForms reference)
    (h : (f.1, g.1) ∈ precedence) : Contested reference f g := by
  obtain ⟨name, r⟩ := f
  obtain ⟨name', r'⟩ := g
  simp only [precedence, List.mem_cons, Prod.mk.injEq, List.not_mem_nil, or_false] at h
  rcases h with ⟨rfl, rfl⟩ | ⟨rfl, rfl⟩ | ⟨rfl, rfl⟩
  · obtain rfl : r = anchorWithShifts reference := by simpa [expressionForms] using hf
    obtain rfl : r' = loneAnchor reference := by simpa [expressionForms] using hg
    exact contested_shift reference
  · obtain rfl : r = difference reference := by simpa [expressionForms] using hf
    obtain rfl : r' = loneAnchor reference := by simpa [expressionForms] using hg
    exact contested_difference reference
  · obtain rfl : r = relativeExpression reference := by simpa [expressionForms] using hf
    obtain rfl : r' = periodChain := by simpa [expressionForms] using hg
    exact contested_phrase reference

/-! ## Arrangements -/

/-- An arrangement that follows the table reads every text like the one in use. -/
theorem firstMatch_of_inOrder {reference : Date} {forms : List (String × Rule Expression)}
    (hperm : forms.Perm (expressionForms reference)) (horder : InOrder forms) (s : List Char)
    (x : Expression × List Char) :
    firstMatch forms s = .ok x ↔ expression reference s = .ok x :=
  firstMatch_rearranged (fun a b => (a, b) ∈ precedence) hperm
    (expressionForms_decided reference s) horder x

/-- An arrangement that reads every text with the same expression follows the table: where it does
not, two alternatives stand the wrong way round, and on some text the wrong one decides. -/
theorem inOrder_of_same {reference : Date} {forms : List (String × Rule Expression)}
    (hperm : forms.Perm (expressionForms reference))
    (hsame : ∀ s e rest, expression reference s = .ok (e, rest) →
      ∃ rest', firstMatch forms s = .ok (e, rest')) : InOrder forms := by
  rw [InOrder, List.pairwise_iff_forall_sublist]
  intro g f hbefore hprecedes
  have hmem : ∀ k ∈ [g, f], k ∈ expressionForms reference := fun k hk =>
    hperm.mem_iff.1 (hbefore.subset hk)
  obtain ⟨s, x, y, hx, hy, hne, honly⟩ :=
    contested_of_precedence (hmem f (by simp)) (hmem g (by simp)) hprecedes
  have hwrong : firstMatch forms s = .ok y :=
    firstMatch_of_before (hperm.nodup_iff.2 (expressionForms_nodup reference)) hbefore hy
      fun k hk => honly k (hperm.mem_iff.1 hk)
  obtain ⟨rest', hright⟩ := hsame s x.1 x.2 hx
  rw [hwrong] at hright
  cases hright
  exact hne rfl

/-- **The order matters in two places only**: before an anchor alone, and before a period with
shifts.  At no position of a text does an anchor match and a period as well, so no alternative that
starts with one meets an alternative that starts with the other; and an anchor with shifts never
meets a difference.  So the arrangements of the five alternatives that read every text at every
position like the one in use, with the same expression and the same end, are exactly those that
follow the table. -/
theorem order_matters_twice (reference : Date) :
    (∀ text position,
      ¬ ((anchor reference).MatchesAt text position ∧ period.MatchesAt text position) ∧
      ¬ ((anchorWithShifts reference).MatchesAt text position ∧
        (difference reference).MatchesAt text position) ∧
      ∀ r ∈ [anchorWithShifts reference, difference reference, loneAnchor reference],
        ∀ r' ∈ [relativeExpression reference, periodChain],
          ¬ (r.MatchesAt text position ∧ r'.MatchesAt text position)) ∧
    ∀ forms, forms.Perm (expressionForms reference) →
      (InOrder forms ↔ ∀ text position e finish,
        (firstMatch forms).parseAt text position = .ok (e, finish) ↔
          (expression reference).parseAt text position = .ok (e, finish)) := by
  constructor
  · intro text position
    simp only [matchesAt_iff]
    refine ⟨fun h => not_anchor_and_period h.1 h.2,
      fun h => not_anchorWithShifts_and_difference h.1 h.2, ?_⟩
    intro r hr r' hr' h
    exact not_anchor_and_period (anchor_of_mem hr h.1) (period_of_mem hr' h.2)
  · intro forms hperm
    constructor
    · intro horder text position e finish
      simp only [parseAt_eq_ok_iff, firstMatch_of_inOrder hperm horder]
    · intro hsame
      apply inOrder_of_same hperm
      intro s e rest h
      have hread : (expression reference).parseAt s 0 = .ok (e, s.length - rest.length) :=
        parseAt_eq_ok_iff.2 ⟨rest, h, rfl⟩
      obtain ⟨rest', h', -⟩ := parseAt_eq_ok_iff.1 ((hsame s 0 _ _).2 hread)
      exact ⟨rest', h'⟩

/-- The alternatives for periods may be tried before those for anchors. -/
theorem order_matters_twice_periods_first :
    let forms := [("relative expression", relativeExpression .first),
      ("period chain", periodChain), ("date difference", difference .first),
      ("anchor with operations", anchorWithShifts .first), ("anchor", loneAnchor .first)]
    forms.Perm (expressionForms .first) ∧ InOrder forms ∧ ∀ text position e finish,
      (firstMatch forms).parseAt text position = .ok (e, finish) ↔
        (expression .first).parseAt text position = .ok (e, finish) := by
  intro forms
  have horder : InOrder forms := by decide
  have hrotate := @List.perm_append_comm _
    [("relative expression", relativeExpression .first), ("period chain", periodChain)]
    [("date difference", difference .first),
      ("anchor with operations", anchorWithShifts .first), ("anchor", loneAnchor .first)]
  have hperm : forms.Perm (expressionForms .first) :=
    hrotate.trans ((List.Perm.swap _ _ _).trans (((List.Perm.swap _ _ _).cons _).cons _))
  exact ⟨hperm, horder, ((order_matters_twice .first).2 forms hperm).1 horder⟩

end Grammar

end DateCalc
