/-
  Ordered choice, where something matches and where nothing does.

  Where an alternative matches, the first one that does decides, and what stands behind it is never
  asked.  Where all of them fail, one of their mismatches is reported, and which one is a matter of
  how far each got: the first of those that got furthest (`Furthest`), under the name of its
  alternative.  This holds of all rules, so how far one got is counted as an integer
  (`Mismatch.offset`): nothing here supposes that a rule stops inside its text.

  An alternative that got less far than another has no say in this, wherever it stands
  (`furthest_insert_iff`, by induction on what stands before it).  So it can be taken out of the
  list and put back in anywhere: a choice reports about its deepest alternatives alone.
-/
import DateCalc.Proofs.Grammar.Failures

namespace DateCalc

/-! ## How far a mismatch got -/

namespace Mismatch

/-- How far a mismatch got into a text, counted from the start of the text.  The count is below zero
when more was left than the whole text. -/
def offset (text : List Char) (m : Mismatch) : Int := text.length - m.rest.length

theorem offset_lt_iff {text : List Char} {m m' : Mismatch} :
    m'.offset text < m.offset text ↔ m.rest.length < m'.rest.length := by
  unfold offset
  omega

theorem offset_le_iff {text : List Char} {m m' : Mismatch} :
    m'.offset text ≤ m.offset text ↔ m.rest.length ≤ m'.rest.length := by
  unfold offset
  omega

/-- A mismatch is reported at its offset, or at the start of the text when that is below zero. -/
theorem inText_eq (text : List Char) (m : Mismatch) :
    m.inText text = ⟨text, (m.offset text).toNat, m.expected.text, m.rule⟩ := by
  have hposition : text.length - m.rest.length = (m.offset text).toNat := by
    unfold offset
    omega
  rw [inText, hposition]

end Mismatch

namespace Rule

variable {α : Type} {text : List Char} {position : Nat} {name : String} {m : Mismatch}

/-- The rule stops at a position of a text, with this mismatch. -/
def StopsAt (r : Rule α) (text : List Char) (position : Nat) (m : Mismatch) : Prop :=
  r (text.drop position) = .error m

instance [DecidableEq α] (r : Rule α) (text : List Char) (position : Nat) (m : Mismatch) :
    Decidable (r.StopsAt text position m) :=
  inferInstanceAs (Decidable (_ = _))

theorem StopsAt.unique {r : Rule α} {m' : Mismatch} (h : r.StopsAt text position m)
    (h' : r.StopsAt text position m') : m = m' :=
  Except.error.inj (h.symm.trans h')

/-- A rule that stops somewhere in the text fails there when it is run at the position. -/
theorem StopsAt.parseAt {r : Rule α} (h : r.StopsAt text position m) :
    r.parseAt text position =
      .error ⟨text, (m.offset text).toNat, m.expected.text, m.rule⟩ := by
  rw [← Mismatch.inText_eq]
  unfold StopsAt at h
  simp only [Rule.parseAt, h]

theorem not_matchesAt_iff {r : Rule α} :
    ¬ r.MatchesAt text position ↔ ∃ m, r.StopsAt text position m := by
  rw [matchesAt_iff]
  exact ⟨fails_of_not_matches, fun hfails hmatches => hmatches.not_fails hfails⟩

/-! ## The first of those that got furthest -/

/-- All alternatives fail at a position of a text, and the first of those that got furthest is the
one called `name`, which stopped with `m`: those before it got less far, and those behind it no
further. -/
def Furthest (forms : List (String × Rule α)) (text : List Char) (position : Nat) (name : String)
    (m : Mismatch) : Prop :=
  ∃ before r after, forms = before ++ (name, r) :: after ∧ r.StopsAt text position m ∧
    (∀ f ∈ before, ∃ m', f.2.StopsAt text position m' ∧ m'.offset text < m.offset text) ∧
    ∀ f ∈ after, ∃ m', f.2.StopsAt text position m' ∧ m'.offset text ≤ m.offset text

theorem not_furthest_nil : ¬ Furthest ([] : List (String × Rule α)) text position name m := by
  rintro ⟨before, r, after, h, -⟩
  simp at h

/-- One alternative at a time: it is the first itself, or it got less far and the first comes
behind it. -/
theorem furthest_cons_iff {f : String × Rule α} {forms : List (String × Rule α)} :
    Furthest (f :: forms) text position name m ↔
      (f.1 = name ∧ f.2.StopsAt text position m ∧
        ∀ g ∈ forms, ∃ m', g.2.StopsAt text position m' ∧ m'.offset text ≤ m.offset text) ∨
      (∃ m', f.2.StopsAt text position m' ∧ m'.offset text < m.offset text) ∧
        Furthest forms text position name m := by
  constructor
  · rintro ⟨before, r, after, heq, hr, hbefore, hafter⟩
    cases before with
    | nil =>
      cases heq
      exact Or.inl ⟨rfl, hr, hafter⟩
    | cons g before =>
      cases heq
      rw [List.forall_mem_cons] at hbefore
      exact Or.inr ⟨hbefore.1, before, r, after, rfl, hr, hbefore.2, hafter⟩
  · rintro (⟨rfl, hf, hforms⟩ | ⟨hf, before, r, after, rfl, hr, hbefore, hafter⟩)
    · exact ⟨[], f.2, forms, rfl, hf, List.forall_mem_nil _, hforms⟩
    · exact ⟨f :: before, r, after, rfl, hr, List.forall_mem_cons.2 ⟨hf, hbefore⟩, hafter⟩

/-- No alternative got further. -/
theorem Furthest.offset_le {forms : List (String × Rule α)}
    (h : Furthest forms text position name m) {f : String × Rule α} (hf : f ∈ forms)
    {m' : Mismatch} (hm' : f.2.StopsAt text position m') : m'.offset text ≤ m.offset text := by
  obtain ⟨before, r, after, rfl, hr, hbefore, hafter⟩ := h
  rcases List.mem_append.1 hf with hf | hf
  · obtain ⟨m₁, hm₁, hlt⟩ := hbefore f hf
    cases hm₁.unique hm'
    exact le_of_lt hlt
  · rcases List.mem_cons.1 hf with rfl | hf
    · cases hr.unique hm'
      exact le_refl _
    · obtain ⟨m₁, hm₁, hle⟩ := hafter f hf
      cases hm₁.unique hm'
      exact hle

/-- **An alternative that got less far has no say**, wherever it stands. -/
theorem furthest_insert_iff {front back : List (String × Rule α)} {f : String × Rule α}
    {m' : Mismatch} (hf : f.2.StopsAt text position m') (hlt : m'.offset text < m.offset text) :
    Furthest (front ++ f :: back) text position name m ↔
      Furthest (front ++ back) text position name m := by
  induction front with
  | nil =>
    rw [List.nil_append, List.nil_append, furthest_cons_iff]
    constructor
    · rintro (⟨-, hm, -⟩ | ⟨-, hback⟩)
      · cases hf.unique hm
        exact absurd hlt (lt_irrefl _)
      · exact hback
    · intro hback
      exact Or.inr ⟨⟨m', hf, hlt⟩, hback⟩
  | cons g front ih =>
    have hno : ∃ m', f.2.StopsAt text position m' ∧ m'.offset text ≤ m.offset text :=
      ⟨m', hf, le_of_lt hlt⟩
    rw [List.cons_append, List.cons_append, furthest_cons_iff, furthest_cons_iff, ih]
    simp only [List.forall_mem_append, List.forall_mem_cons, hno, true_and]

/-! ## What a choice reports -/

/-- A choice fails where all its alternatives do. -/
theorem fails_firstMatch {forms : List (String × Rule α)} {s : List Char}
    (h : ∀ f ∈ forms, f.2.Fails s) : (firstMatch forms).Fails s := by
  apply fails_of_not_matches
  rintro ⟨x, hx⟩
  obtain ⟨before, f, after, rfl, hf, -⟩ := firstMatch_eq_ok_iff_split.1 hx
  exact not_fails_of_ok hf (h f (by simp))

/-- Where all of some alternatives fail, one of them is the first of those that got furthest. -/
theorem exists_furthest {forms : List (String × Rule α)} (hne : forms ≠ [])
    (h : ∀ f ∈ forms, ∃ m, f.2.StopsAt text position m) :
    ∃ name m, Furthest forms text position name m := by
  obtain ⟨reported, hreported⟩ := fails_firstMatch h
  obtain ⟨before, after, name, r, m, rfl, hr, -, hbefore, hafter⟩ :=
    firstMatch_eq_error hne hreported
  refine ⟨name, m, before, r, after, rfl, hr, fun f hf => ?_, fun f hf => ?_⟩
  · obtain ⟨m', hm'⟩ := h f (List.mem_append_left _ hf)
    exact ⟨m', hm', Mismatch.offset_lt_iff.2 (hbefore f hf m' hm')⟩
  · obtain ⟨m', hm'⟩ := h f (List.mem_append_right _ (List.mem_cons_of_mem _ hf))
    exact ⟨m', hm', Mismatch.offset_le_iff.2 (hafter f hf m' hm')⟩

/-- **The first of those that got furthest is reported**, under its own name, by induction on the
alternatives. -/
theorem Furthest.stopsAt {forms : List (String × Rule α)}
    (h : Furthest forms text position name m) :
    (firstMatch forms).StopsAt text position ⟨m.rest, m.expected, some name⟩ := by
  induction forms with
  | nil => exact absurd h not_furthest_nil
  | cons f forms ih =>
    rcases furthest_cons_iff.1 h with ⟨rfl, hf, hforms⟩ | ⟨⟨m', hf, hlt⟩, hforms⟩
    · cases forms with
      | nil => exact firstMatch_single_of_error hf
      | cons next more =>
        -- What the others would report is the mismatch of one of them, which got no further.
        obtain ⟨reported, hreported⟩ :=
          fails_firstMatch fun g hg => (hforms g hg).imp fun _ hm' => hm'.1
        obtain ⟨before, after, name', r, m', heq, hr, rfl, -, -⟩ :=
          firstMatch_eq_error (List.cons_ne_nil next more) hreported
        obtain ⟨m₁, hm₁, hle⟩ := hforms (name', r) (by simp [heq])
        cases hm₁.unique hr
        refine (firstMatch_of_errors hf hreported).trans ?_
        rw [Mismatch.deeper, if_neg (Nat.not_lt.2 (Mismatch.offset_le_iff.1 hle))]
    · cases forms with
      | nil => exact absurd hforms not_furthest_nil
      | cons next more =>
        refine (firstMatch_of_errors hf (ih hforms)).trans ?_
        rw [Mismatch.deeper, if_pos (Mismatch.offset_lt_iff.1 hlt)]

/-- Run at a position, a choice without a match fails where the furthest alternative does, under its
name. -/
theorem Furthest.parseAt {forms : List (String × Rule α)}
    (h : Furthest forms text position name m) :
    (firstMatch forms).parseAt text position =
      .error ⟨text, (m.offset text).toNat, m.expected.text, some name⟩ :=
  h.stopsAt.parseAt

/-- **A choice takes the first that matches, or reports the first that got furthest.**  Where an
alternative matches, the result is that of the first one that does, whatever stands behind it.
Where all of at least one alternative fail, the failure is that of the first of those that got
furthest, placed where it stopped, for what it expected, and under its name, whatever its own
mismatch was called; none is placed further into the text.  An alternative that got less far may be
left out or stand anywhere else in the list: the failure is the same. -/
theorem choice_first_or_furthest (forms : List (String × Rule α)) (text : List Char)
    (position : Nat) :
    ((∃ f ∈ forms, f.2.MatchesAt text position) →
      ∃ before f after, forms = before ++ f :: after ∧ f.2.MatchesAt text position ∧
        (∀ g ∈ before, ¬ g.2.MatchesAt text position) ∧
        ∀ later, (firstMatch (before ++ f :: later)).parseAt text position =
          f.2.parseAt text position) ∧
    (forms ≠ [] → (∀ f ∈ forms, ¬ f.2.MatchesAt text position) →
      ∃ name m failure, Furthest forms text position name m ∧
        failure = ⟨text, (m.offset text).toNat, m.expected.text, some name⟩ ∧
        (firstMatch forms).parseAt text position = .error failure ∧
        (∀ f ∈ forms, ∀ failure', f.2.parseAt text position = .error failure' →
          failure'.position ≤ failure.position) ∧
        ∀ front f back m', forms = front ++ f :: back → f.2.StopsAt text position m' →
          m'.offset text < m.offset text →
            (firstMatch (front ++ back)).parseAt text position = .error failure ∧
            ∀ front' back', front' ++ back' = front ++ back →
              (firstMatch (front' ++ f :: back')).parseAt text position = .error failure) := by
  constructor
  · rintro ⟨f, hf, hmatches⟩
    obtain ⟨x, hx⟩ := matches_firstMatch hf (matchesAt_iff.1 hmatches)
    obtain ⟨before, g, after, rfl, hg, hbefore⟩ := firstMatch_eq_ok_iff_split.1 hx
    refine ⟨before, g, after, rfl, matchesAt_iff.2 ⟨x, hg⟩,
      fun k hk => not_matchesAt_iff.2 (hbefore k hk), fun later => ?_⟩
    have hdecides : firstMatch (before ++ g :: later) (text.drop position) = .ok x :=
      firstMatch_eq_ok_iff_split.2 ⟨before, g, later, rfl, hg, hbefore⟩
    simp only [Rule.parseAt, hdecides, hg]
  · intro hne hfails
    obtain ⟨name, m, hfurthest⟩ :=
      exists_furthest hne fun f hf => not_matchesAt_iff.1 (hfails f hf)
    refine ⟨name, m, _, hfurthest, rfl, hfurthest.parseAt, fun f hf failure' hreport => ?_, ?_⟩
    · obtain ⟨m', hm'⟩ := not_matchesAt_iff.1 (hfails f hf)
      cases hm'.parseAt.symm.trans hreport
      exact Int.toNat_le_toNat (hfurthest.offset_le hf hm')
    · rintro front f back m' rfl hf hlt
      have hwithout := (furthest_insert_iff hf hlt).1 hfurthest
      refine ⟨hwithout.parseAt, fun front' back' heq => ?_⟩
      rw [← heq] at hwithout
      exact ((furthest_insert_iff hf hlt).2 hwithout).parseAt

/-- At a count without a unit an anchor stops at once, a relative expression behind the count, and a
chain of periods as far as that: the relative expression is reported, and the anchor may be left out
or come last.  At an anchor a chain of periods fails, and nothing matters behind the anchor. -/
theorem choice_first_or_furthest_apples :
    let text := "in 5 apples".toList
    let anchor := ("anchor", Grammar.loneAnchor .first)
    let phrase := ("relative expression", Grammar.relativeExpression .first)
    let chain := ("period chain", Grammar.periodChain)
    let failure : Failure := ⟨text, 5, "day, week, month or year", some "relative expression"⟩
    phrase.2.parseAt text 3 = .error { failure with rule := some "comma list" } ∧
      (firstMatch [anchor, phrase, chain]).parseAt text 3 = .error failure ∧
      (firstMatch [phrase, chain]).parseAt text 3 = .error failure ∧
      (firstMatch [phrase, chain, anchor]).parseAt text 3 = .error failure ∧
      ∀ later, (firstMatch (chain :: anchor :: later)).parseAt "on today".toList 3 =
        .ok (.anchor .today, 8) := by
  intro text anchor phrase chain failure
  have hanchor : anchor.2.StopsAt text 3 ⟨"5 apples".toList, .date, none⟩ := by decide
  have hphrase : phrase.2.StopsAt text 3 ⟨"apples".toList, .unit, some "comma list"⟩ := by decide
  have hchain : chain.2.StopsAt text 3 ⟨"apples".toList, .unit, none⟩ := by decide
  have hreported : (firstMatch [anchor, phrase, chain]).parseAt text 3 = .error failure := by
    decide
  have htoday : anchor.2.parseAt "on today".toList 3 = .ok (.anchor .today, 8) := by decide
  have hnoChain : chain.2.StopsAt "on today".toList 3 ⟨"today".toList, .quantity, none⟩ := by decide
  obtain ⟨name, m, failure', -, hfailure', hreported', -, hshallow⟩ :=
    (choice_first_or_furthest [anchor, phrase, chain] text 3).2 (List.cons_ne_nil _ _) (by
      simp only [List.forall_mem_cons, not_matchesAt_iff]
      exact ⟨⟨_, hanchor⟩, ⟨_, hphrase⟩, ⟨_, hchain⟩, List.forall_mem_nil _⟩)
  obtain rfl : failure' = failure := Except.error.inj (hreported'.symm.trans hreported)
  have hoffset : (m.offset text).toNat = 5 := (congrArg Failure.position hfailure').symm
  have hlt : Mismatch.offset text ⟨"5 apples".toList, .date, none⟩ < m.offset text := by
    have hthree : Mismatch.offset text ⟨"5 apples".toList, .date, none⟩ = 3 := by decide
    omega
  obtain ⟨hwithout, hmoved⟩ := hshallow [] anchor [phrase, chain] _ rfl hanchor hlt
  refine ⟨hphrase.parseAt, hreported, hwithout, hmoved [phrase, chain] [] rfl, ?_⟩
  -- At the anchor the first that matches is not the chain, so it is the anchor.
  obtain ⟨before, f, after, heq, hf, -, hlater⟩ :=
    (choice_first_or_furthest [chain, anchor] "on today".toList 3).1
      ⟨anchor, by simp, _, _, htoday⟩
  cases before with
  | nil =>
    cases heq
    exact absurd hf (not_matchesAt_iff.2 ⟨_, hnoChain⟩)
  | cons g before =>
    cases before with
    | nil =>
      cases heq
      exact fun later => (hlater later).trans htoday
    | cons k before => simp at heq

end Rule

end DateCalc
