/-
  Why a text is no expression.

  A text that starts neither with an anchor nor with a period is no expression, and there is only
  one thing to say about it, which is read off the text:

    a count, no blank behind it      "whitespace", behind the count
    a count and blanks               the names of the units, behind the blanks
    no count, a date that is none    "a valid calendar date", at the start
    anything else                    "a date", at the start

  That the mismatch comes through all the choices unchanged is a matter of how far each alternative
  gets.  Those that start with an anchor stop at the start of the text; those that start with a
  period stop where the period does.  So a count, which consumes something, takes the report to the
  first alternative that starts with a period, and without one the tie goes to the very first.
-/
import DateCalc.Proofs.Grammar.Positions

namespace DateCalc

/-! ## The mismatch of a choice -/

/-- The failure is that of the first among the alternatives that got furthest into the text: those
before it stopped earlier, and those behind it got no further. -/
def Failure.Deepest {α : Type} (failure : Failure) (forms : List (String × Rule α))
    (text : List Char) : Prop :=
  ∃ (before after : List (String × Rule α)) (name : String) (r : Rule α) (m : Mismatch),
    forms = before ++ (name, r) :: after ∧ r text = .error m ∧
      failure = Mismatch.inText text ⟨m.rest, m.expected, some name⟩ ∧
      (∀ f ∈ before, ∀ m', f.2 text = .error m' →
        (m'.inText text).position < failure.position) ∧
      ∀ f ∈ after, ∀ m', f.2 text = .error m' → (m'.inText text).position ≤ failure.position

namespace Rule

variable {α β : Type}

theorem named_of_error {name : String} {r : Rule α} {s : List Char} {m : Mismatch}
    (h : r s = .error m) : (r.named name) s = .error ⟨m.rest, m.expected, some name⟩ := by
  simp only [named, h]

theorem orDeeper_of_error {p q : Rule α} {s : List Char} {m m' : Mismatch}
    (hp : p s = .error m) (hq : q s = .error m') :
    (p.orDeeper q) s = .error (m.deeper m') := by
  simp only [orDeeper, hp, hq]

theorem firstMatch_single_of_error {name : String} {r : Rule α} {s : List Char} {m : Mismatch}
    (h : r s = .error m) :
    firstMatch [(name, r)] s = .error ⟨m.rest, m.expected, some name⟩ :=
  named_of_error h

/-- A choice of several alternatives that all fail keeps the deeper of the first mismatch and that
of the others. -/
theorem firstMatch_of_errors {name : String} {r : Rule α} {next : String × Rule α}
    {more : List (String × Rule α)} {s : List Char} {m m' : Mismatch} (h : r s = .error m)
    (hmore : firstMatch (next :: more) s = .error m') :
    firstMatch ((name, r) :: next :: more) s =
      .error (Mismatch.deeper ⟨m.rest, m.expected, some name⟩ m') :=
  orDeeper_of_error (named_of_error h) hmore

/-- **The mismatch of a choice** is that of the first of the alternatives that leave least, by
induction on the alternatives. -/
theorem firstMatch_eq_error {forms : List (String × Rule α)} (hne : forms ≠ []) {s : List Char}
    {m : Mismatch} (h : firstMatch forms s = .error m) :
    ∃ (before after : List (String × Rule α)) (name : String) (r : Rule α) (m₀ : Mismatch),
      forms = before ++ (name, r) :: after ∧ r s = .error m₀ ∧
        m = ⟨m₀.rest, m₀.expected, some name⟩ ∧
        (∀ f ∈ before, ∀ m', f.2 s = .error m' → m₀.rest.length < m'.rest.length) ∧
        ∀ f ∈ after, ∀ m', f.2 s = .error m' → m₀.rest.length ≤ m'.rest.length := by
  induction forms generalizing m with
  | nil => exact absurd rfl hne
  | cons f forms ih =>
    obtain ⟨name, r⟩ := f
    obtain ⟨⟨m₁, hr⟩, hfails⟩ := fails_firstMatch_cons_iff.1 ⟨m, h⟩
    cases forms with
    | nil =>
      rw [firstMatch, named_of_error hr] at h
      cases h
      exact ⟨[], [], name, r, m₁, rfl, hr, rfl, List.forall_mem_nil _, List.forall_mem_nil _⟩
    | cons next more =>
      obtain ⟨m₂, hm₂⟩ := hfails
      rw [firstMatch_of_errors hr hm₂] at h
      obtain ⟨before, after, name', r', m₀, hforms, hr', rfl, hbefore, hafter⟩ :=
        ih (List.cons_ne_nil _ _) hm₂
      have hle : ∀ g ∈ next :: more, ∀ m', g.2 s = .error m' →
          m₀.rest.length ≤ m'.rest.length := by
        intro g hg m' hm'
        rw [hforms, List.mem_append, List.mem_cons] at hg
        rcases hg with hg | rfl | hg
        · exact Nat.le_of_lt (hbefore g hg m' hm')
        · cases hr'.symm.trans hm'
          exact Nat.le_refl _
        · exact hafter g hg m' hm'
      by_cases hlt : m₀.rest.length < m₁.rest.length
      · -- The first alternative left more than one of the others.
        simp only [Mismatch.deeper, hlt, if_true] at h
        cases h
        refine ⟨(name, r) :: before, after, name', r', m₀, by rw [hforms]; rfl, hr', rfl, ?_,
          hafter⟩
        refine List.forall_mem_cons.2 ⟨fun m' hm' => ?_, hbefore⟩
        cases hr.symm.trans hm'
        exact hlt
      · -- No other alternative left less than the first, which a tie goes to.
        simp only [Mismatch.deeper, hlt, if_false] at h
        cases h
        refine ⟨[], next :: more, name, r, m₁, rfl, hr, rfl, List.forall_mem_nil _, ?_⟩
        intro g hg m' hm'
        exact Nat.le_trans (Nat.not_lt.1 hlt) (hle g hg m' hm')

/-- Reading a text fails exactly if the rule does, and says of the text where. -/
theorem parse_eq_failed_iff {r : Rule α} {text : List Char} {failure : Failure} :
    r.parse text = .failed failure ↔ ∃ m, r text = .error m ∧ m.inText text = failure := by
  unfold parse
  split
  · rename_i h
    simp [h]
  · rename_i h
    simp [h]
  · rename_i m h
    simp [h]

/-- Reading a text fails exactly if the rule does. -/
theorem exists_failed_iff {r : Rule α} {text : List Char} :
    (∃ failure, r.parse text = .failed failure) ↔ r.Fails text := by
  constructor
  · rintro ⟨failure, h⟩
    obtain ⟨m, hm, -⟩ := parse_eq_failed_iff.1 h
    exact ⟨m, hm⟩
  · rintro ⟨m, hm⟩
    exact ⟨m.inText text, parse_eq_failed_iff.2 ⟨m, hm, rfl⟩⟩

/-- **The failure of a choice is the deepest**: no alternative stopped further into the text, and
none before the one that is named stopped as far. -/
theorem deepest_of_failed {forms : List (String × Rule α)} (hne : forms ≠ [])
    (hforms : ∀ f ∈ forms, f.2.Proceeds true) {text : List Char} {failure : Failure}
    (h : (firstMatch forms).parse text = .failed failure) : failure.Deepest forms text := by
  obtain ⟨m, hm, rfl⟩ := parse_eq_failed_iff.1 h
  obtain ⟨before, after, name, r, m₀, rfl, hr, rfl, hbefore, hafter⟩ := firstMatch_eq_error hne hm
  refine ⟨before, after, name, r, m₀, rfl, hr, rfl, fun f hf m' hm' => ?_, fun f hf m' hm' => ?_⟩
  · have hlt := hbefore f hf m' hm'
    have hle := ((hforms f (List.mem_append_left _ hf)).error hm').length_le
    show text.length - m'.rest.length < text.length - m₀.rest.length
    omega
  · have hle := hafter f hf m' hm'
    show text.length - m'.rest.length ≤ text.length - m₀.rest.length
    omega

end Rule

namespace Grammar

open Rule Token

/-! ## Where an anchor stops -/

/-- A date in the ISO form stands at the start, blanks aside, and no digit goes on. -/
def StartsIso (text : List Char) : Prop :=
  ∃ w p f rest, text = w ++ p ++ rest ∧ Text.allBlank w = true ∧ IsoText p f ∧
    Stops Char.isDigit rest

/-- A date in one of the other forms fills the text up to the next sign, blanks aside. -/
def FillsSegment (reference : Date) (text : List Char) : Prop :=
  ∃ f, WholeText reference.year (Text.trim (segment text)) f

/-- The text has the form of a date, whether or not that names a day. -/
def DateShaped (reference : Date) (text : List Char) : Prop :=
  StartsIso text ∨ FillsSegment reference text

/-- No digit follows the ISO form. -/
theorem isoFields_stops {s rest : List Char} {f : DateFields}
    (h : isoFields s = .ok (f, rest)) : Stops Char.isDigit rest := by
  obtain ⟨_, _, -, h⟩ := bind_eq_ok_iff.1 h
  obtain ⟨_, _, -, h⟩ := bind_eq_ok_iff.1 h
  obtain ⟨_, _, -, h⟩ := bind_eq_ok_iff.1 h
  obtain ⟨_, _, -, h⟩ := bind_eq_ok_iff.1 h
  obtain ⟨_, _, -, h⟩ := bind_eq_ok_iff.1 h
  obtain ⟨_, _, -, h⟩ := bind_eq_ok_iff.1 h
  obtain ⟨_, _, hend, hpure⟩ := bind_eq_ok_iff.1 h
  obtain ⟨-, rfl⟩ := pure_eq_ok_iff.1 hpure
  obtain ⟨rfl, hstop⟩ := noDigit_sound hend
  exact hstop

/-- The ISO form is read exactly from a text that starts with it. -/
theorem matches_isoFields_iff {text : List Char} : isoFields.Matches text ↔ StartsIso text := by
  constructor
  · rintro ⟨⟨f, rest⟩, h⟩
    obtain ⟨w, p, htext, hw, hp⟩ := isoFields_sound h
    exact ⟨w, p, f, rest, htext, hw, hp, isoFields_stops h⟩
  · rintro ⟨w, p, f, rest, rfl, hw, hp, hrest⟩
    exact ⟨_, isoFields_append hw hp hrest⟩

/-- Fields are read from a whole text exactly if it is in one of the forms. -/
theorem matches_wholeFields_iff {reference : Date} {text : List Char} :
    (wholeFields reference).Matches text ↔ ∃ f, WholeText reference.year text f := by
  constructor
  · rintro ⟨⟨f, rest⟩, h⟩
    exact ⟨f, wholeFields_sound h⟩
  · rintro ⟨f, h⟩
    exact ⟨_, wholeFields_append h⟩

/-- **A date that is refused** is refused at its start: its form decides what for. -/
theorem literal_eq_error {reference : Date} {text : List Char} {m : Mismatch}
    (h : literal reference text = .error m) :
    DateShaped reference text ∧ m = ⟨text, .validDate, none⟩ ∨
      ¬ DateShaped reference text ∧ m = ⟨text, .date, none⟩ := by
  unfold literal at h
  split at h
  · rename_i f rest hiso
    have hshape : DateShaped reference text := Or.inl (matches_isoFields_iff.1 ⟨_, hiso⟩)
    split at h
    · cases h
    · cases h
      exact Or.inl ⟨hshape, rfl⟩
  · rename_i m' hiso
    have hnot : ¬ StartsIso text := fun hstart =>
      (matches_isoFields_iff.2 hstart).not_fails ⟨m', hiso⟩
    simp only at h
    split at h
    · rename_i f rest hwhole
      have hshape : DateShaped reference text := Or.inr (matches_wholeFields_iff.1 ⟨_, hwhole⟩)
      split at h
      · cases h
      · cases h
        exact Or.inl ⟨hshape, rfl⟩
    · rename_i m'' hwhole
      have hnot' : ¬ FillsSegment reference text := fun hfills =>
        (matches_wholeFields_iff.2 hfills).not_fails ⟨m'', hwhole⟩
      cases h
      exact Or.inr ⟨fun hshape => hshape.elim hnot hnot', rfl⟩

/-- An anchor that is refused is refused like the date it would have to be. -/
theorem anchor_eq_error {reference : Date} {text : List Char} {m : Mismatch}
    (h : anchor reference text = .error m) :
    DateShaped reference text ∧ m = ⟨text, .validDate, none⟩ ∨
      ¬ DateShaped reference text ∧ m = ⟨text, .date, none⟩ := by
  obtain ⟨⟨m₁, hword⟩, -⟩ := fails_orElse_iff.1 ⟨m, h⟩
  simp only [anchor, orElse, hword] at h
  rcases hdate : literal reference text with m₂ | ⟨date, rest⟩
  · rw [bind_of_error hdate] at h
    cases h
    exact literal_eq_error hdate
  · rw [bind_of_ok hdate] at h
    cases h

/-! ## Where a period stops -/

/-- A missing gap is reported where it should be. -/
theorem space1_eq_error {s : List Char} {m : Mismatch} (h : space1 s = .error m) :
    m = ⟨s, .whitespace, none⟩ := by
  cases s with
  | nil => cases h; rfl
  | cons c s =>
    simp only [space1] at h
    split at h
    · cases h
    · cases h; rfl

/-- A missing word is reported where it should be. -/
theorem oneOf_eq_error {α : Type} {words : List (String × α)} {expected : Expected}
    {s : List Char} {m : Mismatch} (h : oneOf words expected s = .error m) :
    m = ⟨s, expected, none⟩ := by
  simp only [oneOf] at h
  split at h
  · cases h
  · cases h; rfl

/-- A missing unit is reported where it should be, and the mark of the plural is never missing. -/
theorem unit_eq_error {s : List Char} {m : Mismatch} (h : unit s = .error m) :
    m = ⟨s, .unit, none⟩ := by
  rcases hword : oneOf unitWords .unit s with m₁ | ⟨u, rest⟩
  · rw [unit, bind_of_error hword] at h
    cases h
    exact oneOf_eq_error hword
  · -- The letter behind a unit is never missed.
    exfalso
    rcases fails_bind_iff.1 (⟨m, h⟩ : unit.Fails s) with hno | ⟨u', mid, -, hrest⟩
    · exact not_fails_of_ok hword hno
    · rcases fails_bind_iff.1 hrest with ⟨m₁, hmark⟩ | ⟨_, _, -, ⟨m₁, hpure⟩⟩
      · unfold pluralMark at hmark
        split at hmark
        · cases hmark
        · cases hmark
      · cases hpure

/-- A missing count is reported where it should be, whatever kept digits from being one. -/
theorem quantity_eq_error {s : List Char} {m : Mismatch} (h : quantity s = .error m) :
    m = ⟨s, .quantity, none⟩ := by
  obtain ⟨⟨m₁, hdigits⟩, -⟩ := fails_orElse_iff.1 (⟨m, h⟩ : quantity.Fails s)
  simp only [quantity, orElse, hdigits] at h
  exact oneOf_eq_error h

/-- Without a count a period stops at its start. -/
theorem period_of_no_quantity {s : List Char} (h : quantity.Fails s) :
    period s = .error ⟨s, .quantity, none⟩ := by
  obtain ⟨m, hm⟩ := h
  rw [period, bind_of_error hm, quantity_eq_error hm]

/-- Behind a count a period stops where a blank is missing. -/
theorem period_of_no_gap {s rest : List Char} {n : Nat} (h : quantity s = .ok (n, rest))
    (hrest : Stops Text.isBlank rest) : period s = .error ⟨rest, .whitespace, none⟩ := by
  obtain ⟨m, hm⟩ := fails_space1_iff.2 hrest
  rw [period, bind_of_ok h, bind_of_error hm, space1_eq_error hm]

/-- Behind a count and blanks a period can only want its unit. -/
theorem period_of_no_unit {s w rest : List Char} {n : Nat} (h : quantity s = .ok (n, w ++ rest))
    (hw : Gap w) (hrest : Stops Text.isBlank rest) (hfails : period.Fails s) :
    period s = .error ⟨rest, .unit, none⟩ := by
  rcases hunit : unit rest with m | ⟨u, rest'⟩
  · rw [period, bind_of_ok h, bind_of_ok (space1_append hw hrest), bind_of_error hunit,
      unit_eq_error hunit]
  · refine absurd hfails (not_fails_of_ok (x := (⟨u, n⟩, rest')) ?_)
    rw [period, bind_of_ok h, bind_of_ok (space1_append hw hrest), bind_of_ok hunit]
    rfl

/-! ## Where an expression stops -/

/-- A sentence stops where its first period does: all its forms start with one. -/
theorem sentence_of_no_period {s : List Char} {m : Mismatch} (h : period s = .error m) :
    sentence s = .error ⟨m.rest, m.expected, some "comma list"⟩ := by
  have hlist : commaList s = .error m := bind_of_error (bind_of_error h)
  have hpair : pair s = .error m := bind_of_error h
  have hsingle : single s = .error m := bind_of_error h
  have hdeeper : ∀ name name' : String, Mismatch.deeper ⟨m.rest, m.expected, some name⟩
      ⟨m.rest, m.expected, some name'⟩ = ⟨m.rest, m.expected, some name⟩ := fun _ _ =>
    if_neg (Nat.lt_irrefl _)
  refine (firstMatch_of_errors hlist
    (firstMatch_of_errors hpair (firstMatch_single_of_error hsingle))).trans ?_
  rw [hdeeper, hdeeper]

/-- **The mismatches meet.**  Where neither an anchor nor a period stands, the three alternatives
that start with an anchor stop like the anchor, and the two that start with a period like the
period.  So the choice is between the first of the three and the first of the two. -/
theorem expression_of_no_start {reference : Date} {s : List Char} {m m' : Mismatch}
    (hanchor : anchor reference s = .error m) (hperiod : period s = .error m') :
    expression reference s =
      .error (Mismatch.deeper ⟨m.rest, m.expected, some "anchor with operations"⟩
        ⟨m'.rest, m'.expected, some "relative expression"⟩) := by
  have hshifted : anchorWithShifts reference s = .error m := bind_of_error hanchor
  have hdifference : difference reference s = .error m := bind_of_error hanchor
  have hlone : loneAnchor reference s = .error m := bind_of_error hanchor
  have hchain : periodChain s = .error m' := bind_of_error hperiod
  have hrelative : relativeExpression reference s =
      .error ⟨m'.rest, m'.expected, some "comma list"⟩ :=
    bind_of_error (bind_of_error (sentence_of_no_period hperiod))
  refine (firstMatch_of_errors hshifted (firstMatch_of_errors hdifference
    (firstMatch_of_errors hrelative (firstMatch_of_errors hlone
      (firstMatch_single_of_error hchain))))).trans (congrArg Except.error ?_)
  -- Three mismatches lie at one place and two at another, so only the first of each can be kept.
  by_cases hlt : m'.rest.length < m.rest.length
  · simp only [Mismatch.deeper, hlt, Nat.lt_irrefl, if_true, if_false]
  · by_cases hlt' : m.rest.length < m'.rest.length
    · simp only [Mismatch.deeper, hlt, hlt', Nat.lt_irrefl, if_true, if_false]
    · simp only [Mismatch.deeper, hlt, hlt', Nat.lt_irrefl, if_false]

/-- Where neither an anchor nor a period stands, no expression does, and nowhere else. -/
theorem fails_expression_iff {reference : Date} {s : List Char} :
    (expression reference).Fails s ↔ (anchor reference).Fails s ∧ period.Fails s := by
  constructor
  · intro h
    simp only [expression, expressionForms, fails_firstMatch_cons_iff] at h
    obtain ⟨-, -, -, hlone, hchain, -⟩ := h
    constructor
    · -- An anchor would be an expression by itself.
      rcases fails_bind_iff.1 hlone with hfails | ⟨_, _, -, ⟨m, hpure⟩⟩
      · exact hfails
      · cases hpure
    · -- A period would be one too, as a run of shifts may be empty.
      rcases fails_bind_iff.1 hchain with hfails | ⟨_, _, -, hrest⟩
      · exact hfails
      · rcases fails_bind_iff.1 hrest with ⟨m, hmany⟩ | ⟨_, _, -, ⟨m, hpure⟩⟩
        · cases hmany
        · cases hpure
  · rintro ⟨⟨m, hanchor⟩, m', hperiod⟩
    exact ⟨_, expression_of_no_start hanchor hperiod⟩

/-! ## What is reported -/

/-- What the failure of a text says: which alternative stopped where, and what it wanted there. -/
structure Explains (reference : Date) (text : List Char) (failure : Failure) : Prop where
  /-- Behind a count stands no blank. -/
  gap : ∀ n finish, quantity.parseAt text 0 = .ok (n, finish) →
    Stops Text.isBlank (text.drop finish) →
    failure = ⟨text, finish, "whitespace", some "relative expression"⟩
  /-- Behind a count and blanks stands no unit. -/
  unit : ∀ n finish w rest, quantity.parseAt text 0 = .ok (n, finish) →
    text.drop finish = w ++ rest → Gap w → Stops Text.isBlank rest →
    failure = ⟨text, finish + w.length, "day, week, month or year", some "relative expression"⟩
  /-- There is no count, and the text has the form of a date. -/
  impossible : ¬ quantity.MatchesAt text 0 → DateShaped reference text →
    failure = ⟨text, 0, "a valid calendar date", some "anchor with operations"⟩
  /-- There is neither a count nor the form of a date. -/
  shapeless : ¬ quantity.MatchesAt text 0 → ¬ DateShaped reference text →
    failure = ⟨text, 0, "a date", some "anchor with operations"⟩

/-- The alternatives that start with an anchor stop at the start of the text, so every rest that is
shorter is reported. -/
theorem expression_of_shorter {reference : Date} {s : List Char} {m' : Mismatch}
    (hanchor : (anchor reference).Fails s) (hperiod : period s = .error m')
    (hlt : m'.rest.length < s.length) :
    expression reference s = .error ⟨m'.rest, m'.expected, some "relative expression"⟩ := by
  obtain ⟨m, hm⟩ := hanchor
  have hstart : m.rest = s := by
    rcases anchor_eq_error hm with ⟨-, rfl⟩ | ⟨-, rfl⟩ <;> rfl
  rw [expression_of_no_start hm hperiod, Mismatch.deeper, if_pos (by rw [hstart]; exact hlt)]

/-- Without a count the report is that of the anchor. -/
theorem expression_of_no_quantity {reference : Date} {s : List Char} {m : Mismatch}
    (hanchor : anchor reference s = .error m) (hquantity : quantity.Fails s) :
    expression reference s = .error ⟨m.rest, m.expected, some "anchor with operations"⟩ := by
  have hstart : m.rest = s := by
    rcases anchor_eq_error hanchor with ⟨-, rfl⟩ | ⟨-, rfl⟩ <;> rfl
  rw [expression_of_no_start hanchor (period_of_no_quantity hquantity), Mismatch.deeper,
    if_neg (by rw [hstart]; exact Nat.lt_irrefl _)]

/-- **Every failure is explained by what stands at the start of the text**: how far a period goes
there, or what keeps a date from being one. -/
theorem explains_of_failed {reference : Date} {text : List Char} {failure : Failure}
    (h : parseExpression reference text = .failed failure) :
    Explains reference text failure := by
  obtain ⟨m, hm, rfl⟩ := parse_eq_failed_iff.1 h
  obtain ⟨hanchor, hperiod⟩ := fails_expression_iff.1 ⟨m, hm⟩
  -- A count at the start consumes something and is followed by what the text has there.
  have hcount : ∀ n finish, quantity.parseAt text 0 = .ok (n, finish) →
      quantity text = .ok (n, text.drop finish) ∧ finish ≤ text.length ∧ 0 < finish := by
    intro n finish hquantity
    have hplace := (quantity_proceeds.inPlace text 0 (Nat.zero_le _)).1 n finish hquantity
    exact ⟨hplace.2.2.2, hplace.2.1, hplace.2.2.1 rfl⟩
  have hnone : ¬ quantity.MatchesAt text 0 → quantity.Fails text := fun hno =>
    fails_of_not_matches fun hmatches => hno (matchesAt_iff.2 hmatches)
  refine ⟨?gap, ?unit, ?impossible, ?shapeless⟩
  case gap =>
    intro n finish hquantity hstop
    obtain ⟨hread, hle, hpos⟩ := hcount n finish hquantity
    have hstopped := expression_of_shorter hanchor (period_of_no_gap hread hstop) (by
      rw [List.length_drop]
      omega)
    cases hstopped.symm.trans hm
    have hposition : text.length - (text.drop finish).length = finish := by
      rw [List.length_drop]
      omega
    simp only [Mismatch.inText, hposition, Expected.text]
  case unit =>
    intro n finish w rest hquantity hrest hw hstop
    obtain ⟨hread, hle, hpos⟩ := hcount n finish hquantity
    have hlength := congrArg List.length hrest
    rw [List.length_drop, List.length_append] at hlength
    rw [hrest] at hread
    have hstopped := expression_of_shorter hanchor (period_of_no_unit hread hw hstop hperiod) (by
      show rest.length < text.length
      omega)
    cases hstopped.symm.trans hm
    have hposition : text.length - rest.length = finish + w.length := by omega
    simp only [Mismatch.inText, hposition, Expected.text]
  case impossible =>
    intro hno hshape
    obtain ⟨m₁, hm₁⟩ := hanchor
    have hstopped := expression_of_no_quantity hm₁ (hnone hno)
    rcases anchor_eq_error hm₁ with ⟨-, rfl⟩ | ⟨hnot, -⟩
    · cases hstopped.symm.trans hm
      simp only [Mismatch.inText, Nat.sub_self, Expected.text]
    · exact absurd hshape hnot
  case shapeless =>
    intro hno hshape
    obtain ⟨m₁, hm₁⟩ := hanchor
    have hstopped := expression_of_no_quantity hm₁ (hnone hno)
    rcases anchor_eq_error hm₁ with ⟨hnot, -⟩ | ⟨-, rfl⟩
    · exact absurd hnot hshape
    · cases hstopped.symm.trans hm
      simp only [Mismatch.inText, Nat.sub_self, Expected.text]

/-- **The failure of a text is determined.**  A text is no expression exactly when neither an anchor
nor a period stands at its start.  Its failure is the deepest of the alternatives' own, and the text
says which that is. -/
theorem parseExpression_failure (reference : Date) (text : List Char) :
    ((∃ failure, parseExpression reference text = .failed failure) ↔
        ¬ (anchor reference).MatchesAt text 0 ∧ ¬ period.MatchesAt text 0) ∧
      ∀ failure, parseExpression reference text = .failed failure →
        Explains reference text failure ∧ failure.Deepest (expressionForms reference) text := by
  constructor
  · rw [parseExpression, exists_failed_iff, fails_expression_iff, matchesAt_iff, matchesAt_iff,
      List.drop_zero]
    constructor
    · rintro ⟨hanchor, hperiod⟩
      exact ⟨fun h => h.not_fails hanchor, fun h => h.not_fails hperiod⟩
    · rintro ⟨hanchor, hperiod⟩
      exact ⟨fails_of_not_matches hanchor, fails_of_not_matches hperiod⟩
  · intro failure h
    refine ⟨explains_of_failed h, deepest_of_failed (List.cons_ne_nil _ _) ?_ h⟩
    simp only [List.forall_mem_cons]
    exact ⟨anchorWithShifts_proceeds reference, difference_proceeds reference,
      relativeExpression_proceeds reference, loneAnchor_proceeds reference, periodChain_proceeds,
      List.forall_mem_nil _⟩

example : parseExpression .first "5  apples".toList =
    .failed ⟨"5  apples".toList, 3, "day, week, month or year", some "relative expression"⟩ := by
  decide
example : parseExpression .first " 2021-02-30".toList =
    .failed ⟨" 2021-02-30".toList, 0, "a valid calendar date", some "anchor with operations"⟩ := by
  decide

end Grammar

end DateCalc
