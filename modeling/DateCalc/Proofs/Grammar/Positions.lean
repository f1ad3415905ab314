/-
  Rules keep their place in the text.

  A rule is given the text from its start on, and what it leaves, where it matches and where it
  stops, is an end of that text: it neither goes back before its start nor beyond the end of the
  text, and nothing in between is lost or made up (`Proceeds`).  Nearly every rule also consumes
  something when it matches.  Both carry over from the parts of a rule to the whole, whatever the
  parts are, so one lemma for each way to combine rules and one for each token are enough.

  From this comes what positions are for.  A position counted from the end of the text lies where
  the rule left off, and a repetition whose rule consumes something comes to an end by itself: the
  guard in `repeated`, which ends it at a match that consumes nothing, is never needed.
-/
import DateCalc.Proofs.Grammar.ClockTimes
import DateCalc.Proofs.Grammar.Order

namespace DateCalc

namespace Rule

variable {α β : Type} {strict : Bool}

/-- What the rule leaves is an end of the text it was given, where it matches and where it stops;
a strict rule consumes something where it matches. -/
structure Proceeds (strict : Bool) (r : Rule α) : Prop where
  ok : ∀ {s rest : List Char} {a : α}, r s = .ok (a, rest) → rest <:+ s
  error : ∀ {s : List Char} {m : Mismatch}, r s = .error m → m.rest <:+ s
  consumes : ∀ {s rest : List Char} {a : α}, r s = .ok (a, rest) → strict = true →
    rest.length < s.length

namespace Proceeds

/-! ## Single steps -/

/-- A rule that consumes a text of its own and stops only at its start proceeds; it is strict when
the text is never empty. -/
theorem of_sound {r : Rule α}
    (hok : ∀ {s rest : List Char} {a : α}, r s = .ok (a, rest) →
      ∃ p, s = p ++ rest ∧ (strict = true → p ≠ []))
    (herror : ∀ {s : List Char} {m : Mismatch}, r s = .error m → m.rest = s) :
    r.Proceeds strict where
  ok h := by
    obtain ⟨p, rfl, -⟩ := hok h
    exact List.suffix_append p _
  error h := by
    obtain rfl := herror h
    exact List.suffix_refl _
  consumes h hstrict := by
    obtain ⟨p, rfl, hp⟩ := hok h
    have hlength := List.length_pos_iff.2 (hp hstrict)
    rw [List.length_append]
    omega

/-- A strict rule is a rule of either kind. -/
theorem weaken {r : Rule α} (h : r.Proceeds true) (strict : Bool) : r.Proceeds strict :=
  ⟨h.ok, h.error, fun hok _ => h.consumes hok rfl⟩

theorem pure (a : α) : (Pure.pure a : Rule α).Proceeds false where
  ok h := by
    obtain ⟨-, rfl⟩ := pure_eq_ok_iff.1 h
    exact List.suffix_refl _
  error h := nomatch h
  consumes _ hstrict := nomatch hstrict

theorem fail (expected : Expected) : (Rule.fail expected : Rule α).Proceeds strict where
  ok h := nomatch h
  error h := by
    cases h
    exact List.suffix_refl _
  consumes h := nomatch h

/-! ## Sequence -/

/-- A sequence proceeds as its parts do, and it is strict when one of them is. -/
theorem bind_of {r : Rule α} {f : α → Rule β} {strict₁ strict₂ : Bool}
    (hr : r.Proceeds strict₁) (hf : ∀ a, (f a).Proceeds strict₂)
    (hstrict : strict = true → strict₁ = true ∨ strict₂ = true) :
    (r >>= f).Proceeds strict where
  ok h := by
    obtain ⟨a, mid, hmid, hrest⟩ := bind_eq_ok_iff.1 h
    exact ((hf a).ok hrest).trans (hr.ok hmid)
  error {s m} h := by
    rcases hx : r s with m' | ⟨a, mid⟩
    · rw [bind_of_error hx] at h
      cases h
      exact hr.error hx
    · rw [bind_of_ok hx] at h
      exact ((hf a).error h).trans (hr.ok hx)
  consumes {s rest b} h htrue := by
    obtain ⟨a, mid, hmid, hrest⟩ := bind_eq_ok_iff.1 h
    have hle : mid.length ≤ s.length := (hr.ok hmid).length_le
    have hle' : rest.length ≤ mid.length := ((hf a).ok hrest).length_le
    rcases hstrict htrue with h₁ | h₂
    · have hlt := hr.consumes hmid h₁
      omega
    · have hlt := (hf a).consumes hrest h₂
      omega

/-- A sequence is strict when its first part is. -/
theorem bind {r : Rule α} {f : α → Rule β} (hr : r.Proceeds strict)
    (hf : ∀ a, (f a).Proceeds false) : (r >>= f).Proceeds strict :=
  bind_of hr hf Or.inl

/-- A sequence is strict when its second part is. -/
theorem bind_second {r : Rule α} {f : α → Rule β} (hr : r.Proceeds false)
    (hf : ∀ a, (f a).Proceeds strict) : (r >>= f).Proceeds strict :=
  bind_of hr hf Or.inr

/-! ## Choice -/

/-- Either of two rules proceeds as both do: the second one starts over where the first one started.
-/
theorem orElse {p q : Rule α} (hp : p.Proceeds strict) (hq : q.Proceeds strict) :
    (p.orElse q).Proceeds strict where
  ok h := by
    rcases orElse_eq_ok_iff.1 h with h | ⟨-, h⟩
    · exact hp.ok h
    · exact hq.ok h
  error {s m} h := by
    unfold Rule.orElse at h
    split at h
    · cases h
    · exact hq.error h
  consumes h := by
    rcases orElse_eq_ok_iff.1 h with h | ⟨-, h⟩
    · exact hp.consumes h
    · exact hq.consumes h

/-- The failure that is kept of two is one of them, so it lies as far ahead as both do. -/
theorem orDeeper {p q : Rule α} (hp : p.Proceeds strict) (hq : q.Proceeds strict) :
    (p.orDeeper q).Proceeds strict where
  ok h := by
    rcases orDeeper_eq_ok_iff.1 h with h | ⟨-, h⟩
    · exact hp.ok h
    · exact hq.ok h
  error {s m} h := by
    unfold Rule.orDeeper at h
    split at h
    · cases h
    · rename_i m₁ h₁
      split at h
      · cases h
      · rename_i m₂ h₂
        -- Whichever of the two mismatches got further is reported.
        cases h
        unfold Mismatch.deeper
        split
        · exact hq.error h₂
        · exact hp.error h₁
  consumes h := by
    rcases orDeeper_eq_ok_iff.1 h with h | ⟨-, h⟩
    · exact hp.consumes h
    · exact hq.consumes h

/-- A name changes neither ends nor stops. -/
theorem named {r : Rule α} (name : String) (hr : r.Proceeds strict) :
    (r.named name).Proceeds strict where
  ok h := hr.ok (named_eq_ok_iff.1 h)
  error {s m} h := by
    unfold Rule.named at h
    split at h
    · cases h
    · rename_i m' h'
      cases h
      show m'.rest <:+ s
      exact hr.error h'
  consumes h := hr.consumes (named_eq_ok_iff.1 h)

/-- An ordered choice proceeds as all its alternatives do. -/
theorem firstMatch {forms : List (String × Rule α)} (h : ∀ f ∈ forms, f.2.Proceeds strict) :
    (Rule.firstMatch forms).Proceeds strict := by
  induction forms with
  | nil => exact fail .input
  | cons f forms ih =>
    obtain ⟨name, r⟩ := f
    rw [List.forall_mem_cons] at h
    cases forms with
    | nil => exact h.1.named name
    | cons next more => exact (h.1.named name).orDeeper (ih h.2)

/-! ## Repetition -/

/-- What a repetition leaves is an end of its text, by induction on the steps it takes. -/
theorem repeated_suffix {r : Rule α} (hr : r.Proceeds strict) (s : List Char) :
    (repeated r s).2 <:+ s := by
  fun_induction repeated r s with
  | case1 s a rest h hlt as last heq ih =>
    rw [heq] at ih
    exact ih.trans (hr.ok h)
  | case2 s a rest h hlt => exact List.suffix_refl _
  | case3 s m h => exact List.suffix_refl _

/-- Rounds that proceed leave an end of the text, and may leave all of it. -/
theorem many {r : Rule α} (hr : r.Proceeds strict) : (Rule.many r).Proceeds false where
  ok {s rest as} h := by
    have hrep : repeated r s = (as, rest) := Except.ok.inj h
    have hsuffix := hr.repeated_suffix s
    rwa [hrep] at hsuffix
  error h := nomatch h
  consumes _ hstrict := nomatch hstrict

end Proceeds

/-! ## Repetition without a guard -/

/-- The rounds of a repetition that nothing stops but a mismatch: the values and the rest when it
ends.  A repetition that goes on forever has no rounds in this sense. -/
inductive Rounds (r : Rule α) : List Char → List α → List Char → Prop where
  | stop {s : List Char} : r.Fails s → Rounds r s [] s
  | step {s rest last : List Char} {a : α} {as : List α} :
      r s = .ok (a, rest) → Rounds r rest as last → Rounds r s (a :: as) last

/-- The rounds of a strict rule are those of the guarded repetition, whose guard never fires. -/
theorem Proceeds.rounds {r : Rule α} (hr : r.Proceeds true) (s : List Char) :
    r.Rounds s (repeated r s).1 (repeated r s).2 := by
  fun_induction repeated r s with
  | case1 s a rest h hlt as last heq ih =>
    rw [heq] at ih
    exact .step h ih
  | case2 s a rest h hlt => exact absurd (hr.consumes h rfl) hlt
  | case3 s m h => exact .stop ⟨m, h⟩

/-- Rounds have one end. -/
theorem Rounds.unique {r : Rule α} {s last last' : List Char} {as as' : List α}
    (h : r.Rounds s as last) (h' : r.Rounds s as' last') : as = as' ∧ last = last' := by
  induction h generalizing as' last' with
  | stop hf =>
    cases h' with
    | stop => exact ⟨rfl, rfl⟩
    | step hok => exact absurd hf (not_fails_of_ok hok)
  | step hok _ ih =>
    cases h' with
    | stop hf => exact absurd hf (not_fails_of_ok hok)
    | step hok' h' =>
      rw [hok] at hok'
      cases hok'
      obtain ⟨rfl, rfl⟩ := ih h'
      exact ⟨rfl, rfl⟩

/-- Rounds end where the rule fails. -/
theorem Rounds.fails {r : Rule α} {s last : List Char} {as : List α} (h : r.Rounds s as last) :
    r.Fails last := by
  induction h with
  | stop hfails => exact hfails
  | step _ _ ih => exact ih

/-- Rounds leave an end of their text. -/
theorem Rounds.suffix {r : Rule α} (hr : r.Proceeds strict) {s last : List Char} {as : List α}
    (h : r.Rounds s as last) : last <:+ s := by
  induction h with
  | stop => exact List.suffix_refl _
  | step hok _ ih => exact ih.trans (hr.ok hok)

/-- Each round takes at least one character. -/
theorem Rounds.length_le {r : Rule α} (hr : r.Proceeds true) {s last : List Char} {as : List α}
    (h : r.Rounds s as last) : as.length + last.length ≤ s.length := by
  induction h with
  | stop => simp
  | step hok _ ih =>
    have hlt := hr.consumes hok rfl
    rw [List.length_cons]
    omega

/-- Without a guard, the repetition of the rule ends on every text as the guarded one does, after at
most as many rounds as there are characters before its end. -/
def EndsByItself (r : Rule α) : Prop :=
  ∀ s, ∃ as last, many r s = .ok (as, last) ∧
    (∀ as' last', r.Rounds s as' last' ↔ as' = as ∧ last' = last) ∧
    as.length + last.length ≤ s.length

/-- **The repetition of a strict rule ends by itself.** -/
theorem Proceeds.endsByItself {r : Rule α} (hr : r.Proceeds true) : r.EndsByItself := by
  intro s
  have hrounds := hr.rounds s
  refine ⟨(repeated r s).1, (repeated r s).2, rfl, ?_, hrounds.length_le hr⟩
  intro as' last'
  constructor
  · intro h
    exact h.unique hrounds
  · rintro ⟨rfl, rfl⟩
    exact hrounds

/-! ## Positions -/

/-- What is an end of the text from a position on is the text from a later position on, namely the
one that is counted from the end. -/
theorem eq_drop_of_suffix {text rest : List Char} {position : Nat}
    (h : rest <:+ text.drop position) (hposition : position ≤ text.length) :
    rest = text.drop (text.length - rest.length) ∧ position ≤ text.length - rest.length := by
  constructor
  · exact List.suffix_iff_eq_drop.1 (h.trans (List.drop_suffix position text))
  · have hlength := h.length_le
    rw [List.length_drop] at hlength
    omega

/-- At every position of a text the rule ends between that position and the end of the text, behind
the position if it is strict, and it stops between them where it does not match. -/
def InPlace (strict : Bool) (r : Rule α) : Prop :=
  ∀ (text : List Char) (position : Nat), position ≤ text.length →
    (∀ a finish, r.parseAt text position = .ok (a, finish) →
      position ≤ finish ∧ finish ≤ text.length ∧ (strict = true → position < finish) ∧
        r (text.drop position) = .ok (a, text.drop finish)) ∧
    ∀ failure, r.parseAt text position = .error failure →
      position ≤ failure.position ∧ failure.position ≤ text.length

/-- A rule that proceeds on what is left has its ends and its stops inside the text when it is run
at a position. -/
theorem Proceeds.inPlace {r : Rule α} (hr : r.Proceeds strict) : r.InPlace strict := by
  intro text position hposition
  constructor
  · intro a finish h
    obtain ⟨rest, hrest, rfl⟩ := parseAt_eq_ok_iff.1 h
    obtain ⟨hdrop, hle⟩ := eq_drop_of_suffix (hr.ok hrest) hposition
    refine ⟨hle, Nat.sub_le _ _, fun hstrict => ?_, ?_⟩
    · have hlt := hr.consumes hrest hstrict
      rw [List.length_drop] at hlt
      omega
    · rw [← hdrop]
      exact hrest
  · intro failure h
    unfold parseAt at h
    split at h
    · cases h
    · rename_i m hm
      cases h
      exact ⟨(eq_drop_of_suffix (hr.error hm) hposition).2, Nat.sub_le _ _⟩

/-! ## Whole texts -/

/-- What a strict rule leaves of a text is neither nothing nor everything. -/
theorem Proceeds.leaving {r : Rule α} (hr : r.Proceeds true) {text remaining : List Char} {a : α}
    (h : r.parse text = .leaving a remaining) :
    remaining ≠ [] ∧ remaining <:+ text ∧ remaining ≠ text := by
  obtain ⟨hread, hne⟩ := parse_eq_leaving_iff.1 h
  refine ⟨hne, hr.ok hread, ?_⟩
  rintro rfl
  exact absurd (hr.consumes hread rfl) (Nat.lt_irrefl _)

/-- A failure is the text up to where the rule stopped, and the rest. -/
theorem Proceeds.failed {r : Rule α} (hr : r.Proceeds strict) {text : List Char}
    {failure : Failure} (h : r.parse text = .failed failure) :
    ∃ before remaining, text = before ++ remaining ∧ failure.position = before.length ∧
      failure.remaining = String.ofList remaining := by
  unfold parse at h
  split at h
  · cases h
  · cases h
  · rename_i m hm
    cases h
    obtain ⟨before, rfl⟩ := hr.error hm
    have hposition : (before ++ m.rest).length - m.rest.length = before.length := by
      rw [List.length_append]
      omega
    refine ⟨before, m.rest, rfl, hposition, ?_⟩
    show String.ofList ((before ++ m.rest).drop ((before ++ m.rest).length - m.rest.length)) = _
    rw [hposition, List.drop_left]

end Rule

namespace Grammar

open Rule Token

/-! ## Tokens -/

theorem space0_proceeds : space0.Proceeds false := by
  apply Proceeds.of_sound
  · intro s rest u h
    obtain ⟨w, hs, -⟩ := space0_sound h
    exact ⟨w, hs, nofun⟩
  · intro s m h
    cases h

theorem space1_proceeds : space1.Proceeds true := by
  apply Proceeds.of_sound
  · intro s rest u h
    obtain ⟨w, hs, hw, -⟩ := space1_sound h
    exact ⟨w, hs, fun _ => hw.2⟩
  · intro s m h
    unfold space1 at h
    split at h
    · split at h
      · cases h
      · cases h
        rfl
    · cases h
      rfl

theorem tag_proceeds {word : String} (hword : word ≠ "") : (tag word).Proceeds true := by
  apply Proceeds.of_sound
  · intro s rest u h
    exact ⟨word.toList, tag_sound h, fun _ => by simpa using hword⟩
  · intro s m h
    unfold tag at h
    split at h
    · cases h
    · cases h
      rfl

/-- Words that are not empty take something of the text. -/
theorem oneOf_proceeds {α : Type} {words : List (String × α)} (expected : Expected)
    (hwords : ∀ e ∈ words, e.1.toList ≠ []) : (oneOf words expected).Proceeds true := by
  apply Proceeds.of_sound
  · intro s rest a h
    obtain ⟨word, hmem, hs⟩ := oneOf_sound h
    exact ⟨word.toList, hs, fun _ => hwords _ hmem⟩
  · intro s m h
    unfold oneOf at h
    split at h
    · cases h
    · cases h
      rfl

/-- Digits take something of the text, and stop at their start when they fail. -/
theorem digits_proceeds : digits.Proceeds true := by
  apply Proceeds.of_sound
  · intro s rest n h
    obtain ⟨ds, hs, hds, -⟩ := digits_sound h
    exact ⟨ds, hs, fun _ => hds.ne_nil⟩
  · intro s m h
    simp only [digits] at h
    split at h
    · cases h
      rfl
    · split at h
      · cases h
        rfl
      · cases h

/-- Figures that fail stop where they started. -/
theorem figures_stops_at_start {least most : Nat} {s : List Char} {m : Mismatch}
    (h : figures least most s = .error m) : m.rest = s := by
  simp only [figures] at h
  split at h
  · cases h
    rfl
  · cases h

/-! ## Periods and shifts -/

theorem quantity_proceeds : quantity.Proceeds true :=
  digits_proceeds.orElse (oneOf_proceeds .quantity (by decide))

theorem pluralMark_proceeds : pluralMark.Proceeds false := by
  apply Proceeds.of_sound
  · intro s rest u h
    unfold pluralMark at h
    split at h
    · cases h
      exact ⟨['s'], rfl, nofun⟩
    · cases h
      exact ⟨[], rfl, nofun⟩
  · intro s m h
    unfold pluralMark at h
    split at h <;> cases h

theorem unit_proceeds : unit.Proceeds true := by
  refine (oneOf_proceeds .unit (by decide)).bind fun u => ?_
  exact pluralMark_proceeds.bind fun _ => .pure u

theorem period_proceeds : period.Proceeds true := by
  refine quantity_proceeds.bind fun count => ?_
  refine (space1_proceeds.weaken false).bind fun _ => ?_
  exact (unit_proceeds.weaken false).bind fun u => .pure _

theorem sign_proceeds : sign.Proceeds true := by
  apply Proceeds.of_sound
  · intro s rest sg h
    exact ⟨[sg.symbol], sign_sound h, fun _ => List.cons_ne_nil _ _⟩
  · intro s m h
    unfold sign at h
    split at h
    · cases h
    · cases h
    · cases h
      rfl

theorem shift_proceeds : shift.Proceeds true := by
  refine space0_proceeds.bind_second fun _ => ?_
  refine sign_proceeds.bind fun sg => ?_
  refine space0_proceeds.bind fun _ => ?_
  exact (period_proceeds.weaken false).bind fun p => .pure _

theorem shifts_proceeds : shifts.Proceeds false := shift_proceeds.many

/-! ## Dates and anchors -/

/-- A literal date takes something of the text in either form, and stops at its start when it fails.
-/
theorem literal_proceeds (reference : Date) : (literal reference).Proceeds true := by
  apply Proceeds.of_sound
  · intro s rest date h
    obtain ⟨w, p, hs, -, hp⟩ := literal_sound h
    exact ⟨w ++ p, hs, fun _ => List.append_ne_nil_of_right_ne_nil _ hp.front.ne_nil⟩
  · -- Whatever a date lacks, it is reported where the date should start.
    intro s m h
    unfold literal at h
    split at h
    · split at h
      · cases h
      · cases h
        rfl
    · simp only at h
      split at h
      · split at h
        · cases h
        · cases h
          rfl
      · cases h
        rfl

theorem anchor_proceeds (reference : Date) : (anchor reference).Proceeds true := by
  apply Proceeds.orElse
  · exact oneOf_proceeds .date (by decide)
  · exact (literal_proceeds reference).bind fun date => .pure _

/-! ## Sentences -/

theorem conjunction_proceeds : conjunction.Proceeds true := by
  refine space1_proceeds.bind fun _ => ?_
  refine ((tag_proceeds (by decide)).weaken false).bind fun _ => ?_
  exact space1_proceeds.weaken false

theorem listedPeriod_proceeds : listedPeriod.Proceeds true := by
  refine period_proceeds.bind fun p => ?_
  exact ((tag_proceeds (by decide)).weaken false).bind fun _ => .pure p

theorem nextListed_proceeds : nextListed.Proceeds true :=
  space1_proceeds.bind fun _ => listedPeriod_proceeds.weaken false

/-- A list fails where one of its parts does, or behind the listed periods when there are too few.
-/
theorem commaList_proceeds : commaList.Proceeds true := by
  refine listedPeriod_proceeds.bind fun first => ?_
  refine nextListed_proceeds.many.bind fun listed => ?_
  split
  · exact .fail .anotherListed
  · refine (conjunction_proceeds.weaken false).bind fun _ => ?_
    exact (period_proceeds.weaken false).bind fun last => .pure _

theorem pair_proceeds : pair.Proceeds true := by
  refine period_proceeds.bind fun first => ?_
  refine (conjunction_proceeds.weaken false).bind fun _ => ?_
  exact (period_proceeds.weaken false).bind fun second => .pure _

theorem single_proceeds : single.Proceeds true :=
  period_proceeds.bind fun _ => .pure _

theorem sentence_proceeds : sentence.Proceeds true := by
  apply Proceeds.firstMatch
  simp only [sentenceForms, List.forall_mem_cons]
  exact ⟨commaList_proceeds, pair_proceeds, single_proceeds, List.forall_mem_nil _⟩

/-! ## Expressions -/

section Expressions

variable (reference : Date)

/-- A sentence takes something of the text, and its phrase and anchor only go on from there. -/
theorem relative_proceeds : (relative reference).Proceeds true := by
  refine sentence_proceeds.bind fun list => ?_
  refine ((oneOf_proceeds .trailer (by decide)).weaken false).bind fun trailer => ?_
  obtain ⟨direction, anchored⟩ := trailer
  show (ite (anchored = true) _ _ : Rule Relative).Proceeds false
  split
  · exact ((anchor_proceeds reference).weaken false).bind fun _ => .pure _
  · exact (Proceeds.pure Anchor.today).bind fun _ => .pure _

theorem anchorWithShifts_proceeds : (anchorWithShifts reference).Proceeds true := by
  refine (anchor_proceeds reference).bind fun a => ?_
  refine (shift_proceeds.weaken false).bind fun first => ?_
  exact shifts_proceeds.bind fun more => .pure _

theorem difference_proceeds : (difference reference).Proceeds true := by
  refine (anchor_proceeds reference).bind fun start => ?_
  refine space0_proceeds.bind fun _ => ?_
  refine ((tag_proceeds (by decide)).weaken false).bind fun _ => ?_
  refine space0_proceeds.bind fun _ => ?_
  exact ((anchor_proceeds reference).weaken false).bind fun finish => .pure _

theorem relativeExpression_proceeds : (relativeExpression reference).Proceeds true :=
  (relative_proceeds reference).bind fun _ => .pure _

theorem loneAnchor_proceeds : (loneAnchor reference).Proceeds true :=
  (anchor_proceeds reference).bind fun _ => .pure _

theorem periodChain_proceeds : periodChain.Proceeds true := by
  refine period_proceeds.bind fun base => ?_
  exact shifts_proceeds.bind fun more => .pure _

/-- **Every alternative of an expression proceeds.** -/
theorem expression_proceeds : (expression reference).Proceeds true := by
  apply Proceeds.firstMatch
  simp only [expressionForms, List.forall_mem_cons]
  exact ⟨anchorWithShifts_proceeds reference, difference_proceeds reference,
    relativeExpression_proceeds reference, loneAnchor_proceeds reference, periodChain_proceeds,
    List.forall_mem_nil _⟩

end Expressions

/-! ## Clock times -/

/-- A number out of bounds stops where it started, and so does none at all. -/
theorem bounded_stops_at_start {part : String} {least most low high : Nat} {s : List Char}
    {m : Mismatch} (h : bounded part least most low high s = .error m) : m.rest = s := by
  unfold bounded at h
  split at h
  · split at h
    · cases h
    · cases h
      rfl
  · rename_i m' hfigures
    cases h
    exact figures_stops_at_start hfigures

/-- A number of at least one digit takes something of the text. -/
theorem bounded_proceeds (part : String) (least most low high : Nat) :
    (bounded part (least + 1) most low high).Proceeds true := by
  apply Proceeds.of_sound
  · intro s rest n h
    obtain ⟨ds, hs, hds, -⟩ := bounded_sound h
    exact ⟨ds, hs, fun _ => hds.numeral.ne_nil⟩
  · intro s m h
    exact bounded_stops_at_start h

theorem hour12_proceeds : hour12.Proceeds true :=
  (bounded_proceeds "hour" 1 2 1 12).orElse (bounded_proceeds "hour" 0 1 1 12)

theorem minute_proceeds : minute.Proceeds true := bounded_proceeds "minute" 1 2 0 59

theorem second_proceeds : second.Proceeds true := bounded_proceeds "second" 1 2 0 59

theorem optionalColon_proceeds : optionalColon.Proceeds false := by
  apply Proceeds.of_sound
  · intro s rest u h
    rcases optionalColon_sound h with hs | hs
    · exact ⟨[':'], hs, nofun⟩
    · exact ⟨[], hs, nofun⟩
  · intro s m h
    unfold optionalColon at h
    split at h <;> cases h

theorem endOfText_proceeds : endOfText.Proceeds false := by
  apply Proceeds.of_sound
  · intro s rest u h
    obtain ⟨rfl, rfl⟩ := endOfText_sound h
    exact ⟨[], rfl, nofun⟩
  · intro s m h
    unfold endOfText at h
    split at h
    · cases h
    · cases h
      rfl

theorem suffix_proceeds : suffix.Proceeds true := by
  apply Proceeds.of_sound
  · intro s rest half h
    obtain ⟨c, t, rfl, -, rfl⟩ := suffix_sound h
    rcases afterOptionalM_sound t with hsame | ⟨c', -, ht⟩
    · exact ⟨[c], by rw [hsame]; rfl, fun _ => List.cons_ne_nil _ _⟩
    · exact ⟨[c, c'], congrArg (c :: ·) ht, fun _ => List.cons_ne_nil _ _⟩
  · intro s m h
    unfold suffix at h
    split at h <;> cases h
    rfl

theorem meridiem_proceeds : meridiem.Proceeds true :=
  space0_proceeds.bind_second fun _ => suffix_proceeds

theorem military_proceeds : military.Proceeds true := by
  refine (bounded_proceeds "hour" 1 2 0 23).bind fun h => ?_
  exact (minute_proceeds.weaken false).bind fun m => .pure _

theorem hourWithSuffix_proceeds : hourWithSuffix.Proceeds true := by
  refine hour12_proceeds.bind fun h => ?_
  exact (meridiem_proceeds.weaken false).bind fun half => .pure _

theorem hourMinuteWithSuffix_proceeds : hourMinuteWithSuffix.Proceeds true := by
  refine hour12_proceeds.bind fun h => ?_
  refine optionalColon_proceeds.bind fun _ => ?_
  refine (minute_proceeds.weaken false).bind fun m => ?_
  exact (meridiem_proceeds.weaken false).bind fun half => .pure _

theorem hourMinute24_proceeds : hourMinute24.Proceeds true := by
  refine (bounded_proceeds "hour" 0 2 0 23).bind fun h => ?_
  refine optionalColon_proceeds.bind fun _ => ?_
  refine (minute_proceeds.weaken false).bind fun m => ?_
  exact endOfText_proceeds.bind fun _ => .pure _

theorem hourMinuteSecondWithSuffix_proceeds : hourMinuteSecondWithSuffix.Proceeds true := by
  refine hour12_proceeds.bind fun h => ?_
  refine ((tag_proceeds (by decide)).weaken false).bind fun _ => ?_
  refine (minute_proceeds.weaken false).bind fun m => ?_
  refine ((tag_proceeds (by decide)).weaken false).bind fun _ => ?_
  refine (second_proceeds.weaken false).bind fun s => ?_
  exact (meridiem_proceeds.weaken false).bind fun half => .pure _

/-- **Every form of a time proceeds.** -/
theorem clockTime_proceeds : clockTime.Proceeds true := by
  apply Proceeds.firstMatch
  simp only [clockTimeForms, List.forall_mem_cons]
  exact ⟨military_proceeds, hourWithSuffix_proceeds, hourMinuteWithSuffix_proceeds,
    hourMinute24_proceeds, hourMinuteSecondWithSuffix_proceeds, List.forall_mem_nil _⟩

/-! ## The rules of the grammar -/

/-- The rules of the grammar by name, and whether they are strict. -/
inductive GrammarRule (reference : Date) : {α : Type} → (strict : Bool) → Rule α → Prop where
  | space0 : GrammarRule reference false space0
  | space1 : GrammarRule reference true space1
  | tag {word : String} : word ≠ "" → GrammarRule reference true (tag word)
  | digits : GrammarRule reference true digits
  | quantity : GrammarRule reference true quantity
  | unit : GrammarRule reference true unit
  | period : GrammarRule reference true period
  | shift : GrammarRule reference true shift
  | shifts : GrammarRule reference false shifts
  | literal : GrammarRule reference true (literal reference)
  | anchor : GrammarRule reference true (anchor reference)
  | commaList : GrammarRule reference true commaList
  | pair : GrammarRule reference true pair
  | single : GrammarRule reference true single
  | sentence : GrammarRule reference true sentence
  | relative : GrammarRule reference true (relative reference)
  | anchorWithShifts : GrammarRule reference true (anchorWithShifts reference)
  | difference : GrammarRule reference true (difference reference)
  | relativeExpression : GrammarRule reference true (relativeExpression reference)
  | loneAnchor : GrammarRule reference true (loneAnchor reference)
  | periodChain : GrammarRule reference true periodChain
  | expression : GrammarRule reference true (expression reference)
  | military : GrammarRule reference true military
  | hourWithSuffix : GrammarRule reference true hourWithSuffix
  | hourMinuteWithSuffix : GrammarRule reference true hourMinuteWithSuffix
  | hourMinute24 : GrammarRule reference true hourMinute24
  | hourMinuteSecondWithSuffix : GrammarRule reference true hourMinuteSecondWithSuffix
  | clockTime : GrammarRule reference true clockTime

/-- **Every rule of the grammar proceeds.** -/
theorem GrammarRule.proceeds {reference : Date} {α : Type} {strict : Bool} {r : Rule α}
    (h : GrammarRule reference strict r) : r.Proceeds strict := by
  cases h with
  | space0 => exact space0_proceeds
  | space1 => exact space1_proceeds
  | tag hword => exact tag_proceeds hword
  | digits => exact digits_proceeds
  | quantity => exact quantity_proceeds
  | unit => exact unit_proceeds
  | period => exact period_proceeds
  | shift => exact shift_proceeds
  | shifts => exact shifts_proceeds
  | literal => exact literal_proceeds reference
  | anchor => exact anchor_proceeds reference
  | commaList => exact commaList_proceeds
  | pair => exact pair_proceeds
  | single => exact single_proceeds
  | sentence => exact sentence_proceeds
  | relative => exact relative_proceeds reference
  | anchorWithShifts => exact anchorWithShifts_proceeds reference
  | difference => exact difference_proceeds reference
  | relativeExpression => exact relativeExpression_proceeds reference
  | loneAnchor => exact loneAnchor_proceeds reference
  | periodChain => exact periodChain_proceeds
  | expression => exact expression_proceeds reference
  | military => exact military_proceeds
  | hourWithSuffix => exact hourWithSuffix_proceeds
  | hourMinuteWithSuffix => exact hourMinuteWithSuffix_proceeds
  | hourMinute24 => exact hourMinute24_proceeds
  | hourMinuteSecondWithSuffix => exact hourMinuteSecondWithSuffix_proceeds
  | clockTime => exact clockTime_proceeds

end Grammar

end DateCalc
