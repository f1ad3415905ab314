/-
  Blanks at the end of a text are left.

  Blanks are skipped before signs and units, and a date is cut out of its segment by trimming, so
  blanks at the end of a text might be taken for a part of it.  They never are: a rule of the
  grammar that has skipped blanks wants something behind them, and at the end of the text there is
  nothing.

  The property that carries this through the rules is `Steady`: blanks appended to the text change
  nothing of what a rule reads.  Sequence, choice and repetition keep it.  The skipping of blanks is
  not steady by itself, as it would go on over the new ones, but it is in front of a steady rule
  that does not match at the end of the text.  The same holds for a phrase that ends with a blank,
  which may be completed by the blanks that are appended.
-/
import DateCalc.Proofs.Grammar.Failures

namespace DateCalc

open Rule Token

/-! ## Blanks behind a text -/

/-- Where a class stops in both of two texts, it stops in one after the other. -/
theorem Stops.append {p : Char → Bool} {s t : List Char} (hs : Stops p s) (ht : Stops p t) :
    Stops p (s ++ t) := by
  cases s with
  | nil => exact ht
  | cons c s => exact stops_cons.2 (stops_cons.1 hs)

/-- Blanks start with no character of another class. -/
theorem stops_of_allBlank {p : Char → Bool} {w : List Char} (hw : Text.allBlank w = true)
    (hp : ∀ {c : Char}, Text.isBlank c = true → p c = false) : Stops p w := by
  cases w with
  | nil => exact stops_nil p
  | cons c w => exact stops_cons.2 (hp (allBlank_cons.1 hw).1)

/-- What stops a class may be appended without making its run longer. -/
theorem takeWhile_append_stops {p : Char → Bool} {w : List Char} (hw : Stops p w)
    (s : List Char) : (s ++ w).takeWhile p = s.takeWhile p := by
  have hrun : (s.takeWhile p ++ (s.dropWhile p ++ w)).takeWhile p = s.takeWhile p :=
    takeWhile_run List.all_takeWhile ((stops_dropWhile p s).append hw)
  rwa [← List.append_assoc, List.takeWhile_append_dropWhile] at hrun

/-- Dropping a run at the front of a text does not reach into what the class does not begin. -/
theorem dropWhile_append_stops {p : Char → Bool} {w : List Char} (hw : Stops p w)
    (s : List Char) : (s ++ w).dropWhile p = s.dropWhile p ++ w := by
  have hrun : (s.takeWhile p ++ (s.dropWhile p ++ w)).dropWhile p = s.dropWhile p ++ w :=
    dropWhile_run List.all_takeWhile ((stops_dropWhile p s).append hw)
  rwa [← List.append_assoc, List.takeWhile_append_dropWhile] at hrun

namespace Text

variable {w : List Char}

/-- Behind the blanks before it, a text goes on with something else, whatever is appended. -/
theorem stops_trimStart {s : List Char} (hs : trimStart s ≠ []) (t : List Char) :
    Stops isBlank (trimStart s ++ t) := by
  have hstart : Stops isBlank (trimStart s) := stops_dropWhile isBlank s
  cases hrest : trimStart s with
  | nil => exact absurd hrest hs
  | cons c rest =>
    rw [hrest] at hstart
    exact stops_cons.2 (stops_cons.1 hstart)

/-- The blanks before a text stay the same, unless it has nothing else. -/
theorem takeWhile_isBlank_append {s : List Char} (hs : trimStart s ≠ []) (t : List Char) :
    (s ++ t).takeWhile isBlank = s.takeWhile isBlank := by
  have hrun := takeWhile_run (List.all_takeWhile (p := isBlank) (l := s)) (stops_trimStart hs t)
  rwa [← List.append_assoc, takeWhile_append_trimStart] at hrun

/-- Blanks behind a text are skipped with the blanks before it only if it has nothing else. -/
theorem trimStart_append (hw : allBlank w = true) (s : List Char) :
    trimStart s = [] ∧ trimStart (s ++ w) = [] ∨
      trimStart s ≠ [] ∧ trimStart (s ++ w) = trimStart s ++ w := by
  have hsplit := takeWhile_append_trimStart s
  by_cases hs : trimStart s = []
  · left
    rw [hs, List.append_nil] at hsplit
    have hblank : allBlank s = true := by
      rw [← hsplit]
      exact List.all_takeWhile
    have hnothing := trimStart_append_of_allBlank (allBlank_append.2 ⟨hblank, hw⟩) []
    rw [List.append_nil] at hnothing
    exact ⟨hs, hnothing⟩
  · right
    have hrun := dropWhile_run (List.all_takeWhile (p := isBlank) (l := s)) (stops_trimStart hs w)
    rw [← List.append_assoc, hsplit] at hrun
    exact ⟨hs, hrun⟩

/-- Blanks at the end are trimmed off with all others there. -/
theorem trimEnd_append_of_allBlank (hw : allBlank w = true) (s : List Char) :
    trimEnd (s ++ w) = trimEnd s := by
  have hreverse : allBlank w.reverse = true := by
    rw [allBlank, List.all_reverse]
    exact hw
  rw [trimEnd, List.reverse_append]
  exact congrArg List.reverse (trimStart_append_of_allBlank hreverse s.reverse)

/-- Trimming takes away blanks that are appended. -/
theorem trim_append_of_allBlank (hw : allBlank w = true) (s : List Char) :
    trim (s ++ w) = trim s := by
  rcases trimStart_append hw s with ⟨hs, happend⟩ | ⟨-, happend⟩
  · rw [trim, trim, happend, hs]
  · rw [trim, trim, happend, trimEnd_append_of_allBlank hw]

end Text

namespace Rule

variable {α β : Type}

/-! ## Steady rules -/

/-- Blanks appended to the text change nothing of what the rule reads: where it matches, they stay
behind the rest, and where it fails, it still fails. -/
structure Steady (r : Rule α) : Prop where
  ok : ∀ {w s rest : List Char} {a : α}, Text.allBlank w = true → r s = .ok (a, rest) →
    r (s ++ w) = .ok (a, rest ++ w)
  fails : ∀ {w s : List Char}, Text.allBlank w = true → r.Fails s → r.Fails (s ++ w)

/-- A rule is steady when it reads every text like the text with blanks behind it. -/
theorem Steady.of_append {r : Rule α} (h : ∀ {w s : List Char}, Text.allBlank w = true →
    r.Fails s ∧ r.Fails (s ++ w) ∨
      ∃ a rest, r s = .ok (a, rest) ∧ r (s ++ w) = .ok (a, rest ++ w)) : r.Steady where
  ok {w s rest a} hw hok := by
    rcases h (s := s) hw with ⟨hfails, -⟩ | ⟨a', rest', hs, happend⟩
    · exact absurd hfails (not_fails_of_ok hok)
    · rw [hok] at hs
      cases hs
      exact happend
  fails {w s} hw hfails := by
    rcases h (s := s) hw with ⟨-, happend⟩ | ⟨a, rest, hs, -⟩
    · exact happend
    · exact absurd hfails (not_fails_of_ok hs)

theorem Proceeds.fails_nil {r : Rule α} (hr : r.Proceeds true) : r.Fails [] := by
  rcases fails_or_ok r [] with h | ⟨a, rest, h⟩
  · exact h
  · exact absurd (hr.consumes h rfl) (Nat.not_lt_zero _)

/-- A sequence of three can be grouped either way. -/
theorem bind_assoc {γ : Type} (r : Rule α) (f : α → Rule β) (g : β → Rule γ) :
    (r >>= f) >>= g = r >>= fun a => f a >>= g := by
  funext s
  rcases h : r s with m | ⟨a, mid⟩
  · rw [bind_of_error (bind_of_error h), bind_of_error h]
  · simp only [bind, h]

namespace Steady

theorem pure (a : α) : (Pure.pure a : Rule α).Steady where
  ok _ h := by
    obtain ⟨rfl, rfl⟩ := pure_eq_ok_iff.1 h
    rfl
  fails _ h := by
    obtain ⟨m, hm⟩ := h
    cases hm

theorem fail (expected : Expected) : (Rule.fail expected : Rule α).Steady where
  ok _ h := nomatch h
  fails _ _ := ⟨_, rfl⟩

/-- In a sequence the blanks are handed on from one part to the next. -/
theorem bind {r : Rule α} {f : α → Rule β} (hr : r.Steady) (hf : ∀ a, (f a).Steady) :
    (r >>= f).Steady where
  ok hw h := by
    obtain ⟨a, mid, hmid, hrest⟩ := bind_eq_ok_iff.1 h
    exact bind_eq_ok_iff.2 ⟨a, _, hr.ok hw hmid, (hf a).ok hw hrest⟩
  fails hw h := by
    rcases fails_bind_iff.1 h with h | ⟨a, mid, hmid, hrest⟩
    · exact fails_bind f (hr.fails hw h)
    · exact fails_bind_of_ok (hr.ok hw hmid) ((hf a).fails hw hrest)

/-- The second alternative is tried on the text with blanks exactly where it is tried on the one
without. -/
theorem orElse {p q : Rule α} (hp : p.Steady) (hq : q.Steady) : (p.orElse q).Steady where
  ok hw h := by
    rcases orElse_eq_ok_iff.1 h with h | ⟨hfails, h⟩
    · exact orElse_eq_ok_iff.2 (Or.inl (hp.ok hw h))
    · exact orElse_eq_ok_iff.2 (Or.inr ⟨hp.fails hw hfails, hq.ok hw h⟩)
  fails hw h := by
    obtain ⟨h, h'⟩ := fails_orElse_iff.1 h
    exact fails_orElse_iff.2 ⟨hp.fails hw h, hq.fails hw h'⟩

/-- An ordered choice is steady when all its alternatives are, by induction on them. -/
theorem firstMatch {forms : List (String × Rule α)} (h : ∀ f ∈ forms, f.2.Steady) :
    (Rule.firstMatch forms).Steady := by
  induction forms with
  | nil => exact fail .input
  | cons f forms ih =>
    obtain ⟨name, r⟩ := f
    rw [List.forall_mem_cons] at h
    obtain ⟨hr, hmore⟩ := h
    constructor
    · intro w s rest a hw hok
      rcases firstMatch_cons_eq_ok_iff.1 hok with hok | ⟨hfails, hok⟩
      · exact firstMatch_cons_eq_ok_iff.2 (Or.inl (hr.ok hw hok))
      · exact firstMatch_cons_eq_ok_iff.2 (Or.inr ⟨hr.fails hw hfails, (ih hmore).ok hw hok⟩)
    · intro w s hw hfails
      obtain ⟨hfails, hfails'⟩ := fails_firstMatch_cons_iff.1 hfails
      exact fails_firstMatch_cons_iff.2 ⟨hr.fails hw hfails, (ih hmore).fails hw hfails'⟩

/-- A repetition takes the same rounds, by induction on them. -/
theorem repeated_append {r : Rule α} (hr : r.Steady) {w : List Char}
    (hw : Text.allBlank w = true) (s : List Char) :
    repeated r (s ++ w) = ((repeated r s).1, (repeated r s).2 ++ w) := by
  fun_induction repeated r s with
  | case1 s a rest h hlt as last heq ih =>
    have hlt' : (rest ++ w).length < (s ++ w).length := by
      rw [List.length_append, List.length_append]
      omega
    rw [heq] at ih
    rw [repeated, hr.ok hw h]
    simp only [hlt', if_true, ih]
  | case2 s a rest h hlt =>
    have hlt' : ¬ (rest ++ w).length < (s ++ w).length := by
      rw [List.length_append, List.length_append]
      omega
    rw [repeated, hr.ok hw h]
    simp only [hlt', if_false]
  | case3 s m h =>
    obtain ⟨m', hm'⟩ := hr.fails hw ⟨m, h⟩
    rw [repeated, hm']

/-- A repetition takes the same rounds, and it never fails. -/
theorem many {r : Rule α} (hr : r.Steady) : (Rule.many r).Steady where
  ok {w s rest as} hw h := by
    have hrep : repeated r s = (as, rest) := Except.ok.inj h
    have happend := hr.repeated_append hw s
    rw [hrep] at happend
    exact congrArg Except.ok happend
  fails _ h := by
    obtain ⟨m, hm⟩ := h
    cases hm

/-! ## Skipped blanks -/

/-- Blanks may be skipped before a steady rule that does not match at the end of the text. -/
theorem afterSpace0 {f : Unit → Rule α} (hf : (f ()).Steady) (hnil : (f ()).Fails []) :
    (space0 >>= f).Steady where
  ok {w s rest a} hw h := by
    have hread : f () (Text.trimStart s) = .ok (a, rest) := h
    show f () (Text.trimStart (s ++ w)) = _
    rcases Text.trimStart_append hw s with ⟨hs, -⟩ | ⟨-, happend⟩
    · rw [hs] at hread
      exact absurd hnil (not_fails_of_ok hread)
    · rw [happend]
      exact hf.ok hw hread
  fails {w s} hw h := by
    have hfails : (f ()).Fails (Text.trimStart s) := h
    show (f ()).Fails (Text.trimStart (s ++ w))
    rcases Text.trimStart_append hw s with ⟨-, happend⟩ | ⟨-, happend⟩
    · rw [happend]
      exact hnil
    · rw [happend]
      exact hf.fails hw hfails

/-- Where a gap stands, it is skipped like any blanks. -/
theorem space1_bind_of_not_stops {f : Unit → Rule α} {s : List Char}
    (hs : ¬ Stops Text.isBlank s) : (space1 >>= f) s = (space0 >>= f) s := by
  cases s with
  | nil => exact absurd (stops_nil _) hs
  | cons c s =>
    have hc : Text.isBlank c = true := by simpa [stops_cons] using hs
    have hspace : space1 (c :: s) = .ok ((), Text.trimStart (c :: s)) := by
      simp only [space1, hc, if_true]
    rw [bind_of_ok hspace]
    rfl

/-- A gap may stand before a steady rule that does not match at the end of the text. -/
theorem afterSpace1 {f : Unit → Rule α} (hf : (f ()).Steady) (hnil : (f ()).Fails []) :
    (space1 >>= f).Steady where
  ok {w s rest a} hw h := by
    have hs : ¬ Stops Text.isBlank s := fun hstop =>
      not_fails_of_ok h (fails_bind f (fails_space1_iff.2 hstop))
    have hs' : ¬ Stops Text.isBlank (s ++ w) := by
      cases s with
      | nil => exact absurd (stops_nil _) hs
      | cons c s => exact fun hstop => hs (stops_cons.2 (stops_cons.1 hstop))
    rw [space1_bind_of_not_stops hs] at h
    rw [space1_bind_of_not_stops hs']
    exact (afterSpace0 hf hnil).ok hw h
  fails {w s} hw h := by
    by_cases hs' : Stops Text.isBlank (s ++ w)
    · exact fails_bind f (fails_space1_iff.2 hs')
    · rw [Fails, space1_bind_of_not_stops hs']
      refine (afterSpace0 hf hnil).fails hw ?_
      by_cases hs : Stops Text.isBlank s
      · -- The gap consists of appended blanks alone, with nothing behind them.
        cases s with
        | nil => exact hnil
        | cons c s => exact absurd (stops_cons.2 (stops_cons.1 hs)) hs'
      · rw [Fails, space1_bind_of_not_stops hs] at h
        exact h

end Steady

end Rule

namespace Grammar

open Rule Token

/-! ## Words and digits -/

/-- The word does not end with a blank. -/
def Solid (word : String) : Prop := word.toList.getLast?.any Text.isBlank = false

instance (word : String) : Decidable (Solid word) :=
  inferInstanceAs (Decidable (word.toList.getLast?.any Text.isBlank = false))

/-- A word at the front of a text with blanks behind it stands in the text, or it goes over into the
blanks and ends among them. -/
theorem prefix_append_blanks {word : String} {s w : List Char} (hw : Text.allBlank w = true)
    (h : word.toList <+: s ++ w) :
    word.toList <+: s ∨ ¬ Solid word ∧ ∃ u, word.toList = s ++ u ∧ u <+: w := by
  rcases List.prefix_or_prefix_of_prefix h (List.prefix_append s w) with hword | ⟨u, hu⟩
  · exact Or.inl hword
  · rw [← hu] at h ⊢
    obtain ⟨t, ht⟩ := h
    rw [List.append_assoc, List.append_cancel_left_eq] at ht
    rcases List.eq_nil_or_concat u with rfl | ⟨u', c, hu'⟩
    · left
      exact ⟨[], by simp only [List.append_nil]⟩
    · right
      rw [List.concat_eq_append] at hu'
      subst hu'
      refine ⟨fun hsolid => ?_, u' ++ [c], rfl, t, ht⟩
      have hblank : Text.isBlank c = true := by
        rw [← ht] at hw
        exact List.all_eq_true.1 hw c (by simp)
      have hlast : word.toList.getLast? = some c := by
        rw [← hu, ← List.append_assoc, List.getLast?_concat]
      rw [Solid, hlast, Option.any_some, hblank] at hsolid
      cases hsolid

/-- A word that does not end in blanks cannot reach into those that are added. -/
theorem tag_steady {word : String} (hword : Solid word) : (tag word).Steady where
  ok {w s rest u} _ h := by
    rw [tag_sound h, List.append_assoc]
    exact tag_append word _
  fails {w s} hw h := by
    rw [fails_tag_iff] at h ⊢
    intro hpre
    rcases prefix_append_blanks hw hpre with hs | ⟨hnot, -⟩
    · exact h hs
    · exact hnot hword

/-- One of some words that do not end in blanks is the same one with blanks added, since none of
them begins another. -/
theorem oneOf_steady {α : Type} {words : List (String × α)} (expected : Expected)
    (hfree : PrefixFree words) (hwords : ∀ e ∈ words, Solid e.1) :
    (oneOf words expected).Steady where
  ok {w s rest a} _ h := by
    obtain ⟨word, hmem, rfl⟩ := oneOf_sound h
    rw [List.append_assoc]
    exact hfree.oneOf_append hmem _
  fails {w s} hw h := by
    rw [fails_oneOf_iff] at h ⊢
    intro e he hpre
    rcases prefix_append_blanks hw hpre with hs | ⟨hnot, -⟩
    · exact h e he hs
    · exact hnot (hwords e he)

/-- A table of words may have words that end with a blank when something must stand behind them. -/
theorem oneOf_bind_steady {α β : Type} {words : List (String × α)} {expected : Expected}
    {f : α → Rule β} (hfree : PrefixFree words) (hf : ∀ a, (f a).Steady)
    (hwords : ∀ e ∈ words, Solid e.1 ∨ (f e.2).Fails []) :
    (oneOf words expected >>= f).Steady where
  ok {w s rest b} hw h := by
    obtain ⟨a, mid, hword, hrest⟩ := bind_eq_ok_iff.1 h
    obtain ⟨word, hmem, rfl⟩ := oneOf_sound hword
    rw [List.append_assoc]
    exact bind_eq_ok_iff.2 ⟨a, _, hfree.oneOf_append hmem _, (hf a).ok hw hrest⟩
  fails {w s} hw h := by
    refine fails_bind_of_forall fun a mid hword => ?_
    obtain ⟨word, hmem, hs⟩ := oneOf_sound hword
    rcases prefix_append_blanks hw ⟨mid, hs.symm⟩ with ⟨t, rfl⟩ | ⟨hnot, u, hu, -⟩
    · -- The word was there before, so what stands behind it fails.
      rw [List.append_assoc, List.append_cancel_left_eq] at hs
      rcases fails_bind_iff.1 h with hno | ⟨a', mid', hword', hrest⟩
      · exact absurd hno (not_fails_of_ok (hfree.oneOf_append hmem t))
      · rw [hfree.oneOf_append hmem t] at hword'
        cases hword'
        rw [← hs]
        exact (hf a).fails hw hrest
    · -- The word takes appended blanks, and more of them are behind it.
      rw [hu, List.append_assoc, List.append_cancel_left_eq] at hs
      have hmid : Text.allBlank mid = true := by
        rw [hs] at hw
        exact (allBlank_append.1 hw).2
      rcases hwords _ hmem with hsolid | hnil
      · exact absurd hsolid hnot
      · exact (hf a).fails hmid hnil

/-- Added blanks end the digits where the end of the text did. -/
theorem digits_steady : digits.Steady := by
  apply Steady.of_append
  intro w s hw
  have hstop : Stops Char.isDigit w := stops_of_allBlank hw isDigit_of_isBlank
  simp only [Fails, digits, takeWhile_append_stops hstop, dropWhile_append_stops hstop]
  by_cases hempty : (s.takeWhile Char.isDigit).isEmpty = true
  · left
    simp [hempty]
  · by_cases hlong : Text.longestNumber < (s.takeWhile Char.isDigit).length
    · left
      simp [hempty, hlong]
    · right
      simp [hempty, hlong]

/-- No digits are taken from added blanks. -/
theorem takeDigits_append_blanks {w : List Char} (hw : Text.allBlank w = true) (most : Nat)
    (s : List Char) :
    takeDigits most (s ++ w) = ((takeDigits most s).1, (takeDigits most s).2 ++ w) := by
  obtain ⟨hs, hdigits, hle, hstop⟩ := takeDigits_sound most s
  have hrun : takeDigits most ((takeDigits most s).1 ++ ((takeDigits most s).2 ++ w)) =
      ((takeDigits most s).1, (takeDigits most s).2 ++ w) :=
    takeDigits_append hdigits hle fun hlt =>
      (hstop hlt).append (stops_of_allBlank hw isDigit_of_isBlank)
  rwa [← List.append_assoc, ← hs] at hrun

/-- Figures read as much and mean as much before added blanks. -/
theorem figures_steady (least most : Nat) : (figures least most).Steady := by
  apply Steady.of_append
  intro w s hw
  simp only [Fails, figures, takeDigits_append_blanks hw]
  by_cases hlt : (takeDigits most s).1.length < least
  · left
    simp [hlt]
  · right
    simp [hlt]

/-! ## Periods and shifts -/

theorem quantity_steady : quantity.Steady :=
  digits_steady.orElse (oneOf_steady .quantity quantityWords_prefixFree (by decide))

theorem pluralMark_steady : pluralMark.Steady := by
  apply Steady.of_append
  intro w s hw
  right
  by_cases hs : Stops (· == 's') s
  · have hw' : Stops (· == 's') w := stops_of_allBlank hw fun hc => by
      rw [beq_eq_false_iff_ne]
      rintro rfl
      exact absurd hc (by decide)
    exact ⟨(), s, pluralMark_of_stops hs, pluralMark_of_stops (hs.append hw')⟩
  · cases s with
    | nil => exact absurd (stops_nil _) hs
    | cons c s =>
      obtain rfl : c = 's' := by simpa [stops_cons] using hs
      exact ⟨(), s, rfl, rfl⟩

theorem unit_steady : unit.Steady := by
  refine (oneOf_steady .unit unitWords_prefixFree (by decide)).bind fun u => ?_
  exact pluralMark_steady.bind fun _ => .pure u

/-- The gap of a period may be made of added blanks, but then no unit stands behind it. -/
theorem period_steady : period.Steady := by
  refine quantity_steady.bind fun count => ?_
  apply Steady.afterSpace1
  · exact unit_steady.bind fun u => .pure _
  · exact fails_bind _ unit_proceeds.fails_nil

theorem sign_steady : sign.Steady where
  ok {w s rest sg} _ h := by
    rw [sign_sound h]
    exact sign_symbol sg _
  fails {w s} hw h := by
    rcases fails_or_ok sign (s ++ w) with hfails | ⟨sg, rest, hok⟩
    · exact hfails
    · exfalso
      have hs := sign_sound hok
      cases s with
      | nil =>
        rw [List.nil_append] at hs
        rw [hs, allBlank_cons, symbol_not_blank] at hw
        exact absurd hw.1 Bool.false_ne_true
      | cons c s =>
        obtain rfl := (List.cons.inj hs).1
        exact not_fails_of_ok (sign_symbol sg s) h

/-- Blanks are skipped before the sign and before the period, and neither stands at the end of a
text. -/
theorem shift_steady : shift.Steady := by
  apply Steady.afterSpace0
  · refine sign_steady.bind fun sg => ?_
    apply Steady.afterSpace0
    · exact period_steady.bind fun p => .pure _
    · exact fails_bind _ period_proceeds.fails_nil
  · exact fails_bind _ sign_proceeds.fails_nil

theorem shifts_steady : shifts.Steady := shift_steady.many

/-! ## Dates and anchors -/

theorem noDigit_steady : noDigit.Steady := by
  apply Steady.of_append
  intro w s hw
  by_cases hs : Stops Char.isDigit s
  · right
    have hw' : Stops Char.isDigit w := stops_of_allBlank hw isDigit_of_isBlank
    exact ⟨(), s, noDigit_of_stops hs, noDigit_of_stops (hs.append hw')⟩
  · left
    cases s with
    | nil => exact absurd (stops_nil _) hs
    | cons c s =>
      have hc : c.isDigit = true := by simpa [stops_cons] using hs
      simp [Fails, noDigit, hc]

/-- Blanks are skipped before the year, and no year stands at the end of a text. -/
theorem isoFields_steady : isoFields.Steady := by
  apply Steady.afterSpace0
  · refine (figures_steady 4 4).bind fun year => ?_
    refine (tag_steady (by decide)).bind fun _ => ?_
    refine (figures_steady 1 2).bind fun month => ?_
    refine (tag_steady (by decide)).bind fun _ => ?_
    refine (figures_steady 1 2).bind fun day => ?_
    exact noDigit_steady.bind fun _ => .pure _
  · exact fails_bind _ ⟨_, rfl⟩

/-- Blanks behind a text are at most appended to what stands before its first sign. -/
theorem segment_append_blanks {w : List Char} (hw : Text.allBlank w = true) (s : List Char) :
    ∃ w', Text.allBlank w' = true ∧ segment (s ++ w) = segment s ++ w' := by
  have hwhole : segment w = w := by
    have hseg := segment_append (unsigned_of_all hw isSign_of_isBlank) []
    rwa [List.append_nil, show segment [] = [] from rfl, List.append_nil] at hseg
  unfold segment at hwhole ⊢
  rw [List.takeWhile_append]
  split
  · rename_i hlength
    rw [(List.takeWhile_prefix _).eq_of_length hlength, hwhole]
    exact ⟨w, hw, rfl⟩
  · exact ⟨[], rfl, (List.append_nil _).symm⟩

/-- **A literal date is the same before added blanks**: they belong to the segment, and are trimmed
off it. -/
theorem literal_steady (reference : Date) : (literal reference).Steady := by
  apply Steady.of_append
  intro w s hw
  rcases hiso : isoFields s with m | ⟨f, rest⟩
  · -- Without the ISO form, the same date is cut out of the segment, at the same place.
    obtain ⟨m', hiso'⟩ := isoFields_steady.fails hw ⟨m, hiso⟩
    obtain ⟨w', hw', hseg⟩ := segment_append_blanks hw s
    -- The date ends inside the text, so what is dropped is dropped before the new blanks.
    have hdrop : (s ++ w).drop
          (((segment s).takeWhile Text.isBlank).length + (Text.trim (segment s)).length) =
        s.drop (((segment s).takeWhile Text.isBlank).length + (Text.trim (segment s)).length) ++ w :=
      List.drop_append_of_le_length (length_trim_segment_le s)
    simp only [Fails, literal, hiso, hiso', hseg, Text.trim_append_of_allBlank hw']
    rcases hwhole : wholeFields reference (Text.trim (segment s)) with m₁ | ⟨f, rest⟩
    · left
      simp
    · have hsome : Text.trimStart (segment s) ≠ [] := by
        intro hnone
        rw [Text.trim, hnone] at hwhole
        cases hwhole
      cases hdate : f.date? with
      | none =>
        left
        simp [hdate]
      | some date =>
        right
        simp only [hdate, Text.takeWhile_isBlank_append hsome, hdrop]
        exact ⟨_, _, rfl, rfl⟩
  · have hiso' := isoFields_steady.ok hw hiso
    simp only [Fails, literal, hiso, hiso']
    cases hdate : f.date? with
    | none =>
      left
      simp
    | some date =>
      right
      simp

theorem anchor_steady (reference : Date) : (anchor reference).Steady := by
  apply Steady.orElse
  · exact oneOf_steady .date anchorWords_prefixFree (by decide)
  · exact (literal_steady reference).bind fun date => .pure _

/-! ## Sentences -/

/-- The word "and" may stand before a steady rule that does not match at the end of the text. -/
theorem conjunction_bind_steady {α : Type} {f : Unit → Rule α} (hf : (f ()).Steady)
    (hnil : (f ()).Fails []) : (conjunction >>= f).Steady := by
  have hassoc : conjunction >>= f = space1 >>= fun _ => tag "and" >>= fun _ => space1 >>= f := by
    simp only [conjunction, bind_assoc]
  rw [hassoc]
  apply Steady.afterSpace1
  · refine (tag_steady (by decide)).bind fun _ => ?_
    exact .afterSpace1 hf hnil
  · exact fails_bind _ (tag_proceeds (by decide)).fails_nil

theorem listedPeriod_steady : listedPeriod.Steady := by
  refine period_steady.bind fun p => ?_
  exact (tag_steady (by decide)).bind fun _ => .pure p

theorem nextListed_steady : nextListed.Steady :=
  .afterSpace1 listedPeriod_steady listedPeriod_proceeds.fails_nil

/-- The last period of a list stands behind a gap, and never at the end of a text. -/
theorem commaList_steady : commaList.Steady := by
  refine listedPeriod_steady.bind fun first => ?_
  refine nextListed_steady.many.bind fun listed => ?_
  split
  · exact .fail .anotherListed
  · apply conjunction_bind_steady
    · exact period_steady.bind fun last => .pure _
    · exact fails_bind _ period_proceeds.fails_nil

/-- The second period stands behind a gap, and never at the end of a text. -/
theorem pair_steady : pair.Steady := by
  refine period_steady.bind fun first => ?_
  apply conjunction_bind_steady
  · exact period_steady.bind fun second => .pure _
  · exact fails_bind _ period_proceeds.fails_nil

theorem single_steady : single.Steady :=
  period_steady.bind fun _ => .pure _

theorem sentence_steady : sentence.Steady := by
  apply Steady.firstMatch
  simp only [sentenceForms, List.forall_mem_cons]
  exact ⟨commaList_steady, pair_steady, single_steady, List.forall_mem_nil _⟩

/-! ## Expressions -/

section Expressions

variable (reference : Date)

/-- A trailing phrase that ends with a blank wants an anchor behind it. -/
theorem relative_steady : (relative reference).Steady := by
  refine sentence_steady.bind fun list => ?_
  apply oneOf_bind_steady trailers_prefixFree
  · rintro ⟨direction, anchored⟩
    show (ite (anchored = true) _ _ : Rule Relative).Steady
    split
    · exact (anchor_steady reference).bind fun start => .pure _
    · exact (Steady.pure Anchor.today).bind fun start => .pure _
  · have hanchored : ∀ k : Anchor → Rule Relative, (anchor reference >>= k).Fails [] := fun k =>
      fails_bind k (anchor_proceeds reference).fails_nil
    simp only [trailers, List.forall_mem_cons]
    refine ⟨Or.inl (by decide), Or.inr ?_, Or.inr ?_, Or.inr ?_, List.forall_mem_nil _⟩
    · exact hanchored _
    · exact hanchored _
    · exact hanchored _

theorem anchorWithShifts_steady : (anchorWithShifts reference).Steady := by
  refine (anchor_steady reference).bind fun a => ?_
  refine shift_steady.bind fun first => ?_
  exact shifts_steady.bind fun more => .pure _

/-- Blanks are skipped before the hyphen and behind it, and neither a hyphen nor an anchor stands at
the end of a text. -/
theorem difference_steady : (difference reference).Steady := by
  refine (anchor_steady reference).bind fun start => ?_
  apply Steady.afterSpace0
  · refine (tag_steady (by decide)).bind fun _ => ?_
    apply Steady.afterSpace0
    · exact (anchor_steady reference).bind fun finish => .pure _
    · exact fails_bind _ (anchor_proceeds reference).fails_nil
  · exact fails_bind _ (tag_proceeds (by decide)).fails_nil

theorem relativeExpression_steady : (relativeExpression reference).Steady :=
  (relative_steady reference).bind fun _ => .pure _

theorem loneAnchor_steady : (loneAnchor reference).Steady :=
  (anchor_steady reference).bind fun _ => .pure _

theorem periodChain_steady : periodChain.Steady := by
  refine period_steady.bind fun base => ?_
  exact shifts_steady.bind fun more => .pure _

/-- **An expression is steady**, as all of its alternatives are. -/
theorem expression_steady : (expression reference).Steady := by
  apply Steady.firstMatch
  simp only [expressionForms, List.forall_mem_cons]
  exact ⟨anchorWithShifts_steady reference, difference_steady reference,
    relativeExpression_steady reference, loneAnchor_steady reference, periodChain_steady,
    List.forall_mem_nil _⟩

end Expressions

/-! ## Whole texts -/

/-- **Blanks at the end are left, and change nothing else**: a text that is read in full is read as
the same expression with these blanks left over, a text that leaves something leaves the blanks
behind it, and a text that is no expression is none with blanks at its end either. -/
theorem trailing_blanks_left (reference : Date) (text : List Char) {w : List Char} (hw : Gap w) :
    (∀ e, parseExpression reference text = .full e →
      parseExpression reference (text ++ w) = .leaving e w) ∧
    (∀ e rem, parseExpression reference text = .leaving e rem →
      parseExpression reference (text ++ w) = .leaving e (rem ++ w)) ∧
    ∀ failure, parseExpression reference text = .failed failure →
      ∃ failure', parseExpression reference (text ++ w) = .failed failure' := by
  refine ⟨fun e h => ?_, fun e rem h => ?_, fun failure h => ?_⟩
  · have hread := (expression_steady reference).ok hw.1 (parse_eq_full_iff.1 h)
    exact parse_eq_leaving_iff.2 ⟨hread, hw.2⟩
  · obtain ⟨hread, hrem⟩ := parse_eq_leaving_iff.1 h
    have hread' := (expression_steady reference).ok hw.1 hread
    exact parse_eq_leaving_iff.2 ⟨hread', List.append_ne_nil_of_left_ne_nil hrem w⟩
  · have hfails : (expression reference).Fails text := exists_failed_iff.1 ⟨failure, h⟩
    exact exists_failed_iff.2 ((expression_steady reference).fails hw.1 hfails)

/-- A date that is trimmed, a phrase that the blanks complete, and a count that they separate from
the unit it lacks. -/
theorem trailing_blanks_left_phrase :
    let w := " \u3000".toList
    Gap w ∧
      parseExpression .first ("Jan 1, 0001".toList ++ w) =
        .leaving (.anchor (.literal .first)) w ∧
      parseExpression .first ("5 days from".toList ++ w) =
        .leaving (.chain ⟨.day, 5⟩ []) (" from".toList ++ w) ∧
      ∃ failure, parseExpression .first ("5".toList ++ w) = .failed failure := by
  intro w
  have hw : Gap w := ⟨by decide, by decide⟩
  refine ⟨hw, ?_, ?_, ?_⟩
  · exact (trailing_blanks_left .first _ hw).1 _ (by decide)
  · exact (trailing_blanks_left .first _ hw).2.1 _ _ (by decide +kernel)
  · exact (trailing_blanks_left .first _ hw).2.2 _ rfl

end Grammar

end DateCalc
