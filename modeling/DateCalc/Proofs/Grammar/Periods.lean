/-
  Periods and shifts are read as the grammar spells them.

  A period may be followed by anything but an s, which would be taken for its plural; this is the
  only look ahead.  A row of shifts ends where no further shift can be read.
-/
import DateCalc.Proofs.Grammar.Derivation

namespace DateCalc.Grammar

open Rule Token

/-! ## Counts -/

/-- The words for counts consist of letters. -/
theorem quantityWords_letters :
    ∀ e ∈ quantityWords, e.1.toList ≠ [] ∧ e.1.toList.all isLetter = true := by
  decide

theorem quantityWords_prefixFree : PrefixFree quantityWords := by decide

/-- **A count is read exactly from its texts.** -/
theorem quantity_reads : quantity.Reads QuantityText (Stops Char.isDigit) where
  sound h := by
    rcases orElse_eq_ok_iff.1 h with h | ⟨-, h⟩
    · obtain ⟨ds, rfl, hds, rfl⟩ := digits_sound h
      exact ⟨ds, rfl, .figures hds⟩
    · obtain ⟨word, hmem, rfl⟩ := oneOf_sound h
      exact ⟨word.toList, rfl, .word hmem⟩
  complete h hrest := by
    cases h with
    | figures hds => exact orElse_eq_ok_iff.2 (Or.inl (digits_append hds hrest))
    | word hmem =>
      obtain ⟨hne, hletters⟩ := quantityWords_letters _ hmem
      refine orElse_eq_ok_iff.2 (Or.inr ⟨fails_digits ?_, ?_⟩)
      · exact stops_digit_of_letters hne hletters _
      · exact quantityWords_prefixFree.oneOf_append hmem _

/-- A count starts with a digit or a letter, never with a blank. -/
theorem QuantityText.stops_blank {q : List Char} {n : Nat} (h : QuantityText q n)
    (rest : List Char) : Stops Text.isBlank (q ++ rest) := by
  cases h with
  | figures hds => exact hds.stops_blank rest
  | word hmem =>
    obtain ⟨hne, hletters⟩ := quantityWords_letters _ hmem
    exact stops_of_run hne hletters isBlank_of_isLetter rest

/-! ## Units -/

theorem unitWords_prefixFree : PrefixFree unitWords := by decide

theorem mem_unitWords (u : CalendarUnit) : (u.name, u) ∈ unitWords := by
  cases u <;> decide

/-- The word for a unit is its name. -/
theorem eq_name_of_mem_unitWords {word : String} {u : CalendarUnit} (h : (word, u) ∈ unitWords) :
    word = u.name := by
  obtain ⟨u', -, heq⟩ := List.mem_map.1 h
  cases heq
  rfl

/-- The plural mark consumes one s and nothing else. -/
theorem pluralMark_of_stops {s : List Char} (hs : Stops (· == 's') s) :
    pluralMark s = .ok ((), s) := by
  unfold pluralMark
  split
  · rw [stops_cons] at hs
    cases hs
  · rfl

/-- **A unit is read exactly from its texts**, the plural among them. -/
theorem unit_reads : unit.Reads UnitText (Stops (· == 's')) where
  sound {s rest u} h := by
    obtain ⟨u', mid, hword, hrest⟩ := bind_eq_ok_iff.1 h
    obtain ⟨word, hmem, rfl⟩ := oneOf_sound hword
    obtain rfl := eq_name_of_mem_unitWords hmem
    obtain ⟨x, mid', hplural, hpure⟩ := bind_eq_ok_iff.1 hrest
    obtain ⟨rfl, rfl⟩ := pure_eq_ok_iff.1 hpure
    unfold pluralMark at hplural
    split at hplural
    · cases hplural
      refine ⟨u'.name.toList ++ ['s'], ?_, .plural u'⟩
      rw [List.append_assoc]
      rfl
    · cases hplural
      exact ⟨u'.name.toList, rfl, .singular u'⟩
  complete {p rest u} h hrest := by
    cases h with
    | singular =>
      refine bind_eq_ok_iff.2 ⟨u, rest, ?_, ?_⟩
      · exact unitWords_prefixFree.oneOf_append (mem_unitWords u) rest
      · exact bind_eq_ok_iff.2 ⟨(), rest, pluralMark_of_stops hrest, rfl⟩
    | plural =>
      refine bind_eq_ok_iff.2 ⟨u, 's' :: rest, ?_, rfl⟩
      rw [List.append_assoc]
      exact unitWords_prefixFree.oneOf_append (mem_unitWords u) _

/-- A unit starts with a letter, never with a blank. -/
theorem UnitText.stops_blank {v : List Char} {u : CalendarUnit} (h : UnitText v u)
    (rest : List Char) : Stops Text.isBlank (v ++ rest) := by
  cases h <;> cases u <;> exact stops_cons.2 (by decide)

/-! ## Periods -/

/-- Where a period may end: before anything but a letter s. -/
abbrev EndsPeriod (rest : List Char) : Prop := Stops (· == 's') rest

/-- **A period is read exactly from its texts.** -/
theorem period_reads : period.Reads PeriodText EndsPeriod where
  sound h := by
    obtain ⟨count, mid, hcount, h⟩ := bind_eq_ok_iff.1 h
    obtain ⟨x, mid', hspace, h⟩ := bind_eq_ok_iff.1 h
    obtain ⟨u, mid'', hunit, hpure⟩ := bind_eq_ok_iff.1 h
    obtain ⟨rfl, rfl⟩ := pure_eq_ok_iff.1 hpure
    obtain ⟨q, rfl, hq⟩ := quantity_reads.sound hcount
    obtain ⟨w, rfl, hw, -⟩ := space1_sound hspace
    obtain ⟨v, rfl, hv⟩ := unit_reads.sound hunit
    exact ⟨q ++ w ++ v, by simp only [List.append_assoc], .mk hq hw hv⟩
  complete h hrest := by
    cases h with
    | mk hq hw hv =>
      simp only [List.append_assoc]
      refine bind_eq_ok_iff.2 ⟨_, _, quantity_reads.complete hq (hw.stops_digit _), ?_⟩
      refine bind_eq_ok_iff.2 ⟨_, _, space1_append hw (hv.stops_blank _), ?_⟩
      exact bind_eq_ok_iff.2 ⟨_, _, unit_reads.complete hv hrest, rfl⟩

/-- A period does not start with a blank. -/
theorem PeriodText.stops_blank {p : List Char} {a : Period} (h : PeriodText p a)
    (rest : List Char) : Stops Text.isBlank (p ++ rest) := by
  cases h with
  | mk hq hw hv =>
    simp only [List.append_assoc]
    exact hq.stops_blank _

/-! ## Shifts -/

theorem sign_symbol (sg : Sign) (rest : List Char) :
    sign (sg.symbol :: rest) = .ok (sg, rest) := by
  cases sg <;> rfl

theorem sign_sound {s rest : List Char} {sg : Sign} (h : sign s = .ok (sg, rest)) :
    s = sg.symbol :: rest := by
  unfold sign at h
  split at h <;> cases h <;> rfl

/-- No sign is read where none stands. -/
theorem fails_sign {s : List Char} (hs : Stops isSign s) : sign.Fails s := by
  show ∃ m, sign s = .error m
  unfold sign
  split
  · cases stops_cons.1 hs
  · cases stops_cons.1 hs
  · exact ⟨_, rfl⟩

theorem symbol_not_blank (sg : Sign) : Text.isBlank sg.symbol = false := by
  cases sg <;> decide

/-- **A shift is read exactly from its texts.** -/
theorem shift_reads : shift.Reads ShiftText EndsPeriod where
  sound h := by
    obtain ⟨x, mid, hspace, h⟩ := bind_eq_ok_iff.1 h
    obtain ⟨sg, mid₂, hsign, h⟩ := bind_eq_ok_iff.1 h
    obtain ⟨y, mid₃, hspace', h⟩ := bind_eq_ok_iff.1 h
    obtain ⟨p, mid₄, hperiod, hpure⟩ := bind_eq_ok_iff.1 h
    obtain ⟨rfl, rfl⟩ := pure_eq_ok_iff.1 hpure
    obtain ⟨w, rfl, hw, -⟩ := space0_sound hspace
    obtain rfl := sign_sound hsign
    obtain ⟨w', rfl, hw', -⟩ := space0_sound hspace'
    obtain ⟨v, rfl, hv⟩ := period_reads.sound hperiod
    exact ⟨w ++ [sg.symbol] ++ w' ++ v, by simp, .mk sg hw hw' hv⟩
  complete h hrest := by
    cases h with
    | mk sg hw hw' hp =>
      simp only [List.append_assoc, List.cons_append, List.nil_append]
      refine bind_eq_ok_iff.2 ⟨_, _, space0_append hw (stops_cons.2 (symbol_not_blank sg)), ?_⟩
      refine bind_eq_ok_iff.2 ⟨_, _, sign_symbol sg _, ?_⟩
      refine bind_eq_ok_iff.2 ⟨_, _, space0_append hw' (hp.stops_blank _), ?_⟩
      exact bind_eq_ok_iff.2 ⟨_, _, period_reads.complete hp hrest, rfl⟩

/-- Without a sign behind the blanks there is no shift. -/
theorem fails_shift {w rest : List Char} (hw : Text.allBlank w = true)
    (hrest : Stops Text.isBlank rest) (hsign : Stops isSign rest) : shift.Fails (w ++ rest) :=
  fails_bind_of_ok (space0_append hw hrest) (fails_bind _ (fails_sign hsign))

/-- Behind the sign a shift needs a period. -/
theorem fails_shift_of_period {w w' rest : List Char} (sg : Sign) (hw : Text.allBlank w = true)
    (hw' : Text.allBlank w' = true) (hrest : Stops Text.isBlank rest) (hp : period.Fails rest) :
    shift.Fails (w ++ [sg.symbol] ++ w' ++ rest) := by
  simp only [List.append_assoc, List.cons_append, List.nil_append]
  refine fails_bind_of_ok (space0_append hw (stops_cons.2 (symbol_not_blank sg))) ?_
  refine fails_bind_of_ok (sign_symbol sg _) ?_
  exact fails_bind_of_ok (space0_append hw' hrest) (fails_bind _ hp)

/-- A shift starts with a blank or a sign, neither of which is an s. -/
theorem ShiftText.endsPeriod {p : List Char} {a : Shift} (h : ShiftText p a)
    (rest : List Char) : EndsPeriod (p ++ rest) := by
  cases h with
  | @mk w w' q _ sg hw hw' hp =>
    cases w with
    | nil => cases sg <;> exact stops_cons.2 (by decide)
    | cons c w =>
      rw [allBlank_cons] at hw
      refine stops_cons.2 ?_
      rw [beq_eq_false_iff_ne]
      rintro rfl
      exact absurd hw.1 (by decide)

theorem ShiftText.ne_nil {p : List Char} {a : Shift} (h : ShiftText p a) : p ≠ [] := by
  cases h with
  | mk sg hw hw' hp => simp

/-- **A row of shifts is read whole**, up to a place where no shift can be read. -/
theorem shifts_append {p rest : List Char} {as : List Shift} (hp : Each ShiftText p as)
    (hrest : EndsPeriod rest) (hf : shift.Fails rest) : shifts (p ++ rest) = .ok (as, rest) := by
  show Except.ok (repeated shift (p ++ rest)) = _
  rw [repeated_append shift_reads.complete ShiftText.ne_nil (fun h => h.endsPeriod _) hp hrest hf]

/-- Shifts that are read are texts of each of them, one after the other. -/
theorem shifts_sound {s rest : List Char} {as : List Shift} (h : shifts s = .ok (as, rest)) :
    ∃ p, s = p ++ rest ∧ Each ShiftText p as := by
  have hrep : repeated shift s = (as, rest) := Except.ok.inj h
  obtain ⟨p, hs, hp⟩ := repeated_sound shift_reads.sound s
  rw [hrep] at hs hp
  exact ⟨p, hs, hp⟩

end DateCalc.Grammar
