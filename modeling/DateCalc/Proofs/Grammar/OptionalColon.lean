/-
  When the colon between an hour and a minute may be left out.

  A time of 12 hours can be written with a colon behind the hour or without one.  The two spellings
  are read alike, except in two cases that the digits alone decide, whatever the suffix and the text
  behind it are:

    * an hour of two digits up to 23 and a minute make military time, which takes the four digits and
      leaves the suffix (`FourDigits`);
    * the hour 1 takes the first digit of a minute below 30 for its own, since the two make an hour of
      12, and then one digit is left for the minute (`HourTakesDigit`).

  The proof reads each spelling off the digits at its front: a run of digits has one end, so a clock
  time found there can only divide the text where it is divided already.
-/
import DateCalc.Proofs.Grammar.ClockTimes

namespace DateCalc

/-! ## Equal readings -/

/-- Two readings of one class, with the same value and the same remaining text.  What a failure
reports does not count. -/
def Parsed.Agrees {α : Type} : Parsed α → Parsed α → Prop
  | .full a, .full b => a = b
  | .leaving a rest, .leaving b rest' => a = b ∧ rest = rest'
  | .failed _, .failed _ => True
  | _, _ => False

instance {α : Type} [DecidableEq α] : (p q : Parsed α) → Decidable (p.Agrees q)
  | .full a, .full b => inferInstanceAs (Decidable (a = b))
  | .leaving a rest, .leaving b rest' => inferInstanceAs (Decidable (a = b ∧ rest = rest'))
  | .failed _, .failed _ => .isTrue trivial
  | .full _, .leaving _ _ | .full _, .failed _ | .leaving _ _, .full _ | .leaving _ _, .failed _
  | .failed _, .full _ | .failed _, .leaving _ _ => .isFalse id

namespace Rule

variable {α : Type} {r : Rule α} {s s' : List Char}

theorem parse_of_fails (h : r.Fails s) : ∃ f, r.parse s = .failed f := by
  obtain ⟨m, hm⟩ := h
  exact ⟨m.inText s, by simp only [parse, hm]⟩

/-- A text that a rule reads is read in full, or something is left of it. -/
theorem parse_of_ok {a : α} {rest : List Char} (h : r s = .ok (a, rest)) :
    r.parse s = .full a ∨ ∃ rest', r.parse s = .leaving a rest' := by
  cases rest with
  | nil => exact Or.inl (parse_eq_full_iff.2 h)
  | cons c rest => exact Or.inr ⟨c :: rest, parse_eq_leaving_iff.2 ⟨h, List.cons_ne_nil c rest⟩⟩

/-- Readings agree when the same values and rests are read. -/
theorem agrees_iff :
    (r.parse s).Agrees (r.parse s') ↔ ∀ x, r s = .ok x ↔ r s' = .ok x := by
  rcases hs : r s with m | ⟨a, rest⟩
  · rcases hs' : r s' with m' | ⟨a', rest'⟩
    · simp [parse, hs, hs', Parsed.Agrees]
    · cases rest' <;> simp [parse, hs, hs', Parsed.Agrees]
  · rcases hs' : r s' with m' | ⟨a', rest'⟩
    · cases rest <;> simp [parse, hs, hs', Parsed.Agrees]
    · have hsame : (∀ x, (Except.ok (a, rest) : Except Mismatch _) = .ok x ↔
          (Except.ok (a', rest') : Except Mismatch _) = .ok x) ↔ a = a' ∧ rest = rest' := by
        constructor
        · intro hall
          cases (hall (a', rest')).2 rfl
          exact ⟨rfl, rfl⟩
        · rintro ⟨rfl, rfl⟩ x
          rfl
      rw [hsame]
      cases rest <;> cases rest' <;> simp [parse, hs, hs', Parsed.Agrees]

end Rule

namespace Grammar

open Rule Token

/-! ## The digits that decide -/

/-- An hour of 24 in two digits, and a minute. -/
def FourDigits (h m : List Char) : Prop :=
  h.length = 2 ∧ Text.decimalValue h ≤ 23 ∧ Text.decimalValue m ≤ 59

/-- An hour of 1 in one digit, and a minute below 30. -/
def HourTakesDigit (h m : List Char) : Prop :=
  h.length = 1 ∧ Text.decimalValue h = 1 ∧ Text.decimalValue m < 30

theorem PartText.of_bounds {least most low high : Nat} {ds : List Char}
    (hds : Numeral least most ds) (h : low ≤ Text.decimalValue ds ∧ Text.decimalValue ds ≤ high) :
    PartText least most low high ds ⟨Text.decimalValue ds, h⟩ :=
  ⟨hds, rfl⟩

/-- The digits of a part of a time denote a number between its bounds. -/
theorem PartText.bounds {least most low high : Nat} {ds : List Char} {n : Bounded low high}
    (h : PartText least most low high ds n) :
    low ≤ Text.decimalValue ds ∧ Text.decimalValue ds ≤ high := by
  rw [h.value_eq]
  exact n.property

/-- One digit is at most nine. -/
theorem decimalValue_digit {c : Char} (h : c.isDigit = true) : Text.decimalValue [c] ≤ 9 := by
  have hvalue : Text.decimalValue [c] = 10 * 0 + (c.toNat - '0'.toNat) := decimalValue_concat [] c
  have h0 : '0'.toNat = 48 := rfl
  rw [isDigit_iff] at h
  omega

/-- What keeps an hour of one digit from ending before a minute: the first digit of the minute. -/
theorem endsHour_iff {h m : List Char} (hh : Numeral 1 1 h) (hm : Numeral 2 2 m) :
    EndsHour h m ↔ 12 < 10 * Text.decimalValue h + Text.decimalValue m / 10 := by
  obtain ⟨m₁, m₂, rfl, hm₁, hm₂⟩ := hm.eq_pair
  have hone : h.length = 1 := Nat.le_antisymm hh.le_most hh.least_le
  have hjoin := decimalValue_concat h m₁
  have hfirst := decimalValue_concat [] m₁
  have hminute := decimalValue_concat [m₁] m₂
  have hlast := decimalValue_concat [] m₂
  have hle := decimalValue_digit hm₂
  have hnil : Text.decimalValue [] = 0 := rfl
  simp only [List.nil_append, List.cons_append] at hfirst hminute hlast
  have hlarge : 12 < Text.decimalValue (h ++ [m₁]) ↔
      12 < 10 * Text.decimalValue h + Text.decimalValue [m₁, m₂] / 10 := by
    omega
  rw [← hlarge]
  constructor
  · intro hend
    exact hend hone m₁ [m₂] rfl hm₁
  · rintro hlt - c t heq -
    cases heq
    exact hlt

/-! ## Where a time can end -/

section Shape

variable {h m s p rest : List Char} {t : ClockTime}

/-- With a colon, a time has the hour and the minute that are written. -/
theorem parts_of_colon (hh : Numeral 1 2 h) (hm : Numeral 2 2 m) (hp : ClockText p t)
    (heq : p ++ rest = h ++ ':' :: (m ++ s)) :
    ∃ (hour : Bounded 1 12) (minute : Bounded 0 59), Hour12Text h hour ∧ SixtyText m minute := by
  have hcolon : Stops Char.isDigit (':' :: (m ++ s)) := stops_cons.2 (by decide)
  have hmost := hh.le_most
  -- A time with a colon has it behind the digits at the front, and its minute behind that.
  have split : ∀ {h' m' u : List Char} {hour : Bounded 1 12} {minute : Bounded 0 59},
      Hour12Text h' hour → SixtyText m' minute →
      h' ++ ':' :: (m' ++ u) = h ++ ':' :: (m ++ s) → h' = h ∧ m' = m := by
    intro h' m' u hour minute hh' hm' heq
    obtain ⟨rfl, hrest⟩ := run_unique heq hh'.numeral.all_digits hh.all_digits
      (stops_cons.2 (by decide)) hcolon
    exact ⟨rfl, (hm'.numeral.pair_unique hm (List.cons.inj hrest).2).1⟩
  cases hp with
  | military hh' hm' =>
    have hle := (hh'.numeral.append hm'.numeral).length_le_of_run heq hh.all_digits hcolon
    omega
  | hour hh' hx =>
    obtain ⟨hdigit, hnone⟩ := hx.stops rest
    rw [List.append_assoc] at heq
    obtain ⟨-, hrest⟩ := run_unique heq hh'.numeral.all_digits hh.all_digits hdigit hcolon
    rw [hrest, stops_cons] at hnone
    cases hnone
  | hourMinute hh' hm' hx =>
    simp only [List.append_assoc, List.cons_append, List.nil_append] at heq
    obtain ⟨rfl, rfl⟩ := split hh' hm' heq
    exact ⟨_, _, hh', hm'⟩
  | joined hh' hone hend hm' hx =>
    rw [List.append_assoc] at heq
    have hle := (hh'.numeral.append hm'.numeral).length_le_of_run heq hh.all_digits hcolon
    omega
  | hourMinuteSecond hh' hm' hs' hx =>
    simp only [List.append_assoc, List.cons_append, List.nil_append] at heq
    obtain ⟨rfl, rfl⟩ := split hh' hm' heq
    exact ⟨_, _, hh', hm'⟩

/-- Without a colon, a time in front of a suffix has the hour and the minute that are written, as
military time or as an hour that ends where it is meant to. -/
theorem parts_of_joined (hh : Numeral 1 2 h) (hm : Numeral 2 2 m) (hs : Stops Char.isDigit s)
    (hp : ClockText p t) (heq : p ++ rest = h ++ (m ++ s)) :
    (∃ (hour : Bounded 0 23) (minute : Bounded 0 59), Hour24Text h hour ∧ SixtyText m minute) ∨
      ∃ (hour : Bounded 1 12) (minute : Bounded 0 59),
        h.length = 1 ∧ EndsHour h m ∧ Hour12Text h hour ∧ SixtyText m minute := by
  have hrun := hh.append hm
  have hmost := hh.le_most
  have hlen : (h ++ m).length = h.length + m.length := List.length_append
  have hminute := Nat.le_antisymm hm.le_most hm.least_le
  have hleast := hrun.least_le
  rw [← List.append_assoc] at heq
  -- An hour that the digits end is too short to be all of them.
  have too_short : ∀ {h' u : List Char} {hour : Bounded 1 12}, Hour12Text h' hour →
      Stops Char.isDigit u → h' ++ u ≠ h ++ m ++ s := by
    intro h' u hour hh' hu heq
    obtain ⟨rfl, -⟩ := run_unique heq hh'.numeral.all_digits hrun.all_digits hu hs
    have hmost' := hh'.numeral.le_most
    omega
  cases hp with
  | @military h' m' hour minute hh' hm' =>
    have hle := (hh'.numeral.append hm'.numeral).length_le_of_run heq hrun.all_digits hs
    have htwo : Numeral 2 2 h := ⟨hh.all_digits, by omega, hh.le_most⟩
    rw [List.append_assoc, List.append_assoc] at heq
    obtain ⟨rfl, hrest⟩ := hh'.numeral.pair_unique htwo heq
    obtain ⟨rfl, -⟩ := hm'.numeral.pair_unique hm hrest
    exact Or.inl ⟨hour, minute, hh', hm'⟩
  | hour hh' hx =>
    rw [List.append_assoc] at heq
    exact absurd heq (too_short hh' (hx.stops rest).1)
  | @hourMinute h' m' x hour minute half hh' hm' hx =>
    have hcolon : h' ++ ':' :: (m' ++ (x ++ rest)) = h ++ m ++ s := by
      simpa only [List.append_assoc, List.cons_append, List.nil_append] using heq
    exact absurd hcolon (too_short hh' (stops_cons.2 (by decide)))
  | @joined h' m' x hour minute half hh' hone hend hm' hx =>
    rw [List.append_assoc] at heq
    obtain ⟨hboth, -⟩ := run_unique heq (hh'.numeral.append hm'.numeral).all_digits
      hrun.all_digits (hx.stops rest).1 hs
    have hlen' := congrArg List.length hboth
    rw [List.length_append, hone, Nat.le_antisymm hm'.numeral.le_most hm'.numeral.least_le] at hlen'
    obtain ⟨rfl, rfl⟩ := List.append_inj hboth (by omega)
    exact Or.inr ⟨hour, minute, hone, hend, hh', hm'⟩
  | @hourMinuteSecond h' m' s' x hour minute second half hh' hm' hs' hx =>
    have hcolon : h' ++ ':' :: (m' ++ ':' :: (s' ++ (x ++ rest))) = h ++ m ++ s := by
      simpa only [List.append_assoc, List.cons_append, List.nil_append] using heq
    exact absurd hcolon (too_short hh' (stops_cons.2 (by decide)))

/-- A time that fills its text has no suffix in it. -/
theorem DayTimeText.not_before_suffix {run u : List Char} (hrun : run.all Char.isDigit = true)
    (hu : Stops Char.isDigit u) (ht : DayTimeText (run ++ u) t) :
    run.length ≤ 2 ∧ ∃ m, Numeral 2 2 m ∧ u = ':' :: m := by
  generalize htext : run ++ u = text at ht
  obtain @⟨h', m', hour, minute, hh', hm'⟩ := ht
  rw [List.append_assoc, List.cons_append, List.nil_append] at htext
  obtain ⟨rfl, rfl⟩ := run_unique htext hrun hh'.numeral.all_digits hu (stops_cons.2 (by decide))
  exact ⟨hh'.numeral.le_most, m', hm'.numeral, rfl⟩

end Shape

/-! ## The two spellings -/

section Readings

variable {h m s rest : List Char} {half : Meridiem} {y : ClockTime × List Char}

/-- What is read with the colon. -/
theorem clockTime_colon_iff (hh : Numeral 1 2 h) (hm : Numeral 2 2 m)
    (hx : meridiem s = .ok (half, rest)) :
    clockTime (h ++ ':' :: (m ++ s)) = .ok y ↔
      ∃ (hour : Bounded 1 12) (minute : Bounded 0 59), Hour12Text h hour ∧ SixtyText m minute ∧
        (⟨half.hourOf hour, minute, ⟨0, by decide⟩⟩, rest) = y := by
  constructor
  · intro hread
    obtain ⟨t, rest'⟩ := y
    rcases clockTime_sound hread with ⟨p, heq, hp⟩ | ⟨-, hday⟩
    · obtain ⟨hour, minute, hh', hm'⟩ := parts_of_colon hh hm hp heq.symm
      have hbest := clockTime_hourMinute hh' hm' hx
      rw [hread] at hbest
      exact ⟨hour, minute, hh', hm', (Except.ok.inj hbest).symm⟩
    · obtain ⟨-, m', hm', hrest⟩ :=
        hday.not_before_suffix hh.all_digits (stops_cons.2 (by decide))
      have hback : m' ++ [] = m ++ s := by
        rw [List.append_nil]
        exact (List.cons.inj hrest).2.symm
      obtain ⟨-, rfl⟩ := hm'.pair_unique hm hback
      exact absurd (fails_meridiem (Or.inr (Or.inr rfl))) (not_fails_of_ok hx)
  · rintro ⟨hour, minute, hh', hm', rfl⟩
    exact clockTime_hourMinute hh' hm' hx

/-- What is read without the colon. -/
theorem clockTime_joined_iff (hh : Numeral 1 2 h) (hm : Numeral 2 2 m)
    (hx : meridiem s = .ok (half, rest)) :
    clockTime (h ++ (m ++ s)) = .ok y ↔
      (∃ (hour : Bounded 0 23) (minute : Bounded 0 59), Hour24Text h hour ∧ SixtyText m minute ∧
        (⟨hour, minute, ⟨0, by decide⟩⟩, s) = y) ∨
      ∃ (hour : Bounded 1 12) (minute : Bounded 0 59),
        h.length = 1 ∧ EndsHour h m ∧ Hour12Text h hour ∧ SixtyText m minute ∧
        (⟨half.hourOf hour, minute, ⟨0, by decide⟩⟩, rest) = y := by
  have hdigit := (stops_of_meridiem hx).1
  constructor
  · intro hread
    obtain ⟨t, rest'⟩ := y
    rcases clockTime_sound hread with ⟨p, heq, hp⟩ | ⟨-, hday⟩
    · rcases parts_of_joined hh hm hdigit hp heq.symm with
        ⟨hour, minute, hh', hm'⟩ | ⟨hour, minute, hone, hend, hh', hm'⟩
      · have hbest := clockTime_military hh' hm' s
        rw [List.append_assoc, hread] at hbest
        exact Or.inl ⟨hour, minute, hh', hm', (Except.ok.inj hbest).symm⟩
      · have hbest := clockTime_joined hh' hone hend hm' hx
        rw [hread] at hbest
        exact Or.inr ⟨hour, minute, hone, hend, hh', hm', (Except.ok.inj hbest).symm⟩
    · have hrun := hh.append hm
      rw [← List.append_assoc] at hday
      have hshort := (hday.not_before_suffix hrun.all_digits hdigit).1
      have hlong := hrun.least_le
      omega
  · rintro (⟨hour, minute, hh', hm', rfl⟩ | ⟨hour, minute, hone, hend, hh', hm', rfl⟩)
    · have hread := clockTime_military hh' hm' s
      rwa [List.append_assoc] at hread
    · exact clockTime_joined hh' hone hend hm' hx

/-- A suffix is more than nothing. -/
theorem rest_ne_of_meridiem (hx : meridiem s = .ok (half, rest)) : rest ≠ s := by
  obtain ⟨x, rfl, hx'⟩ := meridiem_reads.sound hx
  obtain ⟨c, t, rfl, -⟩ := hx'.front
  intro heq
  have hlen := congrArg List.length heq
  rw [List.length_append, List.length_cons] at hlen
  omega

/-- A text that begins with a suffix is read as one of its half. -/
theorem meridiem_of_prefix {x : List Char} (hx : MeridiemText x half) (hs : x <+: s) :
    ∃ rest, meridiem s = .ok (half, rest) := by
  obtain ⟨u, rfl⟩ := hs
  cases hx with
  | short hw hc =>
    rw [List.append_assoc]
    exact ⟨_, bind_eq_ok_iff.2
      ⟨_, _, space0_append hw (stops_cons.2 hc.isBlank), suffix_letter hc u⟩⟩
  | @long w c m half hw hc hm =>
    rw [List.append_assoc]
    exact ⟨_, bind_eq_ok_iff.2
      ⟨_, _, space0_append hw (stops_cons.2 hc.isBlank), suffix_letter hc (m :: u)⟩⟩

/-- Four digits that are military time leave the suffix. -/
theorem clockTime_of_fourDigits (hh : Numeral 1 2 h) (hm : Numeral 2 2 m) (s : List Char)
    (hfour : FourDigits h m) :
    ∃ t : ClockTime, clockTime (h ++ (m ++ s)) = .ok (t, s) ∧
      t.hour.val = Text.decimalValue h ∧ t.minute.val = Text.decimalValue m ∧ t.second.val = 0 := by
  obtain ⟨htwo, hhour, hminute⟩ := hfour
  have hnumeral : Numeral 2 2 h := ⟨hh.all_digits, by omega, hh.le_most⟩
  have hread := clockTime_military (PartText.of_bounds hnumeral ⟨Nat.zero_le _, hhour⟩)
    (PartText.of_bounds hm ⟨Nat.zero_le _, hminute⟩) s
  rw [List.append_assoc] at hread
  exact ⟨_, hread, rfl, rfl, rfl⟩

/-- An hour that takes a digit of the minute leaves too few. -/
theorem fails_clockTime_of_hourTakesDigit (hh : Numeral 1 2 h) (hm : Numeral 2 2 m)
    (hx : meridiem s = .ok (half, rest)) (htakes : HourTakesDigit h m) :
    clockTime.Fails (h ++ (m ++ s)) := by
  obtain ⟨hone, hvalue, hsmall⟩ := htakes
  rcases fails_or_ok clockTime (h ++ (m ++ s)) with hf | ⟨t, rest', hok⟩
  · exact hf
  · rcases (clockTime_joined_iff hh hm hx).1 hok with
      ⟨hour, minute, hh', -, -⟩ | ⟨hour, minute, -, hend, -, -, -⟩
    · have htwo := hh'.numeral.least_le
      omega
    · have hnumeral : Numeral 1 1 h := ⟨hh.all_digits, hh.least_le, by omega⟩
      have hlarge := (endsHour_iff hnumeral hm).1 hend
      omega

/-- With the colon the hour 1 is read for itself. -/
theorem clockTime_colon_of_hourTakesDigit (hh : Numeral 1 2 h) (hm : Numeral 2 2 m)
    (hx : meridiem s = .ok (half, rest)) (htakes : HourTakesDigit h m) :
    ∃ t : ClockTime, clockTime (h ++ ':' :: (m ++ s)) = .ok (t, rest) ∧
      t.hour.val = half.hour24 1 ∧ t.minute.val = Text.decimalValue m ∧ t.second.val = 0 := by
  obtain ⟨-, hvalue, hsmall⟩ := htakes
  have hhour : Hour12Text h ⟨1, by decide, by decide⟩ := ⟨hh, hvalue⟩
  have hminute : SixtyText m ⟨Text.decimalValue m, Nat.zero_le _, by omega⟩ := ⟨hm, rfl⟩
  exact ⟨_, clockTime_hourMinute hhour hminute hx, rfl, rfl, rfl⟩

/-- Apart from the two cases, both spellings have the same readings. -/
theorem clockTime_colon_iff_joined (hh : Numeral 1 2 h) (hm : Numeral 2 2 m)
    (hx : meridiem s = .ok (half, rest)) (hfour : ¬ FourDigits h m)
    (htakes : ¬ HourTakesDigit h m) :
    clockTime (h ++ ':' :: (m ++ s)) = .ok y ↔ clockTime (h ++ (m ++ s)) = .ok y := by
  rw [clockTime_colon_iff hh hm hx, clockTime_joined_iff hh hm hx]
  constructor
  · rintro ⟨hour, minute, hh', hm', rfl⟩
    have hleast := hh.least_le
    have hmost := hh.le_most
    have hhour := hh'.bounds
    have hminute := hm'.bounds
    have hone : h.length = 1 := by
      refine (Nat.lt_or_ge h.length 2).elim (fun hlt => by omega) fun htwo => ?_
      exact absurd ⟨by omega, by omega, hminute.2⟩ hfour
    have hnumeral : Numeral 1 1 h := ⟨hh.all_digits, hleast, by omega⟩
    refine Or.inr ⟨hour, minute, hone, (endsHour_iff hnumeral hm).2 ?_, hh', hm', rfl⟩
    -- The hour is 2 or more, or the minute is 30 or more.
    refine Nat.lt_of_not_le fun hle => htakes ⟨hone, ?_, ?_⟩ <;> omega
  · rintro (⟨hour, minute, hh', hm', -⟩ | ⟨hour, minute, -, -, hh', hm', rfl⟩)
    · have htwo := Nat.le_antisymm hh'.numeral.le_most hh'.numeral.least_le
      exact absurd ⟨htwo, hh'.bounds.2, hm'.bounds.2⟩ hfour
    · exact ⟨hour, minute, hh', hm', rfl⟩

/-- **When the colon is optional.**  In front of a suffix, an hour and a minute are read alike with a
colon and without one, unless the four digits are military time or the hour takes a digit of the
minute.  In the first case the digits are read as a time of 24 hours, with the suffix left over; in
the second there is no reading, although there is one with the colon. -/
theorem colon_optional_iff {x : List Char} (hh : Numeral 1 2 h) (hm : Numeral 2 2 m)
    (hx : MeridiemText x half) (hs : x <+: s) :
    ((parseClockTime (h ++ ':' :: (m ++ s))).Agrees (parseClockTime (h ++ (m ++ s))) ↔
      ¬ FourDigits h m ∧ ¬ HourTakesDigit h m) ∧
    (FourDigits h m → ∃ t : ClockTime, parseClockTime (h ++ (m ++ s)) = .leaving t s ∧
      t.hour.val = Text.decimalValue h ∧ t.minute.val = Text.decimalValue m ∧ t.second.val = 0) ∧
    (HourTakesDigit h m → (∃ f, parseClockTime (h ++ (m ++ s)) = .failed f) ∧
      ∃ t : ClockTime, (parseClockTime (h ++ ':' :: (m ++ s)) = .full t ∨
        ∃ rest, parseClockTime (h ++ ':' :: (m ++ s)) = .leaving t rest) ∧
        t.hour.val = half.hour24 1 ∧ t.minute.val = Text.decimalValue m ∧ t.second.val = 0) := by
  obtain ⟨rest, hmeridiem⟩ := meridiem_of_prefix hx hs
  have hne := rest_ne_of_meridiem hmeridiem
  refine ⟨agrees_iff.trans ⟨fun hsame => ⟨fun hfour => ?_, fun htakes => ?_⟩, ?_⟩, ?_, ?_⟩
  · -- Military time leaves the suffix, and a reading with the colon takes it.
    obtain ⟨t, hmilitary, -⟩ := clockTime_of_fourDigits hh hm s hfour
    obtain ⟨hour, minute, -, -, heq⟩ :=
      (clockTime_colon_iff hh hm hmeridiem).1 ((hsame _).2 hmilitary)
    exact hne (Prod.mk.inj heq).2
  · obtain ⟨t, hcolon, -⟩ := clockTime_colon_of_hourTakesDigit hh hm hmeridiem htakes
    exact not_fails_of_ok ((hsame _).1 hcolon)
      (fails_clockTime_of_hourTakesDigit hh hm hmeridiem htakes)
  · rintro ⟨hfour, htakes⟩ y
    exact clockTime_colon_iff_joined hh hm hmeridiem hfour htakes
  · intro hfour
    obtain ⟨t, hread, hparts⟩ := clockTime_of_fourDigits hh hm s hfour
    have hnil : s ≠ [] := by
      rintro rfl
      exact not_fails_of_ok hmeridiem (fails_meridiem (Or.inr (Or.inr rfl)))
    exact ⟨t, parse_eq_leaving_iff.2 ⟨hread, hnil⟩, hparts⟩
  · intro htakes
    obtain ⟨t, hread, hparts⟩ := clockTime_colon_of_hourTakesDigit hh hm hmeridiem htakes
    refine ⟨parse_of_fails (fails_clockTime_of_hourTakesDigit hh hm hmeridiem htakes),
      t, parse_of_ok hread, hparts⟩

/-- Half past nine in the evening is read alike. -/
theorem colon_optional_nine_thirty :
    (parseClockTime "9:30 pm".toList).Agrees (parseClockTime "930 pm".toList) := by
  have hh : Numeral 1 2 ['9'] := ⟨rfl, by decide, by decide⟩
  have hm : Numeral 2 2 ['3', '0'] := ⟨rfl, by decide, by decide⟩
  have hx : MeridiemText [' ', 'p', 'm'] .pm := .long (w := [' ']) rfl .p rfl
  exact (colon_optional_iff hh hm hx (List.prefix_refl _)).1.2
    ⟨fun hfour => absurd hfour.1 (by decide), fun htakes => absurd htakes.2.1 (by decide)⟩

/-- Half past one in the afternoon is not read alike in four digits, and a quarter past one is not
read alike in three. -/
theorem colon_not_optional :
    ¬ (parseClockTime "01:30pm".toList).Agrees (parseClockTime "0130pm".toList) ∧
      ¬ (parseClockTime "1:15pm".toList).Agrees (parseClockTime "115pm".toList) := by
  decide

end Readings

end Grammar

end DateCalc
