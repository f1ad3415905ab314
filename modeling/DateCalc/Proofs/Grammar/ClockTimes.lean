/-
  Clock times: what is read, and that all of it is.

  Five spellings can be followed by anything (`ClockText`), and one, the hour of 24 with a colon and
  a minute, only by the end (`DayTimeText`).  Without a colon an hour of 12 has one digit, and one
  that does not make an hour with the first digit of the minute: four digits are always read as
  military time, and two digits as an hour where they are one.

  Each form is read in front of any text that does not make its last part longer, because the forms
  tried before it fail: military time wants four digits in a row, and a suffix starts with neither a
  digit nor a colon.
-/
import DateCalc.Proofs.Grammar.ClockParts

namespace DateCalc.Grammar

open Rule Token

/-! ## The spellings -/

/-- An hour of 24 in two digits. -/
abbrev Hour24Text (ds : List Char) (hour : Bounded 0 23) : Prop := PartText 2 2 0 23 ds hour

/-- The spellings of a clock time that may stand in front of anything. -/
inductive ClockText : Spelling ClockTime where
  | military {h m : List Char} {hour : Bounded 0 23} {minute : Bounded 0 59} :
      Hour24Text h hour → SixtyText m minute → ClockText (h ++ m) ⟨hour, minute, ⟨0, by decide⟩⟩
  | hour {h x : List Char} {hour : Bounded 1 12} {half : Meridiem} :
      Hour12Text h hour → MeridiemText x half →
      ClockText (h ++ x) ⟨half.hourOf hour, ⟨0, by decide⟩, ⟨0, by decide⟩⟩
  | hourMinute {h m x : List Char} {hour : Bounded 1 12} {minute : Bounded 0 59}
      {half : Meridiem} :
      Hour12Text h hour → SixtyText m minute → MeridiemText x half →
      ClockText (h ++ [':'] ++ m ++ x) ⟨half.hourOf hour, minute, ⟨0, by decide⟩⟩
  | joined {h m x : List Char} {hour : Bounded 1 12} {minute : Bounded 0 59} {half : Meridiem} :
      Hour12Text h hour → h.length = 1 → EndsHour h m → SixtyText m minute →
      MeridiemText x half → ClockText (h ++ m ++ x) ⟨half.hourOf hour, minute, ⟨0, by decide⟩⟩
  | hourMinuteSecond {h m s x : List Char} {hour : Bounded 1 12} {minute second : Bounded 0 59}
      {half : Meridiem} :
      Hour12Text h hour → SixtyText m minute → SixtyText s second → MeridiemText x half →
      ClockText (h ++ [':'] ++ m ++ [':'] ++ s ++ x) ⟨half.hourOf hour, minute, second⟩

/-- The spelling of a clock time that must fill its text. -/
inductive DayTimeText : Spelling ClockTime where
  | mk {h m : List Char} {hour : Bounded 0 23} {minute : Bounded 0 59} :
      PartText 1 2 0 23 h hour → SixtyText m minute →
      DayTimeText (h ++ [':'] ++ m) ⟨hour, minute, ⟨0, by decide⟩⟩

/-! ## Colons -/

theorem optionalColon_colon (s : List Char) : optionalColon (':' :: s) = .ok ((), s) := rfl

/-- Where no colon stands, none is read. -/
theorem optionalColon_of_stops {s : List Char} (h : Stops (· == ':') s) :
    optionalColon s = .ok ((), s) := by
  unfold optionalColon
  split
  · cases stops_cons.1 h
  · rfl

/-- A colon is read, or nothing is. -/
theorem optionalColon_sound {s rest : List Char} {u : Unit}
    (h : optionalColon s = .ok (u, rest)) : s = ':' :: rest ∨ s = rest := by
  unfold optionalColon at h
  split at h
  · cases h; exact Or.inl rfl
  · cases h; exact Or.inr rfl

/-! ## Forms that fail -/

/-- Four digits are an hour and a minute, whatever follows them. -/
theorem military_append {h m : List Char} {hour : Bounded 0 23} {minute : Bounded 0 59}
    (hh : Hour24Text h hour) (hm : SixtyText m minute) (rest : List Char) :
    military (h ++ m ++ rest) = .ok (⟨hour, minute, ⟨0, by decide⟩⟩, rest) := by
  have hhour := hh.numeral.least_le
  have hminute := hm.numeral.least_le
  rw [List.append_assoc]
  refine bind_eq_ok_iff.2 ⟨_, _, bounded_append hh (by omega), ?_⟩
  exact bind_eq_ok_iff.2 ⟨_, _, bounded_append hm (by omega), rfl⟩

/-- Military time wants a minute behind its first two characters. -/
theorem fails_military_of_minute {h rest : List Char} (hh : h.length = 2)
    (hf : minute.Fails rest) : military.Fails (h ++ rest) := by
  refine fails_bind_of_forall fun hour mid hok => fails_bind _ ?_
  obtain ⟨ds, heq, hds, -⟩ := bounded_sound hok
  have hlen := hds.numeral.least_le
  have hlen' := hds.numeral.le_most
  obtain ⟨-, rfl⟩ := List.append_inj heq (by omega)
  exact hf

/-- Military time wants more than two digits in a row. -/
theorem fails_military {h rest : List Char} (hh : Numeral 1 2 h)
    (hrest : Stops Char.isDigit rest) : military.Fails (h ++ rest) := by
  have hmost := hh.le_most
  by_cases htwo : h.length = 2
  · exact fails_military_of_minute htwo
      (fails_bounded (rfl : [].all Char.isDigit = true) (by decide) (by decide) hrest)
  · exact fails_bind _ (fails_bounded hh.all_digits (by omega) (by decide) hrest)

/-- In front of a colon, an hour of 12 ends within or behind the digits. -/
theorem hour12_before_colon {h rest mid : List Char} {hour : Bounded 1 12}
    (hh : h.all Char.isDigit = true) (hok : hour12 (h ++ ':' :: rest) = .ok (hour, mid)) :
    ∃ ds t, h = ds ++ t ∧ Hour12Text ds hour ∧ mid = t ++ ':' :: rest := by
  obtain ⟨ds, heq, hds, -⟩ := hour12_sound hok
  have hstop : Stops Char.isDigit (':' :: rest) := stops_cons.2 (by decide)
  obtain ⟨t, rfl⟩ := prefix_of_run hds.numeral.all_digits ⟨mid, heq.symm⟩ hh hstop
  rw [List.append_assoc] at heq
  exact ⟨ds, t, rfl, hds, (List.append_cancel_left heq).symm⟩

/-- A digit or a colon behind the hour leaves no room for a suffix. -/
theorem fails_meridiem_before_colon {t : List Char} (ht : t.all Char.isDigit = true)
    (rest : List Char) : meridiem.Fails (t ++ ':' :: rest) := by
  apply fails_meridiem
  cases t with
  | nil => exact Or.inr (Or.inl (by rw [List.nil_append, stops_cons]; decide))
  | cons c t =>
    rw [List.all_cons, Bool.and_eq_true] at ht
    left
    rw [List.cons_append, stops_cons, ht.1]
    exact Bool.noConfusion

/-- An hour before a colon has no suffix. -/
theorem fails_hourWithSuffix_before_colon {h : List Char} (hh : h.all Char.isDigit = true)
    (rest : List Char) : hourWithSuffix.Fails (h ++ ':' :: rest) := by
  refine fails_bind_of_forall fun hour mid hok => fails_bind _ ?_
  obtain ⟨ds, t, rfl, -, rfl⟩ := hour12_before_colon hh hok
  rw [List.all_append, Bool.and_eq_true] at hh
  exact fails_meridiem_before_colon hh.2 rest

/-- With a colon behind the hour, the minute and then the suffix decide. -/
theorem fails_hourMinuteWithSuffix {h m rest : List Char} {minute' : Bounded 0 59}
    (hh : Numeral 1 2 h) (hm : SixtyText m minute') (hf : meridiem.Fails rest) :
    hourMinuteWithSuffix.Fails (h ++ ':' :: (m ++ rest)) := by
  refine fails_bind_of_forall fun hour mid hok => ?_
  obtain ⟨ds, t, rfl, hds, rfl⟩ := hour12_before_colon hh.all_digits hok
  have hleast := hds.numeral.least_le
  have hmost := hh.le_most
  rw [List.length_append] at hmost
  have hminute := hm.numeral.least_le
  -- Either the hour ends at the colon, or one digit is left in front of it, too few for a minute.
  cases t with
  | nil =>
    refine fails_bind_of_ok (optionalColon_colon (m ++ rest)) ?_
    exact fails_bind_of_ok (bounded_append hm (by omega)) (fails_bind _ hf)
  | cons c t =>
    have hall := hh.all_digits
    rw [List.all_append, Bool.and_eq_true] at hall
    have hnumeral : Numeral 1 2 (c :: t) := ⟨hall.2, by simp, by omega⟩
    refine fails_bind_of_ok (optionalColon_of_stops (hnumeral.stops_colon _)) (fails_bind _ ?_)
    rw [List.length_cons] at hmost
    exact fails_bounded hall.2 (by rw [List.length_cons]; omega) (by decide)
      (stops_cons.2 (by decide))

/-- Text behind the minute leaves no time of 24 hours. -/
theorem fails_hourMinute24 {h m rest : List Char} {minute' : Bounded 0 59}
    (hh : Numeral 1 2 h) (hm : SixtyText m minute') (hrest : rest ≠ []) :
    hourMinute24.Fails (h ++ ':' :: (m ++ rest)) := by
  have hcolon : Stops Char.isDigit (':' :: (m ++ rest)) := stops_cons.2 (by decide)
  have hminute := hm.numeral.least_le
  refine fails_bind_of_forall fun hour mid hok => ?_
  obtain ⟨-, rfl⟩ := bounded_of_numeral hh (fun _ => hcolon) hok
  refine fails_bind_of_ok (optionalColon_colon (m ++ rest)) ?_
  refine fails_bind_of_ok (bounded_append hm (by omega)) (fails_bind _ ?_)
  obtain ⟨c, t, rfl⟩ := List.exists_cons_of_ne_nil hrest
  exact ⟨_, rfl⟩

/-! ## Forms that match -/

section Complete

variable {h m s x rest : List Char} {hour : Bounded 1 12} {minute second : Bounded 0 59}
  {half : Meridiem}

/-- A suffix is read where neither a digit nor a colon stands. -/
theorem stops_of_meridiem (hx : meridiem x = .ok (half, rest)) :
    Stops Char.isDigit x ∧ Stops (· == ':') x := by
  obtain ⟨y, rfl, hy⟩ := meridiem_reads.sound hx
  exact hy.stops rest

theorem clockTime_military {hour : Bounded 0 23} (hh : Hour24Text h hour)
    (hm : SixtyText m minute) (rest : List Char) :
    clockTime (h ++ m ++ rest) = .ok (⟨hour, minute, ⟨0, by decide⟩⟩, rest) :=
  firstMatch_cons_eq_ok_iff.2 (Or.inl (military_append hh hm rest))

/-- An hour and a suffix are read as a time. -/
theorem clockTime_hour (hh : Hour12Text h hour) (hx : meridiem x = .ok (half, rest)) :
    clockTime (h ++ x) = .ok (⟨half.hourOf hour, ⟨0, by decide⟩, ⟨0, by decide⟩⟩, rest) := by
  have hdigit := (stops_of_meridiem hx).1
  refine firstMatch_cons_eq_ok_iff.2 (Or.inr ⟨fails_military hh.numeral hdigit, ?_⟩)
  refine firstMatch_cons_eq_ok_iff.2 (Or.inl ?_)
  refine bind_eq_ok_iff.2 ⟨_, _, hour12_append hh (.of_stops hdigit), ?_⟩
  exact bind_eq_ok_iff.2 ⟨_, _, hx, rfl⟩

/-- In front of a colon the first two forms fail. -/
theorem clockTime_of_colon {t : ClockTime} (hh : Numeral 1 2 h)
    (ht : firstMatch (clockTimeForms.drop 2) (h ++ ':' :: s) = .ok (t, rest)) :
    clockTime (h ++ ':' :: s) = .ok (t, rest) := by
  have hcolon : Stops Char.isDigit (':' :: s) := stops_cons.2 (by decide)
  refine firstMatch_cons_eq_ok_iff.2 (Or.inr ⟨fails_military hh hcolon, ?_⟩)
  exact firstMatch_cons_eq_ok_iff.2
    (Or.inr ⟨fails_hourWithSuffix_before_colon hh.all_digits s, ht⟩)

/-- Hour and minute with a colon and a suffix are read as a time. -/
theorem clockTime_hourMinute (hh : Hour12Text h hour) (hm : SixtyText m minute)
    (hx : meridiem x = .ok (half, rest)) :
    clockTime (h ++ ':' :: (m ++ x)) =
      .ok (⟨half.hourOf hour, minute, ⟨0, by decide⟩⟩, rest) := by
  have hcolon : Stops Char.isDigit (':' :: (m ++ x)) := stops_cons.2 (by decide)
  have hminute := hm.numeral.least_le
  refine clockTime_of_colon hh.numeral ?_
  refine firstMatch_cons_eq_ok_iff.2 (Or.inl ?_)
  refine bind_eq_ok_iff.2 ⟨_, _, hour12_append hh (.of_stops hcolon), ?_⟩
  refine bind_eq_ok_iff.2 ⟨(), m ++ x, rfl, ?_⟩
  refine bind_eq_ok_iff.2 ⟨_, _, bounded_append hm (by omega), ?_⟩
  exact bind_eq_ok_iff.2 ⟨_, _, hx, rfl⟩

/-- Without the colon the hour has one digit: two would be military time. -/
theorem clockTime_joined (hh : Hour12Text h hour) (hone : h.length = 1) (hend : EndsHour h m)
    (hm : SixtyText m minute) (hx : meridiem x = .ok (half, rest)) :
    clockTime (h ++ (m ++ x)) = .ok (⟨half.hourOf hour, minute, ⟨0, by decide⟩⟩, rest) := by
  obtain ⟨d, rfl⟩ := List.length_eq_one_iff.1 hone
  obtain ⟨m₁, m₂, rfl, hm₁, hm₂⟩ := hm.numeral.eq_pair
  have hdigit := (stops_of_meridiem hx).1
  have hnext : ¬ Stops Char.isDigit ([m₁, m₂] ++ x) :=
    not_stops_run hm.numeral.ne_nil hm.numeral.all_digits x
  have hend' : EndsHour [d] ([m₁, m₂] ++ x) := by
    rintro - c t heq hc
    cases heq
    exact hend rfl m₁ [m₂] rfl hc
  have hhour := hour12_append hh hend'
  -- Military time takes the first digit of the minute into the hour, and is left with one digit.
  have hmilitary : military.Fails ([d, m₁] ++ ([m₂] ++ x)) :=
    fails_military_of_minute rfl
      (fails_bounded (by simp [hm₂]) (by simp) (by decide) hdigit)
  refine firstMatch_cons_eq_ok_iff.2 (Or.inr ⟨hmilitary, ?_⟩)
  refine firstMatch_cons_eq_ok_iff.2 (Or.inr ⟨?_, ?_⟩)
  · exact fails_bind_of_ok hhour (fails_bind _ (fails_meridiem (Or.inl hnext)))
  · refine firstMatch_cons_eq_ok_iff.2 (Or.inl ?_)
    refine bind_eq_ok_iff.2 ⟨_, _, hhour, ?_⟩
    refine bind_eq_ok_iff.2 ⟨_, _, optionalColon_of_stops (hm.numeral.stops_colon x), ?_⟩
    refine bind_eq_ok_iff.2 ⟨_, _, bounded_append hm (by simp), ?_⟩
    exact bind_eq_ok_iff.2 ⟨_, _, hx, rfl⟩

/-- Hour and minute with a colon are read as a time of 24 hours at the end of the text. -/
theorem clockTime_day {hour : Bounded 0 23} (hh : PartText 1 2 0 23 h hour)
    (hm : SixtyText m minute) :
    clockTime (h ++ ':' :: m) = .ok (⟨hour, minute, ⟨0, by decide⟩⟩, []) := by
  -- Behind the minute the text ends, so the forms with a suffix fail there.
  have hcolon : Stops Char.isDigit (':' :: m) := stops_cons.2 (by decide)
  have hminute := hm.numeral.least_le
  have hsuffix : hourMinuteWithSuffix.Fails (h ++ ':' :: (m ++ [])) :=
    fails_hourMinuteWithSuffix hh.numeral hm (fails_meridiem (Or.inr (Or.inr rfl)))
  have hread : Grammar.minute (m ++ []) = .ok (minute, []) := bounded_append hm (by omega)
  rw [List.append_nil] at hsuffix hread
  refine clockTime_of_colon hh.numeral ?_
  refine firstMatch_cons_eq_ok_iff.2 (Or.inr ⟨hsuffix, ?_⟩)
  refine firstMatch_cons_eq_ok_iff.2 (Or.inl ?_)
  refine bind_eq_ok_iff.2 ⟨_, _, bounded_append hh (fun _ => hcolon), ?_⟩
  refine bind_eq_ok_iff.2 ⟨(), m, rfl, ?_⟩
  exact bind_eq_ok_iff.2 ⟨_, _, hread, rfl⟩

/-- Hour, minute and second with colons and a suffix are read as a time. -/
theorem clockTime_hourMinuteSecond (hh : Hour12Text h hour) (hm : SixtyText m minute)
    (hs : SixtyText s second) (hx : meridiem x = .ok (half, rest)) :
    clockTime (h ++ ':' :: (m ++ ':' :: (s ++ x))) =
      .ok (⟨half.hourOf hour, minute, second⟩, rest) := by
  have hcolon : Stops Char.isDigit (':' :: (m ++ ':' :: (s ++ x))) := stops_cons.2 (by decide)
  have hminute := hm.numeral.least_le
  have hsecond := hs.numeral.least_le
  -- A second colon is no suffix and no end.
  have hnone : meridiem.Fails (':' :: (s ++ x)) :=
    fails_meridiem_before_colon (t := []) rfl _
  refine clockTime_of_colon hh.numeral ?_
  refine firstMatch_cons_eq_ok_iff.2
    (Or.inr ⟨fails_hourMinuteWithSuffix hh.numeral hm hnone, ?_⟩)
  refine firstMatch_cons_eq_ok_iff.2
    (Or.inr ⟨fails_hourMinute24 hh.numeral hm (List.cons_ne_nil _ _), ?_⟩)
  refine firstMatch_cons_eq_ok_iff.2 (Or.inl ?_)
  refine bind_eq_ok_iff.2 ⟨_, _, hour12_append hh (.of_stops hcolon), ?_⟩
  refine bind_eq_ok_iff.2 ⟨(), _, tag_append ":" _, ?_⟩
  refine bind_eq_ok_iff.2 ⟨_, _, bounded_append hm (by omega), ?_⟩
  refine bind_eq_ok_iff.2 ⟨(), _, tag_append ":" _, ?_⟩
  refine bind_eq_ok_iff.2 ⟨_, _, bounded_append hs (by omega), ?_⟩
  exact bind_eq_ok_iff.2 ⟨_, _, hx, rfl⟩

end Complete

/-! ## Whole texts -/

/-- Every text of a 12-hour time is read as that time. -/
theorem clockTime_of_clockText {p : List Char} {t : ClockTime} (h : ClockText p t) :
    clockTime p = .ok (t, []) := by
  have hsuffix : ∀ {x : List Char} {half : Meridiem}, MeridiemText x half →
      meridiem x = .ok (half, []) := by
    intro x half hx
    have hread := meridiem_reads.complete hx (stops_nil isM)
    rwa [List.append_nil] at hread
  cases h with
  | military hh hm =>
    have hread := clockTime_military hh hm []
    rwa [List.append_nil] at hread
  | hour hh hx => exact clockTime_hour hh (hsuffix hx)
  | hourMinute hh hm hx =>
    have hread := clockTime_hourMinute hh hm (hsuffix hx)
    simpa only [List.append_assoc, List.cons_append, List.nil_append] using hread
  | joined hh hone hend hm hx =>
    rw [List.append_assoc]
    exact clockTime_joined hh hone hend hm (hsuffix hx)
  | hourMinuteSecond hh hm hs hx =>
    have hread := clockTime_hourMinuteSecond hh hm hs (hsuffix hx)
    simpa only [List.append_assoc, List.cons_append, List.nil_append] using hread

/-- Every text of a time of 24 hours is read as that time. -/
theorem clockTime_of_dayTimeText {p : List Char} {t : ClockTime} (h : DayTimeText p t) :
    clockTime p = .ok (t, []) := by
  obtain ⟨hh, hm⟩ := h
  rw [List.append_assoc]
  exact clockTime_day hh hm

/-! ## What is consumed

  Each form consumes its own spelling.  Where the colon of an hour and a minute is missing, military
  time has been tried before and failed, so the hour is no hour of two digits. -/

section Sound

variable {s rest : List Char} {t : ClockTime}

/-- Four digits that are read are the text of their time. -/
theorem military_sound (h : military s = .ok (t, rest)) :
    ∃ p, s = p ++ rest ∧ ClockText p t := by
  obtain ⟨hour, s₁, hhour, h⟩ := bind_eq_ok_iff.1 h
  obtain ⟨minute, s₂, hminute, hpure⟩ := bind_eq_ok_iff.1 h
  obtain ⟨rfl, rfl⟩ := pure_eq_ok_iff.1 hpure
  obtain ⟨ds, rfl, hds, -⟩ := bounded_sound hhour
  obtain ⟨ms, rfl, hms, -⟩ := bounded_sound hminute
  exact ⟨ds ++ ms, (List.append_assoc ..).symm, .military hds hms⟩

/-- An hour with a suffix that is read is the text of its time. -/
theorem hourWithSuffix_sound (h : hourWithSuffix s = .ok (t, rest)) :
    ∃ p, s = p ++ rest ∧ ClockText p t := by
  obtain ⟨hour, s₁, hhour, h⟩ := bind_eq_ok_iff.1 h
  obtain ⟨half, s₂, hhalf, hpure⟩ := bind_eq_ok_iff.1 h
  obtain ⟨rfl, rfl⟩ := pure_eq_ok_iff.1 hpure
  obtain ⟨ds, rfl, hds, -⟩ := hour12_sound hhour
  obtain ⟨x, rfl, hx⟩ := meridiem_reads.sound hhalf
  exact ⟨ds ++ x, (List.append_assoc ..).symm, .hour hds hx⟩

/-- Hour and minute with a suffix that are read are the text of their time, where no four digits
are. -/
theorem hourMinuteWithSuffix_sound (h : hourMinuteWithSuffix s = .ok (t, rest))
    (hf : military.Fails s) : ∃ p, s = p ++ rest ∧ ClockText p t := by
  obtain ⟨hour, s₁, hhour, h⟩ := bind_eq_ok_iff.1 h
  obtain ⟨_, s₂, hcolon, h⟩ := bind_eq_ok_iff.1 h
  obtain ⟨minute, s₃, hminute, h⟩ := bind_eq_ok_iff.1 h
  obtain ⟨half, s₄, hhalf, hpure⟩ := bind_eq_ok_iff.1 h
  obtain ⟨rfl, rfl⟩ := pure_eq_ok_iff.1 hpure
  obtain ⟨ds, rfl, hds, hend⟩ := hour12_sound hhour
  obtain ⟨ms, rfl, hms, -⟩ := bounded_sound hminute
  obtain ⟨x, rfl, hx⟩ := meridiem_reads.sound hhalf
  rcases optionalColon_sound hcolon with rfl | rfl
  · exact ⟨ds ++ [':'] ++ ms ++ x, by simp, .hourMinute hds hms hx⟩
  · refine ⟨ds ++ ms ++ x, by simp, .joined hds ?_ ?_ hms hx⟩
    · -- An hour of two digits and a minute would have been read as military time.
      refine (Nat.lt_or_ge ds.length 2).elim (fun hlt => ?_) (fun htwo => ?_)
      · have hleast := hds.numeral.least_le
        omega
      · have hsmall := hour.property.2
        have hday : Hour24Text ds ⟨hour.val, Nat.zero_le _, by omega⟩ :=
          ⟨⟨hds.numeral.all_digits, htwo, hds.numeral.le_most⟩, hds.value_eq⟩
        have hread := military_append hday hms (x ++ s₄)
        rw [List.append_assoc] at hread
        exact absurd hf (not_fails_of_ok hread)
    · obtain ⟨m₁, m₂, rfl, -, -⟩ := hms.numeral.eq_pair
      rintro hone c t heq hc
      cases heq
      exact hend hone m₁ _ rfl hc

/-- Hour and minute that are read without a suffix are the text of their time and all there is,
where no four digits are. -/
theorem hourMinute24_sound (h : hourMinute24 s = .ok (t, rest)) (hf : military.Fails s) :
    rest = [] ∧ DayTimeText s t := by
  obtain ⟨hour, s₁, hhour, h⟩ := bind_eq_ok_iff.1 h
  obtain ⟨_, s₂, hcolon, h⟩ := bind_eq_ok_iff.1 h
  obtain ⟨minute, s₃, hminute, h⟩ := bind_eq_ok_iff.1 h
  obtain ⟨_, s₄, hend, hpure⟩ := bind_eq_ok_iff.1 h
  obtain ⟨rfl, rfl⟩ := pure_eq_ok_iff.1 hpure
  obtain ⟨ds, rfl, hds, hstop⟩ := bounded_sound hhour
  obtain ⟨ms, rfl, hms, -⟩ := bounded_sound hminute
  unfold endOfText at hend
  split at hend
  · cases hend
    rw [List.append_nil] at hcolon
    refine ⟨rfl, ?_⟩
    rcases optionalColon_sound hcolon with rfl | rfl
    · have htext := DayTimeText.mk hds hms
      rwa [List.append_assoc] at htext
    · -- Two digits are read where there are two, and military time reads such an hour.
      obtain ⟨m₁, m₂, rfl, hm₁, -⟩ := hms.numeral.eq_pair
      have htwo : 2 ≤ ds.length := by
        refine Nat.le_of_not_lt fun hlt => ?_
        have hclosed := stops_cons.1 (hstop hlt)
        rw [hm₁] at hclosed
        cases hclosed
      have hread := military_append (hds.resize htwo hds.numeral.le_most) hms []
      rw [List.append_nil] at hread
      exact absurd hf (not_fails_of_ok hread)
  · cases hend

/-- Hour, minute and second that are read are the text of their time. -/
theorem hourMinuteSecondWithSuffix_sound (h : hourMinuteSecondWithSuffix s = .ok (t, rest)) :
    ∃ p, s = p ++ rest ∧ ClockText p t := by
  obtain ⟨hour, s₁, hhour, h⟩ := bind_eq_ok_iff.1 h
  obtain ⟨_, s₂, htag, h⟩ := bind_eq_ok_iff.1 h
  obtain ⟨minute, s₃, hminute, h⟩ := bind_eq_ok_iff.1 h
  obtain ⟨_, s₄, htag', h⟩ := bind_eq_ok_iff.1 h
  obtain ⟨second, s₅, hsecond, h⟩ := bind_eq_ok_iff.1 h
  obtain ⟨half, s₆, hhalf, hpure⟩ := bind_eq_ok_iff.1 h
  obtain ⟨rfl, rfl⟩ := pure_eq_ok_iff.1 hpure
  obtain ⟨ds, rfl, hds, -⟩ := hour12_sound hhour
  obtain rfl := tag_sound htag
  obtain ⟨ms, rfl, hms, -⟩ := bounded_sound hminute
  obtain rfl := tag_sound htag'
  obtain ⟨ss, rfl, hss, -⟩ := bounded_sound hsecond
  obtain ⟨x, rfl, hx⟩ := meridiem_reads.sound hhalf
  exact ⟨ds ++ [':'] ++ ms ++ [':'] ++ ss ++ x, by simp, .hourMinuteSecond hds hms hss hx⟩

/-- **What is consumed of a text** is a spelling of the time it gives. -/
theorem clockTime_sound (h : clockTime s = .ok (t, rest)) :
    (∃ p, s = p ++ rest ∧ ClockText p t) ∨ rest = [] ∧ DayTimeText s t := by
  simp only [clockTime, clockTimeForms, firstMatch_cons_eq_ok_iff, firstMatch_nil_ne_ok,
    and_false, or_false] at h
  rcases h with h | ⟨hf, h | ⟨-, h | ⟨-, h | ⟨-, h⟩⟩⟩⟩
  · exact Or.inl (military_sound h)
  · exact Or.inl (hourWithSuffix_sound h)
  · exact Or.inl (hourMinuteWithSuffix_sound h hf)
  · exact Or.inr (hourMinute24_sound h hf)
  · exact Or.inl (hourMinuteSecondWithSuffix_sound h)

end Sound

/-- A text is read in full as a clock time exactly when it spells that time. -/
theorem parseClockTime_full_iff {text : List Char} {t : ClockTime} :
    parseClockTime text = .full t ↔ ClockText text t ∨ DayTimeText text t := by
  rw [parseClockTime, parse_eq_full_iff]
  constructor
  · intro h
    rcases clockTime_sound h with ⟨p, rfl, hp⟩ | ⟨-, hday⟩
    · rw [List.append_nil]
      exact Or.inl hp
    · exact Or.inr hday
  · rintro (h | h)
    · exact clockTime_of_clockText h
    · exact clockTime_of_dayTimeText h

end DateCalc.Grammar
