/-
  The numbering of the days.

  Years follow each other without a gap, and so do the months of a year: both are blocks of days in a
  row, each starting where the one before it ends.  A position in such a row lies in one block only
  (`block_unique`), so no two dates share a number.  Taking a number apart finds the year that holds
  it and the month that holds the rest, so every number up to that of the last day belongs to a date,
  and no other number does.

  The neighbours of a day are therefore the days with the neighbouring numbers.
-/
import DateCalc.Calendar.DayNumber

namespace DateCalc

/-! ## Blocks in a row -/

section Block

variable (start : Nat → Nat) {length : Nat → Nat}

/-- Later blocks start later. -/
theorem block_start_le (hstart : ∀ i, start (i + 1) = start i + length i) {i j : Nat}
    (hij : i ≤ j) : start i ≤ start j := by
  induction hij with
  | refl => exact Nat.le_refl _
  | @step j _ ih =>
    rw [Nat.succ_eq_add_one, hstart]
    exact Nat.le_trans ih (Nat.le_add_right _ _)

/-- A position in a row of blocks lies in one of them, at one place. -/
theorem block_unique (hstart : ∀ i, start (i + 1) = start i + length i) {i j k l : Nat}
    (hk : k < length i) (hl : l < length j) (h : start i + k = start j + l) : i = j ∧ k = l := by
  have hi := hstart i
  have hj := hstart j
  rcases Nat.lt_trichotomy i j with hlt | rfl | hlt
  · have hle : start (i + 1) ≤ start j := block_start_le start hstart hlt
    omega
  · exact ⟨rfl, by omega⟩
  · have hle : start (j + 1) ≤ start i := block_start_le start hstart hlt
    omega

end Block

/-! ## Years -/

theorem isLeapYear_iff {year : Nat} :
    isLeapYear year = true ↔ 4 ∣ year ∧ (100 ∣ year → 400 ∣ year) := by
  simp only [isLeapYear, Bool.and_eq_true, Bool.or_eq_true, beq_iff_eq, bne_iff_ne, ne_eq,
    Nat.dvd_iff_mod_eq_zero, Decidable.imp_iff_not_or]

theorem le_daysInYear (year : Nat) : 365 ≤ daysInYear year := by
  unfold daysInYear
  split <;> decide

/-- Each year starts where the one before it ends. -/
theorem daysBeforeYear_succ {year : Nat} (h : 1 ≤ year) :
    daysBeforeYear (year + 1) = daysBeforeYear year + daysInYear year := by
  obtain ⟨year, rfl⟩ := Nat.exists_eq_add_of_le' h
  have hquad : 100 ∣ year + 1 → 4 ∣ year + 1 := Nat.dvd_trans (by decide)
  have hcentury : 400 ∣ year + 1 → 100 ∣ year + 1 := Nat.dvd_trans (by decide)
  have hle : year / 100 ≤ year / 4 := Nat.div_le_div_left (by decide) (by decide)
  show 365 * (year + 1) + (year + 1) / 4 - (year + 1) / 100 + (year + 1) / 400 =
    365 * year + year / 4 - year / 100 + year / 400 + daysInYear (year + 1)
  -- A quotient grows by one exactly in the years it divides.
  rw [Nat.succ_div, Nat.succ_div, Nat.succ_div]
  by_cases h4 : 4 ∣ year + 1
  · by_cases h100 : 100 ∣ year + 1
    · by_cases h400 : 400 ∣ year + 1
      · have hleap : isLeapYear (year + 1) = true := isLeapYear_iff.2 ⟨h4, fun _ => h400⟩
        simp only [daysInYear, hleap, h4, h100, h400, if_true]
        omega
      · have hleap : ¬ isLeapYear (year + 1) = true :=
          fun h => h400 ((isLeapYear_iff.1 h).2 h100)
        simp only [daysInYear, hleap, h4, h100, h400, Bool.false_eq_true, if_true, if_false]
        omega
    · have h400 : ¬ 400 ∣ year + 1 := fun h => h100 (hcentury h)
      have hleap : isLeapYear (year + 1) = true :=
        isLeapYear_iff.2 ⟨h4, fun h => absurd h h100⟩
      simp only [daysInYear, hleap, h4, h100, h400, if_true, if_false]
      omega
  · have h100 : ¬ 100 ∣ year + 1 := fun h => h4 (hquad h)
    have h400 : ¬ 400 ∣ year + 1 := fun h => h100 (hcentury h)
    have hleap : ¬ isLeapYear (year + 1) = true := fun h => h4 (isLeapYear_iff.1 h).1
    simp only [daysInYear, hleap, h4, h100, h400, Bool.false_eq_true, if_false]
    omega

/-- The years, counted from 0, are blocks in a row. -/
theorem yearBlock_succ (i : Nat) :
    daysBeforeYear (i + 1 + 1) = daysBeforeYear (i + 1) + daysInYear (i + 1) :=
  daysBeforeYear_succ (Nat.succ_pos i)

theorem daysBeforeYear_mono {year year' : Nat} (h : year ≤ year') :
    daysBeforeYear (year + 1) ≤ daysBeforeYear (year' + 1) :=
  block_start_le (fun i => daysBeforeYear (i + 1)) yearBlock_succ h

/-- The days before a year, by the 400 years, centuries, four years and single years that have
passed. -/
theorem daysBeforeYear_parts {cycle century quad single : Nat} (hcentury : century ≤ 3)
    (hquad : quad ≤ 24) (hsingle : single ≤ 3) :
    daysBeforeYear (400 * cycle + 100 * century + 4 * quad + single + 1) =
      146097 * cycle + 36524 * century + 1461 * quad + 365 * single := by
  generalize hpassed : 400 * cycle + 100 * century + 4 * quad + single = passed
  have h4 : passed / 4 = 100 * cycle + 25 * century + quad := by omega
  have h100 : passed / 100 = 4 * cycle + century := by omega
  have h400 : passed / 400 = cycle := by omega
  rw [daysBeforeYear, Nat.add_sub_cancel, h4, h100, h400]
  omega

/-! ## Months -/

/-- Every month has a day. -/
theorem one_le_daysInMonth {year month : Nat} (h1 : 1 ≤ month) (h12 : month ≤ 12) :
    1 ≤ daysInMonth year month := by
  unfold daysInMonth
  split
  case h_12 => split <;> decide
  case h_13 => simp only [imp_false] at *; omega
  all_goals decide

theorem daysBeforeMonth_mono {year month month' : Nat} (h : month ≤ month') :
    daysBeforeMonth year month ≤ daysBeforeMonth year month' :=
  block_start_le (daysBeforeMonth year) (fun _ => rfl) h

/-- The twelve months make up the year. -/
theorem daysBeforeMonth_thirteen (year : Nat) : daysBeforeMonth year 13 = daysInYear year := by
  simp only [daysBeforeMonth, daysInMonth, daysInYear]
  split <;> rfl

namespace Date

/-! ## Taking a number apart -/

/-- A part count capped at its fourth: less than a part is left over, or one whole part behind the
third. -/
theorem capped_fourth (n : Nat) {part : Nat} (hpart : 0 < part) (hn : n ≤ 4 * part) :
    part * min (n / part) 3 ≤ n ∧ (n - part * min (n / part) 3 < part ∨
      min (n / part) 3 = 3 ∧ n - part * min (n / part) 3 = part) := by
  have hdiv := Nat.div_add_mod n part
  have hmod := Nat.mod_lt n hpart
  rcases Nat.lt_or_ge (n / part) 4 with hlt | hge
  · rw [Nat.min_eq_left (Nat.le_of_lt_succ hlt)]
    omega
  · rw [Nat.min_eq_right (Nat.le_of_succ_le hge)]
    have hfour : 4 * part ≤ n := (Nat.le_div_iff_mul_le hpart).1 hge
    omega

/-- The year found holds the day. -/
theorem splitYear_spec (n : Nat) :
    ∃ year days, splitYear n = (year + 1, days) ∧ daysBeforeYear (year + 1) + days = n ∧
      days < daysInYear (year + 1) := by
  have hn := Nat.div_add_mod n 146097
  have hcycle := Nat.mod_lt n (y := 146097) (by decide)
  simp only [splitYear]
  generalize n / 146097 = cycle at *
  generalize n % 146097 = inCycle at *
  -- The centuries of the 400 years, then the four years of a century, then the years of the four.
  obtain ⟨hcentury, hin⟩ := capped_fourth inCycle (by decide : 0 < 36524) (by omega)
  have hcentury3 := Nat.min_le_right (inCycle / 36524) 3
  generalize min (inCycle / 36524) 3 = century at *
  obtain ⟨inCentury, hrest⟩ : ∃ k, inCycle - 36524 * century = k := ⟨_, rfl⟩
  rw [hrest] at hin ⊢
  have hquad := Nat.div_add_mod inCentury 1461
  have hinQuad := Nat.mod_lt inCentury (y := 1461) (by decide)
  generalize inCentury / 1461 = quad at *
  generalize inCentury % 1461 = inQuad at *
  obtain ⟨hsingle, hday⟩ := capped_fourth inQuad (by decide : 0 < 365) (by omega)
  have hsingle3 := Nat.min_le_right (inQuad / 365) 3
  generalize min (inQuad / 365) 3 = single at *
  have hquad24 : quad ≤ 24 := by omega
  refine ⟨_, _, rfl, ?_, ?_⟩
  · rw [daysBeforeYear_parts hcentury3 hquad24 hsingle3]
    omega
  · rcases hday with hday | ⟨rfl, hday⟩
    · exact Nat.lt_of_lt_of_le hday (le_daysInYear _)
    · -- Day 366 is the last one of four years, and of a century only if that is the fourth.
      have hleap : isLeapYear (400 * cycle + 100 * century + 4 * quad + 3 + 1) = true := by
        refine isLeapYear_iff.2 ⟨by omega, fun h100 => ?_⟩
        have hlast : century = 3 := by omega
        omega
      simp only [daysInYear, hleap, if_true]
      omega

/-- The month found holds the day, as long as the months that are left have so many days. -/
theorem splitMonth_spec (year later month days : Nat)
    (h : daysBeforeMonth year month + days < daysBeforeMonth year (month + later + 1)) :
    ∃ m k, splitMonth year later month days = (m, k + 1) ∧ month ≤ m ∧ m ≤ month + later ∧
      k < daysInMonth year m ∧ daysBeforeMonth year m + k = daysBeforeMonth year month + days := by
  induction later generalizing month days with
  | zero =>
    refine ⟨month, days, rfl, Nat.le_refl _, Nat.le_refl _, ?_, rfl⟩
    simp only [daysBeforeMonth] at h
    omega
  | succ later ih =>
    rw [splitMonth]
    split
    · rename_i hlt
      exact ⟨month, days, rfl, Nat.le_refl _, Nat.le_add_right _ _, hlt, rfl⟩
    · rename_i hge
      have hnext : daysBeforeMonth year (month + 1) =
          daysBeforeMonth year month + daysInMonth year month := rfl
      have hmonth : month + 1 + later + 1 = month + (later + 1) + 1 := by omega
      obtain ⟨m, k, heq, hle, hle', hk, hsum⟩ :=
        ih (month + 1) (days - daysInMonth year month) (by rw [hmonth]; omega)
      exact ⟨m, k, heq, by omega, by omega, hk, by omega⟩

/-! ## Numbers and dates -/

/-- The days of the year before a date are fewer than the days of the year. -/
theorem dayOfYear_lt (d : Date) :
    daysBeforeMonth d.year d.month + (d.day - 1) < daysInYear d.year := by
  have hday := d.one_le_day
  have hday' := d.day_le
  have hnext : daysBeforeMonth d.year (d.month + 1) =
      daysBeforeMonth d.year d.month + daysInMonth d.year d.month := rfl
  have hmonths : daysBeforeMonth d.year (d.month + 1) ≤ daysBeforeMonth d.year 13 :=
    daysBeforeMonth_mono (Nat.succ_le_succ d.month_range.2)
  rw [daysBeforeMonth_thirteen] at hmonths
  omega

/-- **No two dates share a number.** -/
theorem dayNumber_injective {a b : Date} (h : a.dayNumber = b.dayNumber) : a = b := by
  obtain ⟨y, hy⟩ := Nat.exists_eq_add_of_le' a.one_le_year
  obtain ⟨y', hy'⟩ := Nat.exists_eq_add_of_le' b.one_le_year
  have ha := a.dayOfYear_lt
  have hb := b.dayOfYear_lt
  rw [dayNumber, dayNumber, Nat.add_assoc, Nat.add_assoc, hy, hy'] at h
  rw [hy] at ha
  rw [hy'] at hb
  -- The same year, and in it the same month.
  obtain ⟨rfl, hrest⟩ :=
    block_unique (fun i => daysBeforeYear (i + 1)) yearBlock_succ ha hb h
  have hday := a.one_le_day
  have hday' := b.one_le_day
  have hle : a.day - 1 < daysInMonth (y + 1) a.month := by
    have h := a.day_le
    rw [hy] at h
    omega
  have hle' : b.day - 1 < daysInMonth (y + 1) b.month := by
    have h := b.day_le
    rw [hy'] at h
    omega
  obtain ⟨hmonth, hdays⟩ :=
    block_unique (daysBeforeMonth (y + 1)) (fun _ => rfl) hle hle' hrest
  exact Date.ext (hy.trans hy'.symm) hmonth (by omega)

/-- No date has a number greater than the last day. -/
theorem dayNumber_le_last (d : Date) : d.dayNumber ≤ last.dayNumber := by
  have hyear := daysBeforeYear_mono d.year_le
  have hnext := daysBeforeYear_succ d.one_le_year
  have hday := d.dayOfYear_lt
  have hlast : daysBeforeYear (9999 + 1) = last.dayNumber + 1 := by decide
  rw [dayNumber]
  omega

/-- What taking a number apart finds: a month of a year, and a day of the month. -/
theorem ofDayNumber?_spec (n : Nat) :
    ∃ year month day, ofDayNumber? n = make? (year + 1) month (day + 1) ∧
      day < daysInMonth (year + 1) month ∧
      daysBeforeYear (year + 1) + daysBeforeMonth (year + 1) month + day = n := by
  obtain ⟨year, days, hsplit, hsum, hlt⟩ := splitYear_spec n
  have hfirst : daysBeforeMonth (year + 1) 1 = 0 := rfl
  rw [← daysBeforeMonth_thirteen] at hlt
  obtain ⟨month, day, hsplit', -, -, hday, hdays⟩ :=
    splitMonth_spec (year + 1) 11 1 days (by rw [hfirst, Nat.zero_add]; exact hlt)
  refine ⟨year, month, day, ?_, hday, by omega⟩
  simp only [ofDayNumber?, hsplit, hsplit']

/-- Every number up to that of the last day belongs to a date. -/
theorem exists_ofDayNumber? {n : Nat} (h : n ≤ last.dayNumber) :
    ∃ d, ofDayNumber? n = some d ∧ d.dayNumber = n := by
  obtain ⟨year, month, day, hmake, hday, hsum⟩ := ofDayNumber?_spec n
  have hyear : year + 1 ≤ 9999 := by
    refine Nat.le_of_not_lt fun hlt => ?_
    have hend := daysBeforeYear_mono (show 9999 ≤ year by omega)
    have hlast : daysBeforeYear (9999 + 1) = last.dayNumber + 1 := by decide
    omega
  obtain ⟨d, hd⟩ : ∃ d, make? (year + 1) month (day + 1) = some d :=
    ⟨_, dif_pos ⟨by omega, hyear, by omega, hday⟩⟩
  obtain ⟨hyear', hmonth', hday'⟩ := make?_eq_some_iff.1 hd
  refine ⟨d, hmake.trans hd, ?_⟩
  rw [dayNumber, hyear', hmonth', hday', Nat.add_sub_cancel, hsum]

/-- **The numbers of the days.**  A number belongs to a date exactly when taking it apart gives that
date. -/
theorem ofDayNumber?_eq_some_iff {n : Nat} {d : Date} :
    ofDayNumber? n = some d ↔ d.dayNumber = n := by
  constructor
  · intro h
    obtain ⟨year, month, day, hmake, hday, hsum⟩ := ofDayNumber?_spec n
    rw [hmake, make?_eq_some_iff] at h
    obtain ⟨hyear, hmonth, hday'⟩ := h
    rw [dayNumber, hyear, hmonth, hday', Nat.add_sub_cancel, hsum]
  · rintro rfl
    obtain ⟨d', hd', hsame⟩ := exists_ofDayNumber? d.dayNumber_le_last
    rw [hd', dayNumber_injective hsame]

/-- Shifting adds to the number. -/
theorem shift?_eq_some_iff {d d' : Date} {n : Int} :
    d.shift? n = some d' ↔ (d'.dayNumber : Int) = d.dayNumber + n := by
  unfold shift?
  split
  · rename_i m hm
    rw [ofDayNumber?_eq_some_iff, hm, Int.ofNat_eq_natCast]
    omega
  · rename_i m hm
    rw [hm]
    constructor
    · intro h
      cases h
    · intro h
      omega

end Date

end DateCalc
