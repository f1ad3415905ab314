/-
  Walks through the calendar, one day at a time.

  A walk of some days steps from a day to the next one that often, or to the day before when the
  count is negative.  It has no end when one of its steps leaves the calendar.  Walking is the plain
  meaning of adding days to a date; shifting a date through its number comes to the same day, or to
  none, whatever the count is.
-/
import DateCalc.Proofs.Calendar.Numbering

namespace DateCalc.Date

/-! ## Single steps -/

/-- Behind the last day of a month comes the first of the next month. -/
theorem dayNumber_of_month_end {d : Date} (h : ¬ d.day < daysInMonth d.year d.month) :
    d.dayNumber + 1 = daysBeforeYear d.year + daysBeforeMonth d.year (d.month + 1) := by
  have hone := d.one_le_day
  have hle := d.day_le
  have hnext : daysBeforeMonth d.year (d.month + 1) =
      daysBeforeMonth d.year d.month + daysInMonth d.year d.month := rfl
  rw [dayNumber]
  omega

/-- Behind the last day of a year comes the first of the next year. -/
theorem dayNumber_of_year_end {d : Date} (h : ¬ d.day < daysInMonth d.year d.month)
    (h12 : ¬ d.month < 12) : d.dayNumber + 1 = daysBeforeYear (d.year + 1) := by
  have hmonth : d.month = 12 := by
    have hrange := d.month_range
    omega
  rw [dayNumber_of_month_end h, hmonth, daysBeforeMonth_thirteen,
    daysBeforeYear_succ d.one_le_year]

/-- The next day has the next number, also over the end of a month or a year. -/
theorem dayNumber_of_next? {d d' : Date} (h : d.next? = some d') :
    d'.dayNumber = d.dayNumber + 1 := by
  unfold next? at h
  split at h
  · obtain ⟨hyear, hmonth, hday⟩ := make?_eq_some_iff.1 h
    have hone := d.one_le_day
    rw [dayNumber, dayNumber, hyear, hmonth, hday]
    omega
  · rename_i hend
    split at h
    · obtain ⟨hyear, hmonth, hday⟩ := make?_eq_some_iff.1 h
      rw [dayNumber_of_month_end hend, dayNumber, hyear, hmonth, hday]
      rfl
    · rename_i h12
      obtain ⟨hyear, hmonth, hday⟩ := make?_eq_some_iff.1 h
      rw [dayNumber_of_year_end hend h12, dayNumber, hyear, hmonth, hday]
      rfl

/-- Only the last day of the calendar has no next day. -/
theorem exists_next? {d : Date} (h : d.dayNumber < last.dayNumber) :
    ∃ d', d.next? = some d' := by
  have hyear := d.year_le
  have hone := d.one_le_year
  have hday := d.one_le_day
  unfold next?
  split
  · rename_i hlt
    exact ⟨_, dif_pos ⟨hone, hyear, by omega, hlt⟩⟩
  · rename_i hend
    split
    · have hmonth : 1 ≤ daysInMonth d.year (d.month + 1) :=
        one_le_daysInMonth (Nat.succ_pos d.month) (by omega)
      exact ⟨_, dif_pos ⟨hone, hyear, Nat.le_refl 1, hmonth⟩⟩
    · rename_i h12
      have hnext := dayNumber_of_year_end hend h12
      have hlast : daysBeforeYear (9999 + 1) = last.dayNumber + 1 := by decide
      -- December 31 of the last year would have the number of the last day.
      have hne : d.year ≠ 9999 := by
        intro heq
        rw [heq] at hnext
        omega
      exact ⟨_, dif_pos ⟨by omega, by omega, Nat.le_refl 1, (by decide : 1 ≤ 31)⟩⟩

/-- The next day is the day with the next number. -/
theorem next?_eq_some_iff {d d' : Date} :
    d.next? = some d' ↔ d'.dayNumber = d.dayNumber + 1 := by
  constructor
  · exact dayNumber_of_next?
  · intro h
    have hle := d'.dayNumber_le_last
    obtain ⟨d'', hd''⟩ := exists_next? (d := d) (by omega)
    have hsame := dayNumber_of_next? hd''
    rw [hd'', dayNumber_injective (hsame.trans h.symm)]

/-- The day before has the number before, also over the start of a month or a year. -/
theorem dayNumber_of_previous? {d d' : Date} (h : d.previous? = some d') :
    d'.dayNumber + 1 = d.dayNumber := by
  unfold previous? at h
  split at h
  · obtain ⟨hyear, hmonth, hday⟩ := make?_eq_some_iff.1 h
    rw [dayNumber, dayNumber, hyear, hmonth, hday]
    omega
  · have hone := d.one_le_day
    split at h
    · obtain ⟨hyear, hmonth, hday⟩ := make?_eq_some_iff.1 h
      have hend : ¬ d'.day < daysInMonth d'.year d'.month := by
        rw [hyear, hmonth, hday]
        exact Nat.lt_irrefl _
      rw [dayNumber_of_month_end hend, dayNumber, hyear, hmonth,
        Nat.sub_add_cancel d.month_range.1]
      omega
    · obtain ⟨hyear, hmonth, hday⟩ := make?_eq_some_iff.1 h
      have hend : ¬ d'.day < daysInMonth d'.year d'.month := by
        rw [hyear, hmonth, hday]
        exact Nat.lt_irrefl _
      have h12 : ¬ d'.month < 12 := by
        rw [hmonth]
        exact Nat.lt_irrefl _
      have hfirst : d.month = 1 := by
        have hrange := d.month_range
        omega
      have hzero : daysBeforeMonth d.year 1 = 0 := rfl
      rw [dayNumber_of_year_end hend h12, dayNumber, hyear, hfirst, hzero,
        Nat.sub_add_cancel d.one_le_year]
      omega

/-- Only the first day of the calendar has no day before it. -/
theorem exists_previous? {d : Date} (h : 0 < d.dayNumber) : ∃ d', d.previous? = some d' := by
  have hyear := d.year_le
  have hone := d.one_le_year
  have hday := d.one_le_day
  have hday' := d.day_le
  unfold previous?
  split
  · exact ⟨_, dif_pos ⟨hone, hyear, by omega, by omega⟩⟩
  · split
    · have hrange := d.month_range
      have hmonth : 1 ≤ daysInMonth d.year (d.month - 1) :=
        one_le_daysInMonth (by omega) (by omega)
      exact ⟨_, dif_pos ⟨hone, hyear, hmonth, Nat.le_refl _⟩⟩
    · have hfirst : d.month = 1 := by
        have hrange := d.month_range
        omega
      -- January 1 of the first year would have the number 0.
      have hne : d.year ≠ 1 := by
        intro heq
        have hzero : daysBeforeYear 1 + daysBeforeMonth 1 1 = 0 := rfl
        rw [dayNumber, heq, hfirst] at h
        omega
      exact ⟨_, dif_pos ⟨by omega, by omega, by decide, (by decide : 31 ≤ 31)⟩⟩

/-- The day before is the day with the number before. -/
theorem previous?_eq_some_iff {d d' : Date} :
    d.previous? = some d' ↔ d'.dayNumber + 1 = d.dayNumber := by
  constructor
  · exact dayNumber_of_previous?
  · intro h
    obtain ⟨d'', hd''⟩ := exists_previous? (d := d) (by omega)
    have hsame := dayNumber_of_previous? hd''
    rw [hd'', dayNumber_injective (show d'.dayNumber = d''.dayNumber by omega)]

/-! ## Walks -/

/-- A partial step, taken so many times. -/
def steps? (step : Date → Option Date) : Nat → Date → Option Date
  | 0, d => some d
  | n + 1, d => (step d).bind (steps? step n)

/-- The day that a number of single steps leads to: to the next day, or to the day before when the
number is negative. -/
def walk? : Int → Date → Option Date
  | .ofNat n => steps? next? n
  | .negSucc n => steps? previous? (n + 1)

/-- Single steps that change the number by one way change it by their count, by induction on the
count: the day after the first step is there, since its number lies between two others. -/
theorem steps?_eq_some_iff (step : Date → Option Date) (way : Int) (hway : way = 1 ∨ way = -1)
    (hstep : ∀ {d d' : Date}, step d = some d' ↔ (d'.dayNumber : Int) = d.dayNumber + way)
    {n : Nat} {d d' : Date} :
    steps? step n d = some d' ↔ (d'.dayNumber : Int) = d.dayNumber + way * n := by
  induction n generalizing d with
  | zero =>
    rw [steps?, Option.some.injEq]
    constructor
    · rintro rfl
      omega
    · intro h
      exact dayNumber_injective (by omega)
  | succ n ih =>
    rw [steps?, Option.bind_eq_some_iff]
    constructor
    · rintro ⟨mid, hmid, hrest⟩
      rw [hstep] at hmid
      rw [ih] at hrest
      rcases hway with rfl | rfl <;> omega
    · intro h
      have hle := d.dayNumber_le_last
      have hle' := d'.dayNumber_le_last
      -- The number after the first step lies between those of the two ends.
      obtain ⟨mid, -, hmid⟩ := exists_ofDayNumber? (n := ((d.dayNumber : Int) + way).toNat)
        (by rcases hway with rfl | rfl <;> omega)
      refine ⟨mid, hstep.2 ?_, ih.2 ?_⟩
      · rcases hway with rfl | rfl <;> omega
      · rcases hway with rfl | rfl <;> omega

/-- **A walk adds its count to the number of the day.** -/
theorem walk?_eq_some_iff {n : Int} {d d' : Date} :
    walk? n d = some d' ↔ (d'.dayNumber : Int) = d.dayNumber + n := by
  cases n with
  | ofNat n =>
    have h : steps? next? n d = some d' ↔ (d'.dayNumber : Int) = d.dayNumber + 1 * n :=
      steps?_eq_some_iff next? 1 (Or.inl rfl) (by intro d d'; rw [next?_eq_some_iff]; omega)
    rw [walk?, h, Int.one_mul, Int.ofNat_eq_natCast]
  | negSucc n =>
    have h : steps? previous? (n + 1) d = some d' ↔
        (d'.dayNumber : Int) = d.dayNumber + -1 * (n + 1 : Nat) :=
      steps?_eq_some_iff previous? (-1) (Or.inr rfl)
        (by intro d d'; rw [previous?_eq_some_iff]; omega)
    rw [walk?, h]
    omega

/-- Walking and shifting lead to the same day. -/
theorem walk?_eq_shift? (n : Int) (d : Date) : walk? n d = d.shift? n :=
  Option.ext fun _ => walk?_eq_some_iff.trans shift?_eq_some_iff.symm

/-- A walk can be broken at any day it leads to. -/
theorem walk?_add {m n : Int} {d mid : Date} (h : walk? m d = some mid) :
    walk? (m + n) d = walk? n mid := by
  refine Option.ext fun d' => ?_
  rw [walk?_eq_some_iff] at h
  rw [walk?_eq_some_iff, walk?_eq_some_iff]
  omega

end DateCalc.Date
