/-
  The order of the dates.

  Of two dates the year decides which one is earlier, then the month, then the day.  No count of
  days enters into this comparison, and yet it agrees with the numbers of the days: a year is over
  before the next one starts, and so is a month.

  So the distance of two dates is the number of days that lead from the earlier one to the later
  one, and back again.
-/
import DateCalc.Proofs.Calendar.Numbering

namespace DateCalc.Date

/-! ## Comparison -/

/-- A date is no later than another one: the year decides, then the month, then the day. -/
instance : LE Date where
  le a b := a.year < b.year ∨
    a.year = b.year ∧ (a.month < b.month ∨ a.month = b.month ∧ a.day ≤ b.day)

theorem le_def {a b : Date} : a ≤ b ↔ a.year < b.year ∨
    a.year = b.year ∧ (a.month < b.month ∨ a.month = b.month ∧ a.day ≤ b.day) :=
  Iff.rfl

instance (a b : Date) : Decidable (a ≤ b) := decidable_of_iff _ le_def.symm

theorem le_refl (a : Date) : a ≤ a := by
  rw [le_def]
  omega

theorem le_total (a b : Date) : a ≤ b ∨ b ≤ a := by
  rw [le_def, le_def]
  omega

/-! ## Comparison and numbers -/

/-- A year is over before a later one starts. -/
theorem dayNumber_lt_of_year_lt {a b : Date} (h : a.year < b.year) :
    a.dayNumber < b.dayNumber := by
  have hday := a.dayOfYear_lt
  have hnext := daysBeforeYear_succ a.one_le_year
  obtain ⟨y, hy⟩ := Nat.exists_eq_add_of_le' b.one_le_year
  have hstart : daysBeforeYear (a.year + 1) ≤ daysBeforeYear b.year := by
    rw [hy]
    apply daysBeforeYear_mono
    omega
  show daysBeforeYear a.year + daysBeforeMonth a.year a.month + (a.day - 1) <
    daysBeforeYear b.year + daysBeforeMonth b.year b.month + (b.day - 1)
  omega

/-- Within a year, a month is over before a later one starts. -/
theorem dayNumber_lt_of_month_lt {a b : Date} (hyear : a.year = b.year)
    (h : a.month < b.month) : a.dayNumber < b.dayNumber := by
  have hone := a.one_le_day
  have hday := a.day_le
  have hnext : daysBeforeMonth a.year (a.month + 1) =
      daysBeforeMonth a.year a.month + daysInMonth a.year a.month := rfl
  have hstart : daysBeforeMonth a.year (a.month + 1) ≤ daysBeforeMonth a.year b.month :=
    daysBeforeMonth_mono h
  rw [dayNumber, dayNumber, ← hyear]
  omega

/-- A later date has a greater number. -/
theorem dayNumber_le_of_le {a b : Date} (h : a ≤ b) : a.dayNumber ≤ b.dayNumber := by
  rw [le_def] at h
  rcases h with hyear | ⟨hyear, hmonth | ⟨hmonth, hday⟩⟩
  · exact Nat.le_of_lt (dayNumber_lt_of_year_lt hyear)
  · exact Nat.le_of_lt (dayNumber_lt_of_month_lt hyear hmonth)
  · rw [dayNumber, dayNumber, hyear, hmonth]
    omega

/-- **The comparison of dates is that of their numbers.** -/
theorem le_iff_dayNumber_le {a b : Date} : a ≤ b ↔ a.dayNumber ≤ b.dayNumber := by
  constructor
  · exact dayNumber_le_of_le
  · intro h
    rcases le_total a b with hle | hle
    · exact hle
    · -- Both ways round the numbers are the same, and then so are the dates.
      have hsame := Nat.le_antisymm h (dayNumber_le_of_le hle)
      rw [dayNumber_injective hsame]
      exact le_refl b

example : first ≤ last ∧ ¬ last ≤ first := by decide

/-! ## Distances -/

theorem distance_comm (a b : Date) : a.distance b = b.distance a := by
  unfold distance
  omega

/-- Only a date itself is no days away. -/
theorem distance_eq_zero_iff {a b : Date} : a.distance b = 0 ↔ a = b := by
  unfold distance
  constructor
  · intro h
    apply dayNumber_injective
    omega
  · rintro rfl
    omega

/-- The distance leads forth to the other date exactly when that one is no earlier. -/
theorem shift?_distance_iff {a b : Date} : b.shift? (a.distance b) = some a ↔ b ≤ a := by
  rw [shift?_eq_some_iff, le_iff_dayNumber_le, distance]
  omega

/-- The distance leads back to the other date exactly when that one is no later. -/
theorem shift?_neg_distance_iff {a b : Date} :
    a.shift? (-(a.distance b : Int)) = some b ↔ b ≤ a := by
  rw [shift?_eq_some_iff, le_iff_dayNumber_le, distance]
  omega

end DateCalc.Date
