/-
  A difference is the shift that makes it up.

  The difference of two anchors is a number of days without direction, so it does not matter which
  of them comes first.  It is the one count that carries the earlier day to the later one when it is
  added, and the later day to the earlier one when it is subtracted: what two dates have between
  them and what moves one of them are the same days, over leap years and centuries and up to either
  end of the calendar.
-/
import DateCalc.Proofs.Calendar.Order
import DateCalc.Proofs.Evaluation

namespace DateCalc.Expression

/-- Two anchors that stand for days have a difference, which is the distance of these days. -/
theorem evaluate?_difference {today d d' : Date} {a b : Anchor} (ha : a.resolve? today = some d)
    (hb : b.resolve? today = some d') :
    evaluate? today (.difference a b) = some (.difference (d.distance d')) := by
  rw [evaluate?, ha, hb]
  rfl

/-- One shift of an anchor comes to a date exactly when its days lead there from the anchor's. -/
theorem evaluate?_shifted_iff {today d d' : Date} {a : Anchor} {s : Shift}
    (ha : a.resolve? today = some d) :
    evaluate? today (.shifted a s []) = some (.date d') ↔ d.shift? s.dayCount = some d' := by
  have hroute : route? (.shifted a s []) = some (a, [s]) := rfl
  have hmove : Shift.moveAll? [s] d = d.shift? s.dayCount := by
    rw [← Date.walk?_eq_shift?, ← Shift.move?_eq_walk?]
    exact Option.bind_fun_some _
  rw [evaluate?_of_route hroute, ← Anchor.resolve?_eq_start?, ha, Option.bind_some, hmove,
    Option.map_eq_some_iff]
  simp only [Outcome.date.injEq, exists_eq_right]

/-- A shift by a number of days counts so many. -/
theorem dayCount_days (n : Nat) : Shift.dayCount ⟨.plus, ⟨.day, n⟩⟩ = n ∧
    Shift.dayCount ⟨.minus, ⟨.day, n⟩⟩ = -(n : Int) := by
  constructor
  · exact Int.one_mul n
  · exact congrArg Neg.neg (Int.one_mul n)

/-- **Differences and shifts agree.**  Two anchors that stand for days have the same difference
either way round, which is zero only for the same day.  So many days added to the second anchor come
to the day of the first one, and so many subtracted from the first one come to the day of the
second, exactly when the first day is no earlier. -/
theorem difference_agrees_with_shifts {today d d' : Date} {a b : Anchor}
    (ha : a.resolve? today = some d) (hb : b.resolve? today = some d') :
    ∃ n, evaluate? today (.difference a b) = some (.difference n) ∧
      evaluate? today (.difference b a) = some (.difference n) ∧ (n = 0 ↔ d = d') ∧
      (evaluate? today (.shifted b ⟨.plus, ⟨.day, n⟩⟩ []) = some (.date d) ↔ d' ≤ d) ∧
      (evaluate? today (.shifted a ⟨.minus, ⟨.day, n⟩⟩ []) = some (.date d') ↔ d' ≤ d) := by
  obtain ⟨hplus, hminus⟩ := dayCount_days (d.distance d')
  refine ⟨d.distance d', evaluate?_difference ha hb, ?_, Date.distance_eq_zero_iff, ?_, ?_⟩
  · rw [Date.distance_comm]
    exact evaluate?_difference hb ha
  · rw [evaluate?_shifted_iff hb, hplus]
    exact Date.shift?_distance_iff
  · rw [evaluate?_shifted_iff ha, hminus]
    exact Date.shift?_neg_distance_iff

/-- The day after February 28 of a century without a leap day, and the leap day of the next century:
the earlier one is the first anchor in one difference and the second in the other. -/
theorem difference_agrees_with_shifts_leap_day :
    let today : Date := ⟨1900, 2, 28, by decide, by decide, by decide, by decide⟩
    let march : Date := ⟨1900, 3, 1, by decide, by decide, by decide, by decide⟩
    let leap : Date := ⟨2000, 2, 29, by decide, by decide, by decide, by decide⟩
    Anchor.resolve? today .tomorrow = some march ∧ march ≤ leap ∧
      ∃ n, evaluate? today (.difference (.literal leap) .tomorrow) = some (.difference n) ∧
        evaluate? today (.difference .tomorrow (.literal leap)) = some (.difference n) ∧
        (n = 0 ↔ leap = march) ∧
        (evaluate? today (.shifted .tomorrow ⟨.plus, ⟨.day, n⟩⟩ []) = some (.date leap) ↔
          march ≤ leap) ∧
        (evaluate? today (.shifted (.literal leap) ⟨.minus, ⟨.day, n⟩⟩ []) = some (.date march) ↔
          march ≤ leap) := by
  intro today march leap
  have hmarch : Anchor.resolve? today .tomorrow = some march := by decide
  exact ⟨hmarch, by decide, difference_agrees_with_shifts rfl hmarch⟩

end DateCalc.Expression
