/-
  Evaluation is a walk through the calendar.

  An expression that comes to a day starts on one and counts days forth and back, so many for each of
  its shifts (`Expression.route?`).  Behind each shift stands a running date: the day that so many
  single steps away from the start are (`daysAfter`).  Evaluation gives a day exactly when all running
  dates are days of the calendar, and then it gives the last of them; in all other cases it gives
  nothing.

  The limit on the length of a period makes no difference, because a period beyond it is longer than
  the calendar.
-/
import DateCalc.Outcome
import DateCalc.Proofs.Calendar.Walks

namespace DateCalc

/-! ## Counting days -/

/-- The days that a shift counts, whatever their number is. -/
def Shift.dayCount (s : Shift) : Int :=
  match s.sign with
  | .plus => s.period.unit.days * s.period.count
  | .minus => -(s.period.unit.days * s.period.count)

/-- The days counted by the first so many shifts. -/
def daysAfter : List Shift → Nat → Int
  | s :: shifts, k + 1 => s.dayCount + daysAfter shifts k
  | [], _ | _, 0 => 0

theorem daysAfter_zero (shifts : List Shift) : daysAfter shifts 0 = 0 := by
  cases shifts <;> rfl

theorem daysAfter_cons (s : Shift) (shifts : List Shift) (k : Nat) :
    daysAfter (s :: shifts) (k + 1) = s.dayCount + daysAfter shifts k := rfl

/-! ## Shifts -/

namespace Shift

/-- A shift moves a date by its days, one step after the other. -/
theorem move?_eq_walk? (s : Shift) (d : Date) : s.move? d = Date.walk? s.dayCount d := by
  obtain ⟨sign, period⟩ := s
  rw [Date.walk?_eq_shift?]
  by_cases hle : period.unit.days * period.count ≤ Period.longest
  · cases sign <;> simp [move?, days?, Period.days?, hle, dayCount]
  · -- The calendar is shorter than the longest period.
    have hnone : ∀ d', d.shift? (dayCount ⟨sign, period⟩) ≠ some d' := by
      intro d' hd'
      rw [Date.shift?_eq_some_iff] at hd'
      have hlast := d.dayNumber_le_last
      have hlast' := d'.dayNumber_le_last
      have hnumber : Date.last.dayNumber ≤ Period.longest := by decide
      cases sign <;> simp only [dayCount] at hd' <;> omega
    rw [Option.eq_none_iff_forall_ne_some.2 hnone]
    simp [move?, days?, Period.days?, hle]

/-- **Shifts in a row** lead to a day exactly when each running date is there, and then to the last
one; by induction on the shifts, since a walk can be broken behind the first of them. -/
theorem moveAll?_eq_some_iff {shifts : List Shift} {start d : Date} :
    moveAll? shifts start = some d ↔
      (∀ k ≤ shifts.length, ∃ r, Date.walk? (daysAfter shifts k) start = some r) ∧
        Date.walk? (daysAfter shifts shifts.length) start = some d := by
  induction shifts generalizing start with
  | nil =>
    constructor
    · intro h
      refine ⟨fun k hk => ?_, h⟩
      obtain rfl : k = 0 := Nat.le_zero.1 hk
      exact ⟨start, rfl⟩
    · rintro ⟨-, h⟩
      exact h
  | cons s shifts ih =>
    rw [moveAll?, move?_eq_walk?, Option.bind_eq_some_iff, List.length_cons, daysAfter_cons]
    constructor
    · rintro ⟨mid, hmid, hrest⟩
      obtain ⟨hall, hlast⟩ := ih.1 hrest
      refine ⟨fun k hk => ?_, (Date.walk?_add hmid).trans hlast⟩
      cases k with
      | zero => exact ⟨start, rfl⟩
      | succ k =>
        rw [daysAfter_cons, Date.walk?_add hmid]
        exact hall k (Nat.le_of_succ_le_succ hk)
    · rintro ⟨hall, hlast⟩
      -- The first running date is where the walk is broken.
      obtain ⟨mid, hmid⟩ := hall 1 (Nat.succ_le_succ (Nat.zero_le _))
      rw [daysAfter_cons, daysAfter_zero, Int.add_zero] at hmid
      refine ⟨mid, hmid, ih.2 ⟨fun k hk => ?_, (Date.walk?_add hmid).symm.trans hlast⟩⟩
      obtain ⟨r, hr⟩ := hall (k + 1) (Nat.succ_le_succ hk)
      rw [daysAfter_cons, Date.walk?_add hmid] at hr
      exact ⟨r, hr⟩

end Shift

/-! ## Starting days -/

/-- The day an anchor stands for: today, one of its neighbours, or a date of its own. -/
def Anchor.start? (today : Date) : Anchor → Option Date
  | .today => some today
  | .yesterday => today.previous?
  | .tomorrow => today.next?
  | .literal date => some date

/-- An anchor stands for the day that is reached from the reference date by single steps. -/
theorem Anchor.resolve?_eq_start? (today : Date) (a : Anchor) :
    a.resolve? today = a.start? today := by
  cases a with
  | today => rfl
  | yesterday =>
    show today.shift? (-1) = today.previous?
    rw [← Date.walk?_eq_shift?]
    exact Option.bind_fun_some _
  | tomorrow =>
    show today.shift? 1 = today.next?
    rw [← Date.walk?_eq_shift?]
    exact Option.bind_fun_some _
  | literal date => rfl

/-! ## Expressions -/

namespace Expression

/-- Where an expression starts and what it counts from there, if it comes to a day.  The base of a
period chain is counted from today. -/
def route? : Expression → Option (Anchor × List Shift)
  | anchor a => some (a, [])
  | shifted a first more => some (a, first :: more)
  | chain base shifts => some (.today, ⟨.plus, base⟩ :: shifts)
  | difference _ _ => none

/-- Every running date of a route is a day of the calendar. -/
def RunsInside (today : Date) (a : Anchor) (shifts : List Shift) : Prop :=
  ∃ start, a.start? today = some start ∧
    ∀ k ≤ shifts.length, ∃ r, Date.walk? (daysAfter shifts k) start = some r

/-- Evaluation follows the route. -/
theorem evaluate?_of_route {today : Date} {e : Expression} {a : Anchor} {shifts : List Shift}
    (h : e.route? = some (a, shifts)) :
    e.evaluate? today = ((a.start? today).bind (Shift.moveAll? shifts)).map .date := by
  cases e with
  | anchor b =>
    cases h
    rw [evaluate?, Anchor.resolve?_eq_start?]
    exact congrArg _ (Option.bind_fun_some _).symm
  | shifted b first more =>
    cases h
    rw [evaluate?, Anchor.resolve?_eq_start?, Option.map_eq_bind, Option.bind_assoc]
    rfl
  | chain base more =>
    cases h
    show _ = (Option.bind (some today) (Shift.moveAll? (⟨.plus, base⟩ :: more))).map _
    rw [evaluate?, Option.bind_some, Shift.moveAll?, Option.map_eq_bind, Option.bind_assoc]
    rfl
  | difference b c => cases h

/-- **Evaluation is exact.**  An expression that comes to a day comes to the one that its shifts walk
to from its start, one day at a time, and it does so exactly when every running date on the way is a
day of the calendar.  If one is not, evaluation has no result. -/
theorem evaluate?_iff_runsInside {today : Date} {e : Expression} {a : Anchor}
    {shifts : List Shift} (h : e.route? = some (a, shifts)) :
    (∀ d, e.evaluate? today = some (.date d) ↔
      RunsInside today a shifts ∧ ∃ start, a.start? today = some start ∧
        Date.walk? (daysAfter shifts shifts.length) start = some d) ∧
    (e.evaluate? today = none ↔ ¬ RunsInside today a shifts) := by
  have hdate : ∀ d, e.evaluate? today = some (.date d) ↔
      RunsInside today a shifts ∧ ∃ start, a.start? today = some start ∧
        Date.walk? (daysAfter shifts shifts.length) start = some d := by
    intro d
    rw [evaluate?_of_route h]
    simp only [Option.map_eq_some_iff, Option.bind_eq_some_iff, Outcome.date.injEq,
      exists_eq_right, Shift.moveAll?_eq_some_iff]
    constructor
    · rintro ⟨start, hstart, hall, hlast⟩
      exact ⟨⟨start, hstart, hall⟩, start, hstart, hlast⟩
    · rintro ⟨⟨start, hstart, hall⟩, start', hstart', hlast⟩
      obtain rfl : start = start' := Option.some.inj (hstart.symm.trans hstart')
      exact ⟨start, hstart, hall, hlast⟩
  refine ⟨hdate, ?_⟩
  constructor
  · rintro hnone ⟨start, hstart, hall⟩
    -- The last running date is one of them.
    obtain ⟨d, hd⟩ := hall shifts.length (Nat.le_refl _)
    have hsome := (hdate d).2 ⟨⟨start, hstart, hall⟩, start, hstart, hd⟩
    rw [hnone] at hsome
    cases hsome
  · intro hout
    rw [evaluate?_of_route h, Option.map_eq_none_iff]
    refine Option.eq_none_iff_forall_ne_some.2 fun d hd => hout ?_
    have hsome : e.evaluate? today = some (.date d) := by
      rw [evaluate?_of_route h, hd, Option.map_some]
    exact ((hdate d).1 hsome).1

/-- On the last day, a day after yesterday is the last day, but two weeks forth and back lead out of
the calendar. -/
theorem evaluate?_iff_runsInside_last :
    (RunsInside .last .yesterday [⟨.plus, ⟨.day, 1⟩⟩] ∧
      ∃ start, Anchor.start? .last .yesterday = some start ∧
        Date.walk? 1 start = some .last) ∧
    ¬ RunsInside .last .yesterday [⟨.plus, ⟨.week, 2⟩⟩, ⟨.minus, ⟨.week, 2⟩⟩] := by
  have hday : route? (.shifted .yesterday ⟨.plus, ⟨.day, 1⟩⟩ []) = some (_, _) := rfl
  have hweeks : route? (.shifted .yesterday ⟨.plus, ⟨.week, 2⟩⟩ [⟨.minus, ⟨.week, 2⟩⟩]) =
      some (_, _) := rfl
  exact ⟨((evaluate?_iff_runsInside hday).1 _).1 (by decide),
    (evaluate?_iff_runsInside hweeks).2.1 (by decide)⟩

end Expression

end DateCalc
