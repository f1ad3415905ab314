/-
  Values made from parts.

  What is read from a text cannot be wrong: a count is a run of digits, and an anchor that is a date
  has its date.  Parts that come from elsewhere are checked before a value is made of them.  A unit,
  a sign, a half of the day and a kind of anchor must be called by one of their names; a count and a
  number of days must not be negative; and an anchor has a date of its own exactly if its kind asks
  for one.

  Parts that fail a check are refused, and the flaw that is reported says what was found in them.
-/
import DateCalc.ClockTime
import DateCalc.Outcome
import DateCalc.Text.Quoted

namespace DateCalc

/-! ## Flaws -/

/-- How an anchor comes by its day. -/
inductive AnchorKind where
  | today
  | yesterday
  | tomorrow
  | literal
  deriving DecidableEq

/-- The word for a kind of anchor. -/
def AnchorKind.name : AnchorKind → String
  | today => "today"
  | yesterday => "yesterday"
  | tomorrow => "tomorrow"
  | literal => "literal"

/-- Why no value is made of some parts. -/
inductive Flaw where
  /-- Nothing of this sort goes by the name. -/
  | unknownName (name sort : String)
  /-- A period cannot count less than nothing. -/
  | negativeCount (count : Int)
  /-- A literal anchor lacks its date, or one of another kind has a date. -/
  | anchorDate (kind : AnchorKind) (date : Option Date)
  /-- Two days cannot be less than nothing apart. -/
  | negativeDifference (days : Int)
  deriving DecidableEq

/-- Year, month and day of a date, in the form in which a flaw shows them. -/
def Date.partsText (d : Date) : String :=
  let shown (n : Nat) := String.ofList (Text.decimal n)
  "datetime.date(" ++ shown d.year ++ ", " ++ shown d.month ++ ", " ++ shown d.day ++ ")"

/-- What is said about a flaw. -/
def Flaw.message : Flaw → String
  | unknownName name sort => Text.quoted name ++ " is not a valid " ++ sort
  | negativeCount count =>
    "Period count must be non-negative, got " ++ String.ofList (Text.signedDecimal count)
  | anchorDate kind date =>
    "Anchor " ++ kind.name ++ " cannot have value " ++ (date.map Date.partsText).getD "None"
  | negativeDifference days =>
    "Day difference must be non-negative, got " ++ String.ofList (Text.signedDecimal days)

/-- A value made from parts, or why there is none. -/
abbrev FromParts (α : Type) : Type := Except Flaw α

/-! ## Names -/

/-- The one of some values that goes by a name. -/
def called {α : Type} (values : List α) (nameOf : α → String) (sort name : String) : FromParts α :=
  match values.find? fun a => nameOf a == name with
  | some a => .ok a
  | none => .error (.unknownName name sort)

/-- The unit of a name. -/
def CalendarUnit.called (name : String) : FromParts CalendarUnit :=
  DateCalc.called CalendarUnit.all CalendarUnit.name "PeriodUnit" name

/-- The sign that is written so. -/
def Sign.called (name : String) : FromParts Sign :=
  DateCalc.called [.plus, .minus] (fun s => String.singleton s.symbol) "Sign" name

/-- The kind of anchor of a name. -/
def AnchorKind.called (name : String) : FromParts AnchorKind :=
  DateCalc.called [.today, .yesterday, .tomorrow, .literal] AnchorKind.name "AnchorKind" name

/-- The name of a half of the day. -/
def Meridiem.name : Meridiem → String
  | am => "am"
  | pm => "pm"

/-- The half of the day of a name. -/
def Meridiem.called (name : String) : FromParts Meridiem :=
  DateCalc.called [.am, .pm] Meridiem.name "Meridiem" name

/-! ## Values -/

/-- A period of a count that may come from anywhere. -/
def Period.ofParts (unit : CalendarUnit) (count : Int) : FromParts Period :=
  match count with
  | .ofNat n => .ok ⟨unit, n⟩
  | .negSucc _ => .error (.negativeCount count)

/-- An anchor of a kind, with a date or without. -/
def Anchor.ofParts : AnchorKind → Option Date → FromParts Anchor
  | .today, none => .ok .today
  | .yesterday, none => .ok .yesterday
  | .tomorrow, none => .ok .tomorrow
  | .literal, some d => .ok (.literal d)
  | kind, date => .error (.anchorDate kind date)

/-- A difference of a number of days that may come from anywhere. -/
def Outcome.ofDays (days : Int) : FromParts Outcome :=
  match days with
  | .ofNat n => .ok (.difference n)
  | .negSucc _ => .error (.negativeDifference days)

/-! ## What is accepted -/

/-- **What a name stands for goes by that name.** -/
theorem called_eq_ok {α : Type} {values : List α} {nameOf : α → String} {sort name : String}
    {a : α} (h : called values nameOf sort name = .ok a) : a ∈ values ∧ nameOf a = name := by
  unfold called at h
  split at h
  · rename_i found hfound
    cases h
    exact ⟨List.mem_of_find?_eq_some hfound, by simpa using List.find?_some hfound⟩
  · cases h

/-- A name is refused exactly if nothing of the sort goes by it, and that name is shown. -/
theorem called_eq_error_iff {α : Type} {values : List α} {nameOf : α → String} {sort name : String}
    {r : Flaw} : called values nameOf sort name = .error r ↔
      (∀ a ∈ values, nameOf a ≠ name) ∧ r = .unknownName name sort := by
  unfold called
  split
  · rename_i found hfound
    have hname : nameOf found = name := by simpa using List.find?_some hfound
    refine ⟨nofun, fun ⟨hnone, _⟩ => ?_⟩
    exact absurd hname (hnone found (List.mem_of_find?_eq_some hfound))
  · rename_i hnone
    have hnone : ∀ a ∈ values, nameOf a ≠ name := by simpa using hnone
    exact ⟨fun h => ⟨hnone, by cases h; rfl⟩, fun ⟨_, h⟩ => by rw [h]⟩

/-- **A period is made exactly of a count that is not negative**, and it has that count. -/
theorem Period.ofParts_eq_ok_iff {unit : CalendarUnit} {count : Int} {p : Period} :
    Period.ofParts unit count = .ok p ↔ p.unit = unit ∧ (p.count : Int) = count := by
  obtain ⟨u, c⟩ := p
  cases count with
  | ofNat n =>
    show (.ok ⟨unit, n⟩ : FromParts Period) = .ok ⟨u, c⟩ ↔ u = unit ∧ (c : Int) = n
    rw [Except.ok.injEq, Period.mk.injEq, Int.natCast_inj, eq_comm, @eq_comm _ n]
  | negSucc n =>
    refine ⟨nofun, fun ⟨_, h⟩ => ?_⟩
    exact absurd h (by simp)

/-- The kind of an anchor and its own date, of which it was made. -/
def Anchor.parts : Anchor → AnchorKind × Option Date
  | .today => (.today, none)
  | .yesterday => (.yesterday, none)
  | .tomorrow => (.tomorrow, none)
  | .literal d => (.literal, some d)

/-- The word for an anchor is the name of its kind. -/
theorem Anchor.name_parts (a : Anchor) : a.parts.1.name = a.kind := by
  cases a <;> rfl

/-- **An anchor is made exactly of its own kind and date.** -/
theorem Anchor.ofParts_eq_ok_iff {kind : AnchorKind} {date : Option Date} {a : Anchor} :
    Anchor.ofParts kind date = .ok a ↔ a.parts = (kind, date) := by
  cases kind <;> cases date <;> cases a <;> simp [Anchor.ofParts, Anchor.parts, eq_comm]

/-- The parts of an anchor are refused exactly if it should have a date and has none, or has one and
should not. -/
theorem Anchor.ofParts_eq_error_iff {kind : AnchorKind} {date : Option Date} {r : Flaw} :
    Anchor.ofParts kind date = .error r ↔
      (kind = .literal ↔ date = none) ∧ r = .anchorDate kind date := by
  cases kind <;> cases date <;> simp [Anchor.ofParts, eq_comm]

/-- **A difference is made exactly of a number of days that is not negative**, and comes to it. -/
theorem Outcome.ofDays_eq_ok_iff {days : Int} {o : Outcome} :
    Outcome.ofDays days = .ok o ↔ ∃ n : Nat, (n : Int) = days ∧ o = .difference n := by
  cases days with
  | ofNat n =>
    show (.ok (.difference n) : FromParts Outcome) = .ok o ↔ _
    refine ⟨fun h => ⟨n, rfl, by cases h; rfl⟩, fun ⟨m, hm, ho⟩ => ?_⟩
    obtain rfl := Int.ofNat.inj hm
    rw [ho]
  | negSucc n =>
    refine ⟨nofun, fun ⟨m, hm, _⟩ => ?_⟩
    cases hm

example : (Flaw.anchorDate .today (some Date.first)).message =
    "Anchor today cannot have value datetime.date(1, 1, 1)" := by decide

end DateCalc
