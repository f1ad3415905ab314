/-
  The five forms of a clock time, and what each of them denotes.

    HHMM                         hour 0 to 23
    H _ suffix                   hour 1 to 12, in one or two digits
    H :? MM _ suffix
    H :? MM                      hour 0 to 23, in one or two digits
    H : MM : SS _ suffix

  The forms say nothing about the order in which they are tried, or how many digits an hour takes
  away from a minute.  Two statements tie them to the reading: what is consumed of any text has one
  of the forms and is read as the time it denotes, and a text that has one of them with its colons
  written is read in full.

  Where the colon is left out the second statement fails: an hour may then take a digit of the
  minute, or military time all four, and the suffix is left over.
-/
import DateCalc.Proofs.Grammar.ClockTimes

namespace DateCalc

/-- What was read, and what was left over. -/
def Parsed.reading? {α : Type} : Parsed α → Option (α × List Char)
  | full a => some (a, [])
  | leaving a remaining => some (a, remaining)
  | failed _ => none

/-- The value and the rest of a rule are the reading of its text. -/
theorem Rule.reading?_parse_eq_some_iff {α : Type} {r : Rule α} {text rest : List Char} {a : α} :
    (r.parse text).reading? = some (a, rest) ↔ r text = .ok (a, rest) := by
  unfold parse
  split
  · rename_i h
    simp [Parsed.reading?, h]
  · rename_i h
    simp [Parsed.reading?, h]
  · rename_i h
    simp [Parsed.reading?, h]

namespace Grammar

open Rule Token

/-! ## Hours of the day -/

/-- The hour of 24 that an hour of 12 denotes in one half of the day.  The twelfth hour comes first:
it is midnight in the morning, and noon in the afternoon. -/
inductive HourOfDay : Nat → Meridiem → Nat → Prop where
  | midnight : HourOfDay 12 .am 0
  | morning {hour : Nat} : 1 ≤ hour → hour ≤ 11 → HourOfDay hour .am hour
  | noon : HourOfDay 12 .pm 12
  | afternoon {hour : Nat} : 1 ≤ hour → hour ≤ 11 → HourOfDay hour .pm (hour + 12)

/-- The two halves of the day are told apart as the clock does it. -/
theorem hourOfDay_hourOf (half : Meridiem) (hour : Bounded 1 12) :
    HourOfDay hour.val half (half.hourOf hour).val := by
  obtain ⟨n, hlow, hhigh⟩ := hour
  show HourOfDay n half (half.hour24 n)
  by_cases hn : n = 12
  · subst hn
    cases half with
    | am => exact .midnight
    | pm => exact .noon
  · have hle : n ≤ 11 := by omega
    cases half with
    | am =>
      rw [Meridiem.hour24, if_neg hn]
      exact .morning hlow hle
    | pm =>
      rw [Meridiem.hour24, if_neg hn]
      exact .afternoon hlow hle

/-- An hour of the day is the hour of 24 for an hour of 12. -/
theorem HourOfDay.exists_hourOf {n k : Nat} {half : Meridiem} (h : HourOfDay n half k) :
    ∃ hour : Bounded 1 12, hour.val = n ∧ (half.hourOf hour).val = k := by
  cases h with
  | midnight => exact ⟨⟨12, by decide⟩, rfl, rfl⟩
  | noon => exact ⟨⟨12, by decide⟩, rfl, rfl⟩
  | morning hlow hhigh =>
    have hn : ¬ n = 12 := by omega
    exact ⟨⟨n, by omega⟩, rfl, if_neg hn⟩
  | afternoon hlow hhigh =>
    have hn : ¬ n = 12 := by omega
    exact ⟨⟨n, by omega⟩, rfl, if_neg hn⟩

/-! ## The forms -/

/-- The forms of a clock time, and whether a colon is written where it may be left out. -/
inductive ClockForm where
  | military
  | hour
  | hourMinute (colon : Bool)
  | day (colon : Bool)
  | hourMinuteSecond
  deriving DecidableEq

namespace ClockForm

/-- No colon is left out. -/
def colonsWritten : ClockForm → Bool
  | hourMinute colon | day colon => colon
  | military | hour | hourMinuteSecond => true

/-- The form that must fill its text. -/
def fillsText : ClockForm → Bool
  | day _ => true
  | military | hour | hourMinute _ | hourMinuteSecond => false

end ClockForm

/-- A minute or a second: two digits, up to 59. -/
structure Sixtieth (ds : List Char) : Prop where
  numeral : Numeral 2 2 ds
  le : Text.decimalValue ds ≤ 59

/-- A colon, or nothing where it is left out. -/
def colonChars (written : Bool) : List Char := if written then [':'] else []

/-- The texts of each form, with the hour of 24, the minute and the second that they denote. -/
inductive FormText : ClockForm → List Char → Nat → Nat → Nat → Prop where
  | military {h m : List Char} :
      Numeral 2 2 h → Text.decimalValue h ≤ 23 → Sixtieth m →
      FormText .military (h ++ m) (Text.decimalValue h) (Text.decimalValue m) 0
  | hour {h x : List Char} {half : Meridiem} {hour : Nat} :
      Numeral 1 2 h → HourOfDay (Text.decimalValue h) half hour → MeridiemText x half →
      FormText .hour (h ++ x) hour 0 0
  | hourMinute {h m x : List Char} {half : Meridiem} {hour : Nat} (colon : Bool) :
      Numeral 1 2 h → HourOfDay (Text.decimalValue h) half hour → Sixtieth m →
      MeridiemText x half →
      FormText (.hourMinute colon) (h ++ colonChars colon ++ m ++ x) hour (Text.decimalValue m) 0
  | day {h m : List Char} (colon : Bool) :
      Numeral 1 2 h → Text.decimalValue h ≤ 23 → Sixtieth m →
      FormText (.day colon) (h ++ colonChars colon ++ m) (Text.decimalValue h)
        (Text.decimalValue m) 0
  | hourMinuteSecond {h m s x : List Char} {half : Meridiem} {hour : Nat} :
      Numeral 1 2 h → HourOfDay (Text.decimalValue h) half hour → Sixtieth m → Sixtieth s →
      MeridiemText x half →
      FormText .hourMinuteSecond (h ++ [':'] ++ m ++ [':'] ++ s ++ x) hour (Text.decimalValue m)
        (Text.decimalValue s)

/-! ## Texts of the forms and their parts -/

theorem Sixtieth.text {ds : List Char} (h : Sixtieth ds) :
    SixtyText ds ⟨Text.decimalValue ds, Nat.zero_le _, h.le⟩ :=
  ⟨h.numeral, rfl⟩

theorem sixtieth_of_text {ds : List Char} {n : Bounded 0 59} (h : SixtyText ds n) :
    Sixtieth ds :=
  ⟨h.numeral, by rw [h.value_eq]; exact n.property.2⟩

/-- Digits that name an hour in a half of the day are the text of an hour of the 12-hour clock. -/
theorem HourOfDay.exists_text {ds : List Char} {half : Meridiem} {k : Nat}
    (hds : Numeral 1 2 ds) (h : HourOfDay (Text.decimalValue ds) half k) :
    ∃ hour, Hour12Text ds hour ∧ (half.hourOf hour).val = k := by
  obtain ⟨hour, hvalue, hk⟩ := h.exists_hourOf
  exact ⟨hour, ⟨hds, hvalue.symm⟩, hk⟩

theorem hourOfDay_of_text {ds : List Char} {hour : Bounded 1 12} (h : Hour12Text ds hour)
    (half : Meridiem) : HourOfDay (Text.decimalValue ds) half (half.hourOf hour).val := by
  rw [h.value_eq]
  exact hourOfDay_hourOf half hour

/-- A spelling that may stand in front of anything has one of the forms that may. -/
theorem ClockText.exists_form {p : List Char} {t : ClockTime} (h : ClockText p t) :
    ∃ form : ClockForm, form.fillsText = false ∧
      FormText form p t.hour.val t.minute.val t.second.val := by
  cases h with
  | @military h m hour minute hh hm =>
    refine ⟨.military, rfl, ?_⟩
    show FormText .military (h ++ m) hour.val minute.val 0
    rw [← hh.value_eq, ← hm.value_eq]
    exact .military hh.numeral (by rw [hh.value_eq]; exact hour.property.2) (sixtieth_of_text hm)
  | hour hh hx => exact ⟨.hour, rfl, .hour hh.numeral (hourOfDay_of_text hh _) hx⟩
  | @hourMinute h m x hour minute half hh hm hx =>
    refine ⟨.hourMinute true, rfl, ?_⟩
    show FormText (.hourMinute true) _ (half.hourOf hour).val minute.val 0
    rw [← hm.value_eq]
    exact .hourMinute true hh.numeral (hourOfDay_of_text hh half) (sixtieth_of_text hm) hx
  | @joined h m x hour minute half hh hone hend hm hx =>
    refine ⟨.hourMinute false, rfl, ?_⟩
    have htext := FormText.hourMinute false hh.numeral (hourOfDay_of_text hh half)
      (sixtieth_of_text hm) hx
    rw [hm.value_eq] at htext
    simpa only [colonChars, Bool.false_eq_true, if_false, List.append_nil] using htext
  | @hourMinuteSecond h m s x hour minute second half hh hm hs hx =>
    refine ⟨.hourMinuteSecond, rfl, ?_⟩
    show FormText .hourMinuteSecond _ (half.hourOf hour).val minute.val second.val
    rw [← hm.value_eq, ← hs.value_eq]
    exact .hourMinuteSecond hh.numeral (hourOfDay_of_text hh half) (sixtieth_of_text hm)
      (sixtieth_of_text hs) hx

/-- A text of a time of 24 hours is in the form that has no suffix. -/
theorem DayTimeText.form {p : List Char} {t : ClockTime} (h : DayTimeText p t) :
    FormText (.day true) p t.hour.val t.minute.val t.second.val := by
  obtain @⟨h, m, hour, minute, hh, hm⟩ := h
  show FormText (.day true) (h ++ [':'] ++ m) hour.val minute.val 0
  rw [← hh.value_eq, ← hm.value_eq]
  exact .day true hh.numeral (by rw [hh.value_eq]; exact hour.property.2) (sixtieth_of_text hm)

/-- A text in one of the forms, with its colons written, spells the time that it denotes. -/
theorem FormText.exists_time {form : ClockForm} {p : List Char} {hour minute second : Nat}
    (h : FormText form p hour minute second) (hcolons : form.colonsWritten = true) :
    ∃ t : ClockTime, (ClockText p t ∨ DayTimeText p t) ∧
      t.hour.val = hour ∧ t.minute.val = minute ∧ t.second.val = second := by
  cases h with
  | military hh hle hm =>
    have hhour : Hour24Text _ ⟨_, Nat.zero_le _, hle⟩ := ⟨hh, rfl⟩
    exact ⟨_, Or.inl (.military hhour hm.text), rfl, rfl, rfl⟩
  | hour hh hhour hx =>
    obtain ⟨hour', htext, hk⟩ := hhour.exists_text hh
    exact ⟨_, Or.inl (.hour htext hx), hk, rfl, rfl⟩
  | hourMinute colon hh hhour hm hx =>
    obtain rfl : colon = true := hcolons
    obtain ⟨hour', htext, hk⟩ := hhour.exists_text hh
    exact ⟨_, Or.inl (.hourMinute htext hm.text hx), hk, rfl, rfl⟩
  | day colon hh hle hm =>
    obtain rfl : colon = true := hcolons
    have hhour : PartText 1 2 0 23 _ ⟨_, Nat.zero_le _, hle⟩ := ⟨hh, rfl⟩
    exact ⟨_, Or.inr (.mk hhour hm.text), rfl, rfl, rfl⟩
  | hourMinuteSecond hh hhour hm hs hx =>
    obtain ⟨hour', htext, hk⟩ := hhour.exists_text hh
    exact ⟨_, Or.inl (.hourMinuteSecond htext hm.text hs.text hx), hk, rfl, rfl⟩

/-! ## Reading -/

/-- **Clock times are read by their forms.**  Whatever is consumed of a text has one of the five
forms and is read as the time that it denotes, and the form of a day without a suffix leaves
nothing.  A text that has one of the forms with its colons written is read in full, as the time that
it denotes. -/
theorem parseClockTime_forms (text : List Char) :
    (∀ t rest, (parseClockTime text).reading? = some (t, rest) →
      ∃ form p, text = p ++ rest ∧ FormText form p t.hour.val t.minute.val t.second.val ∧
        (form.fillsText = true → rest = [])) ∧
    ∀ form hour minute second, form.colonsWritten = true →
      FormText form text hour minute second →
      ∃ t : ClockTime, parseClockTime text = .full t ∧
        t.hour.val = hour ∧ t.minute.val = minute ∧ t.second.val = second := by
  constructor
  · intro t rest h
    rcases clockTime_sound (reading?_parse_eq_some_iff.1 h) with ⟨p, htext, hp⟩ | ⟨hnil, hday⟩
    · obtain ⟨form, hfree, hform⟩ := hp.exists_form
      refine ⟨form, p, htext, hform, fun hfills => ?_⟩
      rw [hfree] at hfills
      cases hfills
    · refine ⟨.day true, text, ?_, hday.form, fun _ => hnil⟩
      rw [hnil, List.append_nil]
  · intro form hour minute second hcolons hform
    obtain ⟨t, ht, hparts⟩ := hform.exists_time hcolons
    exact ⟨t, parseClockTime_full_iff.2 ht, hparts⟩

/-- Four digits in front of a suffix are consumed as military time, and a second past midnight is
read in full. -/
theorem parseClockTime_forms_midnight :
    (∃ form p, "1230 am".toList = p ++ " am".toList ∧ FormText form p 12 30 0 ∧
      (form.fillsText = true → " am".toList = [])) ∧
    ∃ t : ClockTime, parseClockTime "12:00:01 A".toList = .full t ∧
      t.hour.val = 0 ∧ t.minute.val = 0 ∧ t.second.val = 1 := by
  have hread : (parseClockTime "1230 am".toList).reading? =
      some (⟨⟨12, by decide⟩, ⟨30, by decide⟩, ⟨0, by decide⟩⟩, " am".toList) := by decide
  have htwelve : Numeral 1 2 ['1', '2'] := ⟨by decide, by decide, by decide⟩
  have hzeros : Sixtieth ['0', '0'] := ⟨⟨by decide, by decide, by decide⟩, by decide⟩
  have hone : Sixtieth ['0', '1'] := ⟨⟨by decide, by decide, by decide⟩, by decide⟩
  have hsuffix : MeridiemText " A".toList .am := .short (w := [' ']) rfl .A
  have hform : FormText .hourMinuteSecond "12:00:01 A".toList 0 0 1 :=
    .hourMinuteSecond htwelve .midnight hzeros hone hsuffix
  exact ⟨(parseClockTime_forms _).1 _ _ hread, (parseClockTime_forms _).2 _ _ _ _ rfl hform⟩

end Grammar

end DateCalc
