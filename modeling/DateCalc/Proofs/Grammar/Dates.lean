/-
  Dates are read as the grammar spells them.

  The ISO form is read up to the last of its digits; every other form fills its text.  No form hides
  another: the ISO form starts with four digits, a slashed one with fewer and a named one with a
  letter, and of the two named ones the first wants a comma behind the day.
-/
import DateCalc.Proofs.Grammar.Derivation

namespace DateCalc.Grammar

open Rule Token

/-! ## Names of months -/

/-- What is a letter in lower case is a letter. -/
theorem isLetter_of_toLower {c : Char} (h : isLetter c.toLower = true) : isLetter c = true := by
  unfold Char.toLower at h
  split at h
  · rename_i hupper
    exact isLetter_iff.2 (Or.inl hupper)
  · exact h

theorem monthNames_letters :
    ∀ e ∈ monthNames, e.1.toList ≠ [] ∧ e.1.toList.all isLetter = true := by
  decide

/-- A name stands for one month only. -/
theorem monthNames_functional :
    ∀ e ∈ monthNames, ∀ e' ∈ monthNames, e.1 = e'.1 → e.2 = e'.2 := by
  decide

/-- The name of a month is made of letters. -/
theorem IsMonthName.letters {name : List Char} {month : Nat} (h : IsMonthName name month) :
    name ≠ [] ∧ name.all isLetter = true := by
  obtain ⟨word, hmem, hlower⟩ := h
  obtain ⟨hne, hletters⟩ := monthNames_letters _ hmem
  constructor
  · rintro rfl
    exact hne hlower.symm
  · refine List.all_eq_true.2 fun c hc => isLetter_of_toLower ?_
    refine List.all_eq_true.1 hletters _ ?_
    show c.toLower ∈ word.toList
    rw [← hlower]
    exact List.mem_map_of_mem hc

/-- A name has a number exactly if it is the name of that month. -/
theorem monthNumber?_eq_some_iff {name : List Char} {month : Nat} :
    monthNumber? name = some month ↔ IsMonthName name month := by
  constructor
  · intro h
    obtain ⟨⟨word, month'⟩, hfind, rfl⟩ := Option.map_eq_some_iff.1 h
    have hword : word.toList = name.map Char.toLower := by simpa using List.find?_some hfind
    exact ⟨word, List.mem_of_find?_eq_some hfind, hword.symm⟩
  · rintro ⟨word, hmem, hlower⟩
    cases hfind : monthNames.find? fun e => e.1.toList = name.map Char.toLower with
    | none => exact absurd hlower.symm (by simpa using List.find?_eq_none.1 hfind _ hmem)
    | some e =>
      have hword : e.1.toList = name.map Char.toLower := by simpa using List.find?_some hfind
      -- The entry found spells the same word, and a word stands for one month.
      have hsame : e.1 = word := String.toList_injective (hword.trans hlower)
      have hmonth := monthNames_functional _ (List.mem_of_find?_eq_some hfind) _ hmem hsame
      show Option.map Prod.snd (monthNames.find? fun e => e.1.toList = name.map Char.toLower) = _
      rw [hfind]
      exact congrArg some hmonth

/-- The name of a month is read as its number, up to the first character that is no letter. -/
theorem monthName_append {name rest : List Char} {month : Nat} (h : IsMonthName name month)
    (hrest : Stops isLetter rest) : monthName (name ++ rest) = .ok (month, rest) := by
  have hletters := h.letters.2
  simp only [monthName, takeWhile_run hletters hrest, dropWhile_run hletters hrest,
    monthNumber?_eq_some_iff.2 h]

/-- A name that is read is the name of the month. -/
theorem monthName_sound {s rest : List Char} {month : Nat}
    (h : monthName s = .ok (month, rest)) : ∃ name, s = name ++ rest ∧ IsMonthName name month := by
  unfold monthName at h
  split at h
  · rename_i month' hmonth
    cases h
    exact ⟨_, List.takeWhile_append_dropWhile.symm, monthNumber?_eq_some_iff.1 hmonth⟩
  · cases h

/-- No name of a month is empty. -/
theorem fails_monthName {s : List Char} (hs : Stops isLetter s) : monthName.Fails s := by
  refine ⟨⟨s, .date, none⟩, ?_⟩
  have hnone : monthNumber? [] = none := by decide
  simp only [monthName, hs.takeWhile_eq, hnone]

/-! ## The front of a date -/

/-- How a date starts: with figures before a hyphen or a slash, or with the name of a month before
a gap. -/
inductive DateFront : List Char → Prop where
  | figures {ds t : List Char} {c : Char} :
      Numeral 1 4 ds → c = '-' ∨ c = '/' → DateFront (ds ++ c :: t)
  | name {name w t : List Char} {month : Nat} :
      IsMonthName name month → Gap w → DateFront (name ++ (w ++ t))

/-- A date that is not in the ISO form starts with figures and a slash, or with the name of a month.
-/
theorem WholeText.front {year : Nat} {p : List Char} {f : DateFields}
    (hp : WholeText year p f) : DateFront p := by
  cases hp with
  | named hname hw => simp only [List.append_assoc]; exact .name hname hw
  | @yearless name w d month hname hw => rw [List.append_assoc]; exact .name hname hw
  | slashed hm =>
    simp only [List.append_assoc, List.cons_append, List.nil_append]
    exact .figures (hm.widen (by decide) (by decide)) (Or.inr rfl)

/-- However it is written, a date starts in one of the two ways. -/
theorem DateText.front {reference date : Date} {p : List Char}
    (hp : DateText reference p date) : DateFront p := by
  cases hp with
  | whole hp => exact hp.front
  | iso hp =>
    cases hp with
    | mk hy =>
      simp only [List.append_assoc, List.cons_append, List.nil_append]
      exact .figures (hy.widen (by decide) (by decide)) (Or.inl rfl)

/-! ## Ends -/

theorem noDigit_of_stops {s : List Char} (hs : Stops Char.isDigit s) : noDigit s = .ok ((), s) := by
  cases s with
  | nil => rfl
  | cons c s => simp [noDigit, stops_cons.1 hs]

/-- Nothing is read, and no digit follows. -/
theorem noDigit_sound {s rest : List Char} {u : Unit} (h : noDigit s = .ok (u, rest)) :
    s = rest ∧ Stops Char.isDigit rest := by
  cases s with
  | nil =>
    cases h
    exact ⟨rfl, stops_nil _⟩
  | cons c s =>
    simp only [noDigit] at h
    split at h
    · cases h
    · rename_i hc
      cases h
      exact ⟨rfl, stops_cons.2 (by simpa using hc)⟩

/-- The end of the text is read where nothing is left. -/
theorem endOfText_sound {s rest : List Char} {u : Unit} (h : endOfText s = .ok (u, rest)) :
    s = [] ∧ rest = [] := by
  cases s with
  | nil => cases h; exact ⟨rfl, rfl⟩
  | cons c s => cases h

/-! ## The ISO form -/

/-- A figure ends before a character that is no digit. -/
theorem part_append {least most : Nat} {ds rest : List Char} {c : Char}
    (hds : Numeral least most ds) (hc : c.isDigit = false) :
    figures least most (ds ++ c :: rest) = .ok (Text.decimalValue ds, c :: rest) :=
  figures_append hds fun _ => stops_cons.2 hc

/-- A date in the ISO form with blanks before it is read, when no further digit follows. -/
theorem isoFields_append {w p rest : List Char} {f : DateFields} (hw : Text.allBlank w = true)
    (hp : IsoText p f) (hrest : Stops Char.isDigit rest) :
    isoFields (w ++ p ++ rest) = .ok (f, rest) := by
  cases hp with
  | mk hy hm hd =>
    simp only [List.append_assoc, List.cons_append, List.nil_append]
    refine bind_eq_ok_iff.2 ⟨_, _, space0_append hw (hy.stops_blank _), ?_⟩
    refine bind_eq_ok_iff.2 ⟨_, _, part_append hy (by decide), ?_⟩
    refine bind_eq_ok_iff.2 ⟨_, _, tag_append "-" _, ?_⟩
    refine bind_eq_ok_iff.2 ⟨_, _, part_append hm (by decide), ?_⟩
    refine bind_eq_ok_iff.2 ⟨_, _, tag_append "-" _, ?_⟩
    refine bind_eq_ok_iff.2 ⟨_, _, figures_append hd fun _ => hrest, ?_⟩
    exact bind_eq_ok_iff.2 ⟨_, _, noDigit_of_stops hrest, rfl⟩

/-- The ISO form that is read is one at the front, with blanks before it. -/
theorem isoFields_sound {s rest : List Char} {f : DateFields} (h : isoFields s = .ok (f, rest)) :
    ∃ w p, s = w ++ p ++ rest ∧ Text.allBlank w = true ∧ IsoText p f := by
  obtain ⟨_, s₁, hspace, h⟩ := bind_eq_ok_iff.1 h
  obtain ⟨_, s₂, hyear, h⟩ := bind_eq_ok_iff.1 h
  obtain ⟨_, s₃, htag, h⟩ := bind_eq_ok_iff.1 h
  obtain ⟨_, s₄, hmonth, h⟩ := bind_eq_ok_iff.1 h
  obtain ⟨_, s₅, htag', h⟩ := bind_eq_ok_iff.1 h
  obtain ⟨_, s₆, hday, h⟩ := bind_eq_ok_iff.1 h
  obtain ⟨_, s₇, hend, hpure⟩ := bind_eq_ok_iff.1 h
  obtain ⟨rfl, rfl⟩ := pure_eq_ok_iff.1 hpure
  obtain ⟨w, rfl, hw, -⟩ := space0_sound hspace
  obtain ⟨y, rfl, hy, rfl, -⟩ := figures_sound hyear
  obtain rfl := tag_sound htag
  obtain ⟨m, rfl, hm, rfl, -⟩ := figures_sound hmonth
  obtain rfl := tag_sound htag'
  obtain ⟨d, rfl, hd, rfl, -⟩ := figures_sound hday
  obtain ⟨rfl, -⟩ := noDigit_sound hend
  exact ⟨w, y ++ ['-'] ++ m ++ ['-'] ++ d, by simp, hw, .mk hy hm hd⟩

/-! ## The other forms -/

/-- Figures that fill the text are read to its end. -/
theorem figures_whole {least most : Nat} {ds : List Char} (hds : Numeral least most ds) :
    figures least most ds = .ok (Text.decimalValue ds, []) := by
  have hread : figures least most (ds ++ []) = .ok (Text.decimalValue ds, []) :=
    figures_append hds fun _ => stops_nil _
  rwa [List.append_nil] at hread

/-- Month, day and year are read as these, with or without blanks behind the comma. -/
theorem monthDayYear_append {name w d w' y : List Char} {month : Nat}
    (hname : IsMonthName name month) (hw : Gap w) (hd : IsPart d)
    (hw' : Text.allBlank w' = true) (hy : IsYear y) :
    monthDayYear (name ++ (w ++ (d ++ ',' :: (w' ++ y)))) =
      .ok (⟨Text.decimalValue y, month, Text.decimalValue d⟩, []) := by
  have hstart : Stops Text.isBlank y := by simpa using hy.stops_blank []
  refine bind_eq_ok_iff.2 ⟨_, _, monthName_append hname (hw.stops_letter _), ?_⟩
  refine bind_eq_ok_iff.2 ⟨_, _, space1_append hw (hd.stops_blank _), ?_⟩
  refine bind_eq_ok_iff.2 ⟨_, _, part_append hd (by decide), ?_⟩
  refine bind_eq_ok_iff.2 ⟨_, _, tag_append "," _, ?_⟩
  refine bind_eq_ok_iff.2 ⟨_, _, space0_append hw' hstart, ?_⟩
  exact bind_eq_ok_iff.2 ⟨_, _, figures_whole hy, rfl⟩

/-- **Each of the other forms is read from a text that it fills**: what stands between its parts
ends them, and the forms tried before it fail. -/
theorem wholeFields_append {reference : Date} {p : List Char} {f : DateFields}
    (hp : WholeText reference.year p f) : wholeFields reference p = .ok (f, []) := by
  refine expecting_eq_ok_iff.2 (orElse_eq_ok_iff.2 ?_)
  cases hp with
  | named hname hw hd hw' hy =>
    left
    simp only [List.append_assoc, List.cons_append, List.nil_append]
    exact monthDayYear_append hname hw hd hw' hy
  | @yearless name w d month hname hw hd =>
    right
    have hstart : Stops Text.isBlank d := by simpa using hd.stops_blank []
    have hmonth : monthName (name ++ (w ++ d)) = .ok (month, w ++ d) :=
      monthName_append hname (hw.stops_letter _)
    simp only [List.append_assoc]
    refine ⟨?_, orElse_eq_ok_iff.2 (Or.inl ?_)⟩
    · -- The form with a year goes as far as the comma, which is not there.
      refine fails_bind_of_ok hmonth (fails_bind_of_ok (space1_append hw hstart) ?_)
      exact fails_bind_of_ok (figures_whole hd) (fails_bind _ (fails_tag_iff.2 (by decide)))
    · refine bind_eq_ok_iff.2 ⟨_, _, hmonth, ?_⟩
      refine bind_eq_ok_iff.2 ⟨_, _, space1_append hw hstart, ?_⟩
      exact bind_eq_ok_iff.2 ⟨_, _, figures_whole hd, rfl⟩
  | slashed hm hd hy =>
    right
    simp only [List.append_assoc, List.cons_append, List.nil_append]
    have hno : ∀ t, monthName.Fails (_ ++ t) := fun t =>
      fails_monthName (stops_of_run hm.ne_nil hm.all_digits isLetter_of_isDigit t)
    refine ⟨fails_bind _ (hno _), orElse_eq_ok_iff.2 (Or.inr ⟨fails_bind _ (hno _), ?_⟩)⟩
    refine bind_eq_ok_iff.2 ⟨_, _, part_append hm (by decide), ?_⟩
    refine bind_eq_ok_iff.2 ⟨_, _, tag_append "/" _, ?_⟩
    refine bind_eq_ok_iff.2 ⟨_, _, part_append hd (by decide), ?_⟩
    refine bind_eq_ok_iff.2 ⟨_, _, tag_append "/" _, ?_⟩
    exact bind_eq_ok_iff.2 ⟨_, _, figures_whole hy, rfl⟩

/-- Month, day and year that are read make up the whole text. -/
theorem monthDayYear_sound {year : Nat} {s rest : List Char} {f : DateFields}
    (h : monthDayYear s = .ok (f, rest)) : WholeText year s f := by
  obtain ⟨_, s₁, hmonth, h⟩ := bind_eq_ok_iff.1 h
  obtain ⟨_, s₂, hgap, h⟩ := bind_eq_ok_iff.1 h
  obtain ⟨_, s₃, hday, h⟩ := bind_eq_ok_iff.1 h
  obtain ⟨_, s₄, htag, h⟩ := bind_eq_ok_iff.1 h
  obtain ⟨_, s₅, hspace, h⟩ := bind_eq_ok_iff.1 h
  obtain ⟨_, s₆, hyear, h⟩ := bind_eq_ok_iff.1 h
  obtain ⟨_, s₇, hend, hpure⟩ := bind_eq_ok_iff.1 h
  obtain ⟨rfl, rfl⟩ := pure_eq_ok_iff.1 hpure
  obtain ⟨name, rfl, hname⟩ := monthName_sound hmonth
  obtain ⟨w, rfl, hw, -⟩ := space1_sound hgap
  obtain ⟨d, rfl, hd, rfl, -⟩ := figures_sound hday
  obtain rfl := tag_sound htag
  obtain ⟨w', rfl, hw', -⟩ := space0_sound hspace
  obtain ⟨y, rfl, hy, rfl, -⟩ := figures_sound hyear
  obtain ⟨rfl, rfl⟩ := endOfText_sound hend
  have hwhole : WholeText year _ _ := .named hname hw hd hw' hy
  simpa using hwhole

/-- Month and day that are read make up the whole text, of the year given. -/
theorem monthDay_sound {year : Nat} {s rest : List Char} {f : DateFields}
    (h : monthDay year s = .ok (f, rest)) : WholeText year s f := by
  obtain ⟨_, s₁, hmonth, h⟩ := bind_eq_ok_iff.1 h
  obtain ⟨_, s₂, hgap, h⟩ := bind_eq_ok_iff.1 h
  obtain ⟨_, s₃, hday, h⟩ := bind_eq_ok_iff.1 h
  obtain ⟨_, s₄, hend, hpure⟩ := bind_eq_ok_iff.1 h
  obtain ⟨rfl, rfl⟩ := pure_eq_ok_iff.1 hpure
  obtain ⟨name, rfl, hname⟩ := monthName_sound hmonth
  obtain ⟨w, rfl, hw, -⟩ := space1_sound hgap
  obtain ⟨d, rfl, hd, rfl, -⟩ := figures_sound hday
  obtain ⟨rfl, rfl⟩ := endOfText_sound hend
  have hwhole : WholeText year _ _ := .yearless hname hw hd
  simpa using hwhole

/-- Numbers with slashes that are read make up the whole text. -/
theorem slashedFields_sound {year : Nat} {s rest : List Char} {f : DateFields}
    (h : slashedFields s = .ok (f, rest)) : WholeText year s f := by
  obtain ⟨_, s₁, hmonth, h⟩ := bind_eq_ok_iff.1 h
  obtain ⟨_, s₂, htag, h⟩ := bind_eq_ok_iff.1 h
  obtain ⟨_, s₃, hday, h⟩ := bind_eq_ok_iff.1 h
  obtain ⟨_, s₄, htag', h⟩ := bind_eq_ok_iff.1 h
  obtain ⟨_, s₅, hyear, h⟩ := bind_eq_ok_iff.1 h
  obtain ⟨_, s₆, hend, hpure⟩ := bind_eq_ok_iff.1 h
  obtain ⟨rfl, rfl⟩ := pure_eq_ok_iff.1 hpure
  obtain ⟨m, rfl, hm, rfl, -⟩ := figures_sound hmonth
  obtain rfl := tag_sound htag
  obtain ⟨d, rfl, hd, rfl, -⟩ := figures_sound hday
  obtain rfl := tag_sound htag'
  obtain ⟨y, rfl, hy, rfl, -⟩ := figures_sound hyear
  obtain ⟨rfl, rfl⟩ := endOfText_sound hend
  have hwhole : WholeText year _ _ := .slashed hm hd hy
  simpa using hwhole

/-- In whichever form fields are read, the whole text is of that form. -/
theorem wholeFields_sound {reference : Date} {s rest : List Char} {f : DateFields}
    (h : wholeFields reference s = .ok (f, rest)) : WholeText reference.year s f := by
  rcases orElse_eq_ok_iff.1 (expecting_eq_ok_iff.1 h) with h | ⟨-, h⟩
  · exact monthDayYear_sound h
  · rcases orElse_eq_ok_iff.1 h with h | ⟨-, h⟩
    · exact monthDay_sound h
    · exact slashedFields_sound h

end DateCalc.Grammar
