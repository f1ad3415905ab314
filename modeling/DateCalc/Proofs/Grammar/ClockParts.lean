/-
  The parts of a clock time are read as they are written.

  An hour of 12 is the one part whose reading looks at what follows: of two digits it takes both
  when they are such an hour, and otherwise the first alone.  So an hour of one digit is read where
  the digit behind it, if there is one, would make the number too large (`EndsHour`).
-/
import DateCalc.Grammar.ClockTime
import DateCalc.Proofs.Grammar.Tokens

namespace DateCalc.Grammar

open Rule Token

/-! ## Numbers between bounds -/

/-- A number between two bounds, written with so many digits. -/
structure PartText (least most low high : Nat) (ds : List Char) (n : Bounded low high) : Prop where
  numeral : Numeral least most ds
  value_eq : Text.decimalValue ds = n.val

/-- Only the length of the digits that are there counts. -/
theorem PartText.resize {least most low high : Nat} {ds : List Char} {n : Bounded low high}
    (h : PartText least most low high ds n) {least' most' : Nat} (hleast : least' ≤ ds.length)
    (hmost : ds.length ≤ most') : PartText least' most' low high ds n :=
  ⟨⟨h.numeral.all_digits, hleast, hmost⟩, h.value_eq⟩

section Bounded

variable {part : String} {least most low high : Nat}

/-- A numeral between the bounds is read as its value, when no digit follows that would be taken
too. -/
theorem bounded_append {ds rest : List Char} {n : Bounded low high}
    (h : PartText least most low high ds n) (hrest : ds.length < most → Stops Char.isDigit rest) :
    bounded part least most low high (ds ++ rest) = .ok (n, rest) := by
  have hfigures := figures_append h.numeral hrest
  rw [h.value_eq] at hfigures
  simp only [bounded, hfigures, n.property, and_self, dite_true]

/-- A number that is read is a numeral between the bounds. -/
theorem bounded_sound {s rest : List Char} {n : Bounded low high}
    (h : bounded part least most low high s = .ok (n, rest)) :
    ∃ ds, s = ds ++ rest ∧ PartText least most low high ds n ∧
      (ds.length < most → Stops Char.isDigit rest) := by
  unfold bounded at h
  split at h
  · rename_i n' rest' hfigures
    obtain ⟨ds, rfl, hds, rfl, hend⟩ := figures_sound hfigures
    split at h
    · cases h
      exact ⟨ds, rfl, ⟨hds, rfl⟩, hend⟩
    · cases h
  · cases h

/-- Digits that are figures are read whole or not at all. -/
theorem bounded_of_numeral {ds rest mid : List Char} {n : Bounded low high}
    (hds : Numeral least most ds) (hrest : ds.length < most → Stops Char.isDigit rest)
    (h : bounded part least most low high (ds ++ rest) = .ok (n, mid)) :
    PartText least most low high ds n ∧ mid = rest := by
  simp only [bounded, figures_append hds hrest] at h
  split at h
  · cases h
    exact ⟨⟨hds, rfl⟩, rfl⟩
  · cases h

/-- Too few digits are no part of a time. -/
theorem fails_bounded {ds rest : List Char} (hds : ds.all Char.isDigit = true)
    (hlt : ds.length < least) (hle : least ≤ most) (hrest : Stops Char.isDigit rest) :
    (bounded part least most low high).Fails (ds ++ rest) := by
  obtain ⟨m, hm⟩ := fails_figures hds hlt hle hrest
  exact ⟨m, by simp only [bounded, hm]⟩

end Bounded

/-! ## Hours of 12 -/

/-- An hour of 12, in one or two digits. -/
abbrev Hour12Text (ds : List Char) (hour : Bounded 1 12) : Prop := PartText 1 2 1 12 ds hour

/-- A minute or a second, in two digits. -/
abbrev SixtyText (ds : List Char) (n : Bounded 0 59) : Prop := PartText 2 2 0 59 ds n

/-- No digit follows an hour of one digit, unless the two together are more than 12. -/
def EndsHour (ds rest : List Char) : Prop :=
  ds.length = 1 → ∀ c t, rest = c :: t → c.isDigit = true → 12 < Text.decimalValue (ds ++ [c])

/-- An hour ends where no digit follows it. -/
theorem EndsHour.of_stops {ds rest : List Char} (h : Stops Char.isDigit rest) :
    EndsHour ds rest := by
  rintro - c t rfl hc
  rw [stops_cons, hc] at h
  cases h

theorem decimalValue_concat (ds : List Char) (c : Char) :
    Text.decimalValue (ds ++ [c]) = 10 * Text.decimalValue ds + (c.toNat - '0'.toNat) := by
  simp [Text.decimalValue, Nat.ofDigitChars_append, Nat.ofDigitChars_cons]

/-- An hour of the 12-hour clock is read from its text, where that ends. -/
theorem hour12_append {ds rest : List Char} {hour : Bounded 1 12} (h : Hour12Text ds hour)
    (hrest : EndsHour ds rest) : hour12 (ds ++ rest) = .ok (hour, rest) := by
  have hleast := h.numeral.least_le
  have hmost := h.numeral.le_most
  refine orElse_eq_ok_iff.2 ?_
  by_cases hone : ds.length = 1
  · have hfirst : PartText 1 1 1 12 ds hour := h.resize (by omega) (by omega)
    refine Or.inr ⟨?_, bounded_append hfirst (by omega)⟩
    -- Two digits that make an hour would be this digit and the next one.
    rcases fails_or_ok (bounded "hour" 2 2 1 12) (ds ++ rest) with hf | ⟨n, mid, htwo⟩
    · exact hf
    · obtain ⟨ds', heq, hpart, -⟩ := bounded_sound htwo
      obtain ⟨d, rfl⟩ := List.length_eq_one_iff.1 hone
      obtain ⟨d', c, rfl, -, hc⟩ := hpart.numeral.eq_pair
      obtain ⟨rfl, rfl⟩ : d = d' ∧ rest = c :: mid := by simpa using heq
      have hlarge := hrest hone c mid rfl hc
      have hsmall := n.property.2
      rw [← hpart.value_eq] at hsmall
      exact absurd hlarge (Nat.not_lt.2 hsmall)
  · have hboth : PartText 2 2 1 12 ds hour := h.resize (by omega) hmost
    exact Or.inl (bounded_append hboth (by omega))

/-- An hour that is read is one of the 12-hour clock, in two digits if it can be. -/
theorem hour12_sound {s rest : List Char} {hour : Bounded 1 12}
    (h : hour12 s = .ok (hour, rest)) :
    ∃ ds, s = ds ++ rest ∧ Hour12Text ds hour ∧ EndsHour ds rest := by
  rcases orElse_eq_ok_iff.1 h with h | ⟨hf, h⟩
  · obtain ⟨ds, rfl, hds, -⟩ := bounded_sound h
    have hleast := hds.numeral.least_le
    refine ⟨ds, rfl, hds.resize (by omega) hds.numeral.le_most, fun hone => ?_⟩
    omega
  · obtain ⟨ds, rfl, hds, -⟩ := bounded_sound h
    have hleast := hds.numeral.least_le
    have hmost := hds.numeral.le_most
    refine ⟨ds, rfl, hds.resize hleast (by omega), ?_⟩
    rintro hone c t rfl hc
    -- Otherwise the two digits would have been read together.
    refine Nat.lt_of_not_le fun hle => ?_
    have hlow : 1 ≤ Text.decimalValue (ds ++ [c]) := by
      have hn := hour.property.1
      rw [← hds.value_eq] at hn
      rw [decimalValue_concat]
      omega
    have hall : (ds ++ [c]).all Char.isDigit = true := by
      simp only [List.all_append, hds.numeral.all_digits, List.all_cons, hc, List.all_nil,
        Bool.and_self]
    have hlen : (ds ++ [c]).length = 2 := by simp [hone]
    have hboth : PartText 2 2 1 12 (ds ++ [c]) ⟨_, hlow, hle⟩ :=
      ⟨⟨hall, by omega, by omega⟩, rfl⟩
    have hok : bounded "hour" 2 2 1 12 (ds ++ [c] ++ t) = .ok (⟨_, hlow, hle⟩, t) :=
      bounded_append hboth (by omega)
    rw [List.append_assoc] at hok
    exact not_fails_of_ok hok hf

/-! ## Suffixes -/

/-- The letter of a half of the day, in either case. -/
inductive HalfLetter : Char → Meridiem → Prop where
  | a : HalfLetter 'a' .am
  | A : HalfLetter 'A' .am
  | p : HalfLetter 'p' .pm
  | P : HalfLetter 'P' .pm

/-- The letter m, in either case. -/
def isM (c : Char) : Bool := c == 'm' || c == 'M'

/-- Blanks and the letter of a half, with an m behind it or none. -/
inductive MeridiemText : Spelling Meridiem where
  | short {w : List Char} {c : Char} {half : Meridiem} :
      Text.allBlank w = true → HalfLetter c half → MeridiemText (w ++ [c]) half
  | long {w : List Char} {c m : Char} {half : Meridiem} :
      Text.allBlank w = true → HalfLetter c half → isM m = true →
      MeridiemText (w ++ [c, m]) half

theorem HalfLetter.isBlank {c : Char} {half : Meridiem} (h : HalfLetter c half) :
    Text.isBlank c = false := by
  cases h <;> decide

/-- No letter is passed over where none stands. -/
theorem afterOptionalM_of_stops {s : List Char} (h : Stops isM s) : afterOptionalM s = s := by
  unfold afterOptionalM
  split
  · cases stops_cons.1 h
  · cases stops_cons.1 h
  · rfl

/-- Nothing is passed over, or one letter is. -/
theorem afterOptionalM_sound (s : List Char) :
    afterOptionalM s = s ∨ ∃ m, isM m = true ∧ s = m :: afterOptionalM s := by
  unfold afterOptionalM
  split
  · exact Or.inr ⟨'m', by decide, rfl⟩
  · exact Or.inr ⟨'M', by decide, rfl⟩
  · exact Or.inl rfl

theorem suffix_letter {c : Char} {half : Meridiem} (h : HalfLetter c half) (s : List Char) :
    suffix (c :: s) = .ok (half, afterOptionalM s) := by
  cases h <;> rfl

/-- A suffix that is read is the letter of a half of the day, and perhaps one more. -/
theorem suffix_sound {s rest : List Char} {half : Meridiem} (h : suffix s = .ok (half, rest)) :
    ∃ c t, s = c :: t ∧ HalfLetter c half ∧ rest = afterOptionalM t := by
  unfold suffix at h
  split at h
  · cases h; exact ⟨_, _, rfl, .a, rfl⟩
  · cases h; exact ⟨_, _, rfl, .A, rfl⟩
  · cases h; exact ⟨_, _, rfl, .p, rfl⟩
  · cases h; exact ⟨_, _, rfl, .P, rfl⟩
  · cases h

/-- **A suffix is read exactly from its texts.** -/
theorem meridiem_reads : meridiem.Reads MeridiemText (Stops isM) where
  sound h := by
    obtain ⟨_, s₁, hspace, hsuffix⟩ := bind_eq_ok_iff.1 h
    obtain ⟨w, rfl, hw, -⟩ := space0_sound hspace
    obtain ⟨c, t, rfl, hc, rfl⟩ := suffix_sound hsuffix
    rcases afterOptionalM_sound t with hsame | ⟨m, hm, ht⟩
    · exact ⟨w ++ [c], by simp [hsame], .short hw hc⟩
    · refine ⟨w ++ [c, m], ?_, .long hw hc hm⟩
      rw [List.append_assoc]
      exact congrArg (w ++ c :: ·) ht
  complete h hrest := by
    cases h with
    | short hw hc =>
      rw [List.append_assoc]
      refine bind_eq_ok_iff.2 ⟨_, _, space0_append hw (stops_cons.2 hc.isBlank), ?_⟩
      refine (suffix_letter hc _).trans ?_
      show Except.ok (_, afterOptionalM _) = _
      rw [List.append_eq, List.nil_append, afterOptionalM_of_stops hrest]
    | @long w c m half hw hc hm =>
      rw [List.append_assoc]
      refine bind_eq_ok_iff.2 ⟨_, _, space0_append hw (stops_cons.2 hc.isBlank), ?_⟩
      refine (suffix_letter hc _).trans ?_
      rw [isM, Bool.or_eq_true, beq_iff_eq, beq_iff_eq] at hm
      rcases hm with rfl | rfl <;> rfl

/-- A suffix starts with a blank or with one of four letters. -/
theorem MeridiemText.front {x : List Char} {half : Meridiem} (h : MeridiemText x half) :
    ∃ c t, x = c :: t ∧ (Text.isBlank c = true ∨ HalfLetter c half) := by
  have hfront : ∀ {w t : List Char} {c : Char}, Text.allBlank w = true → HalfLetter c half →
      ∃ d u, w ++ c :: t = d :: u ∧ (Text.isBlank d = true ∨ HalfLetter d half) := by
    intro w t c hw hc
    cases w with
    | nil => exact ⟨c, t, rfl, Or.inr hc⟩
    | cons d w =>
      exact ⟨d, w ++ c :: t, rfl, Or.inl (allBlank_cons.1 hw).1⟩
  cases h with
  | short hw hc => exact hfront hw hc
  | long hw hc _ => exact hfront hw hc

/-- A suffix starts with no digit and no colon. -/
theorem MeridiemText.stops {x : List Char} {half : Meridiem} (h : MeridiemText x half)
    (rest : List Char) : Stops Char.isDigit (x ++ rest) ∧ Stops (· == ':') (x ++ rest) := by
  obtain ⟨c, t, rfl, hblank | hletter⟩ := h.front
  · refine ⟨stops_cons.2 (isDigit_of_isBlank hblank), stops_cons.2 ?_⟩
    rw [beq_eq_false_iff_ne]
    rintro rfl
    exact absurd hblank (by decide)
  · cases hletter <;> exact ⟨stops_cons.2 (by decide), stops_cons.2 (by decide)⟩

/-- Before a digit, a colon or the end there is no suffix. -/
theorem fails_meridiem {s : List Char} (h : ¬ Stops Char.isDigit s ∨ ¬ Stops (· == ':') s ∨ s = []) :
    meridiem.Fails s := by
  apply meridiem_reads.fails
  rintro x rest half hx rfl
  obtain ⟨hdigit, hcolon⟩ := hx.stops rest
  obtain ⟨c, t, rfl, -⟩ := hx.front
  rcases h with h | h | h
  · exact h hdigit
  · exact h hcolon
  · cases h

end DateCalc.Grammar
