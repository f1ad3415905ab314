/-
  Literal dates and anchors are read as the grammar spells them.

  A date that is not in the ISO form fills the text up to the next sign, blanks aside.  So a literal
  date is read wherever only blanks stand between it and the next sign or the end (`EndsAnchor`),
  which is what follows an anchor in every text of the grammar.
-/
import DateCalc.Proofs.Grammar.Dates

namespace DateCalc.Grammar

open Rule Token

/-! ## The text up to the next sign -/

/-- Only blanks stand before the next sign, or before the end. -/
def EndsAnchor (rest : List Char) : Prop := Text.allBlank (segment rest) = true

/-- The text contains no sign. -/
def Unsigned (s : List Char) : Prop := s.all (fun c => !isSign c) = true

theorem unsigned_append {s t : List Char} : Unsigned (s ++ t) ↔ Unsigned s ∧ Unsigned t := by
  simp [Unsigned, List.all_append]

theorem segment_append {s : List Char} (hs : Unsigned s) (rest : List Char) :
    segment (s ++ rest) = s ++ segment rest :=
  List.takeWhile_append_of_pos (List.all_eq_true.1 hs)

/-- A class that has neither sign has no sign. -/
theorem isSign_of_class (p : Char → Bool) (hplus : p '+' = false) (hminus : p '-' = false)
    {c : Char} (h : p c = true) : isSign c = false := by
  refine disjoint_symm isSign p (fun {d} hd => ?_) h
  rw [isSign, Bool.or_eq_true, beq_iff_eq, beq_iff_eq] at hd
  rcases hd with rfl | rfl
  · exact hplus
  · exact hminus

theorem isSign_of_isDigit {c : Char} (h : c.isDigit = true) : isSign c = false :=
  isSign_of_class Char.isDigit (by decide) (by decide) h

theorem isSign_of_isLetter {c : Char} (h : isLetter c = true) : isSign c = false :=
  isSign_of_class isLetter (by decide) (by decide) h

theorem isSign_of_isBlank {c : Char} (h : Text.isBlank c = true) : isSign c = false :=
  isSign_of_class Text.isBlank (by decide) (by decide) h

/-- A text of one class that has no signs is unsigned. -/
theorem unsigned_of_all {p : Char → Bool} {s : List Char} (hs : s.all p = true)
    (hp : ∀ {c : Char}, p c = true → isSign c = false) : Unsigned s := by
  refine List.all_eq_true.2 fun c hc => ?_
  rw [hp (List.all_eq_true.1 hs c hc)]
  rfl

/-- A date that is not in the ISO form has no sign in it, so that no sign ends it early. -/
theorem WholeText.unsigned {year : Nat} {p : List Char} {f : DateFields}
    (hp : WholeText year p f) : Unsigned p := by
  have hdigits : ∀ {least most : Nat} {ds : List Char}, Numeral least most ds → Unsigned ds :=
    fun h => unsigned_of_all h.all_digits isSign_of_isDigit
  have hblanks : ∀ {w : List Char}, Text.allBlank w = true → Unsigned w :=
    fun h => unsigned_of_all h isSign_of_isBlank
  have hletters : ∀ {name : List Char} {month : Nat}, IsMonthName name month → Unsigned name :=
    fun h => unsigned_of_all h.letters.2 isSign_of_isLetter
  cases hp with
  | named hname hw hd hw' hy =>
    simp only [unsigned_append]
    exact ⟨⟨⟨⟨⟨hletters hname, hblanks hw.1⟩, hdigits hd⟩, rfl⟩, hblanks hw'⟩, hdigits hy⟩
  | yearless hname hw hd =>
    simp only [unsigned_append]
    exact ⟨⟨hletters hname, hblanks hw.1⟩, hdigits hd⟩
  | slashed hm hd hy =>
    simp only [unsigned_append]
    exact ⟨⟨⟨⟨hdigits hm, rfl⟩, hdigits hd⟩, rfl⟩, hdigits hy⟩

/-- Where an anchor may end, no digit follows. -/
theorem EndsAnchor.stops_digit {rest : List Char} (h : EndsAnchor rest) :
    Stops Char.isDigit rest := by
  cases rest with
  | nil => exact stops_nil _
  | cons c rest =>
    rw [stops_cons]
    cases hc : c.isDigit with
    | false => rfl
    | true =>
      rw [EndsAnchor, segment, List.takeWhile_cons, isSign_of_isDigit hc] at h
      simp only [Bool.not_false, if_true, Text.allBlank, List.all_cons, isBlank_of_isDigit hc,
        Bool.false_and, Bool.false_eq_true] at h

/-- Blanks, or blanks before a sign, may end an anchor. -/
theorem endsAnchor_blanks {w : List Char} (hw : Text.allBlank w = true) : EndsAnchor w := by
  have hseg := segment_append (unsigned_of_all hw isSign_of_isBlank) []
  rw [List.append_nil] at hseg
  rw [EndsAnchor, hseg]
  simpa [segment] using hw

theorem endsAnchor_sign {w : List Char} (hw : Text.allBlank w = true) {c : Char}
    (hc : isSign c = true) (rest : List Char) : EndsAnchor (w ++ c :: rest) := by
  rw [EndsAnchor, segment_append (unsigned_of_all hw isSign_of_isBlank)]
  simpa [segment, hc] using hw

/-! ## Trimming -/

theorem trimEnd_append {p w : List Char} (hw : Text.allBlank w = true)
    (hp : Stops Text.isBlank p.reverse) : Text.trimEnd (p ++ w) = p := by
  have hw' : w.reverse.all Text.isBlank = true := by rw [List.all_reverse]; exact hw
  rw [Text.trimEnd, List.reverse_append, dropWhile_run hw' hp, List.reverse_reverse]

/-- Trimming takes away the blanks at both ends and nothing of what stands between them. -/
theorem trim_append {w p w' : List Char} (hw : Text.allBlank w = true)
    (hw' : Text.allBlank w' = true) (hfirst : Stops Text.isBlank (p ++ w'))
    (hlast : Stops Text.isBlank p.reverse) : Text.trim (w ++ p ++ w') = p := by
  rw [Text.trim, Text.trimStart, List.append_assoc, dropWhile_run hw hfirst,
    trimEnd_append hw' hlast]

/-- What trimming takes away are blanks at either end. -/
theorem eq_append_trim (s : List Char) :
    ∃ w, s = s.takeWhile Text.isBlank ++ Text.trim s ++ w ∧ Text.allBlank w = true := by
  have hend : ((Text.trimStart s).reverse.takeWhile Text.isBlank).all Text.isBlank = true :=
    List.all_takeWhile
  have hsplit : (Text.trimStart s).reverse.takeWhile Text.isBlank ++
      (Text.trimStart s).reverse.dropWhile Text.isBlank = (Text.trimStart s).reverse :=
    List.takeWhile_append_dropWhile
  refine ⟨((Text.trimStart s).reverse.takeWhile Text.isBlank).reverse, ?_, ?_⟩
  · have hrev := congrArg List.reverse hsplit
    rw [List.reverse_append, List.reverse_reverse] at hrev
    rw [List.append_assoc, Text.trim, Text.trimEnd, hrev, Text.takeWhile_append_trimStart]
  · rw [Text.allBlank, List.all_reverse]
    exact hend

/-- A date and the blanks before it do not reach beyond the segment. -/
theorem length_trim_segment_le (s : List Char) :
    ((segment s).takeWhile Text.isBlank).length + (Text.trim (segment s)).length ≤ s.length := by
  obtain ⟨v, hsplit, -⟩ := eq_append_trim (segment s)
  have hseg : (segment s).length ≤ s.length := (List.takeWhile_prefix _).length_le
  have hlength := congrArg List.length hsplit
  rw [List.length_append, List.length_append] at hlength
  omega

theorem DateFront.ne_nil {p : List Char} (hp : DateFront p) : p ≠ [] := by
  cases hp with
  | figures => exact List.append_ne_nil_of_right_ne_nil _ (List.cons_ne_nil _ _)
  | name hname => exact List.append_ne_nil_of_left_ne_nil hname.letters.1 _

/-- A date starts with a letter or a digit, and so with no blank. -/
theorem DateFront.stops_blank {p : List Char} (hp : DateFront p) (rest : List Char) :
    Stops Text.isBlank (p ++ rest) := by
  cases hp with
  | figures hds => rw [List.append_assoc]; exact hds.stops_blank _
  | name hname =>
    rw [List.append_assoc]
    exact stops_of_run hname.letters.1 hname.letters.2 isBlank_of_isLetter _

/-- A date that is not in the ISO form does not end in a blank. -/
theorem WholeText.stops_blank_reverse {year : Nat} {p : List Char} {f : DateFields}
    (hp : WholeText year p f) : Stops Text.isBlank p.reverse := by
  cases hp with
  | named hname hw hd hw' hy => rw [List.reverse_append]; exact hy.stops_blank_reverse _
  | yearless hname hw hd => rw [List.reverse_append]; exact hd.stops_blank_reverse _
  | slashed hm hd hy => rw [List.reverse_append]; exact hy.stops_blank_reverse _

/-- Every date ends with a digit, and so with no blank. -/
theorem DateText.stops_blank_reverse {reference date : Date} {p : List Char}
    (hp : DateText reference p date) : Stops Text.isBlank p.reverse := by
  cases hp with
  | whole hp => exact hp.stops_blank_reverse
  | iso hp =>
    cases hp with
    | mk hy hm hd => rw [List.reverse_append]; exact hd.stops_blank_reverse _

/-! ## Literal dates -/

/-- The ISO form starts with four digits, which no other form does. -/
theorem fails_isoFields {w p : List Char} {year : Nat} {f : DateFields}
    (hw : Text.allBlank w = true) (hp : WholeText year p f) (rest : List Char) :
    isoFields.Fails (w ++ p ++ rest) := by
  rw [List.append_assoc]
  refine fails_bind_of_ok (space0_append hw (hp.front.stops_blank rest)) (fails_bind _ ?_)
  have hname : ∀ {name : List Char} {month : Nat} (t : List Char), IsMonthName name month →
      (figures 4 4).Fails (name ++ t) := by
    intro name month t h
    obtain ⟨hne, hletters⟩ := h.letters
    have hstop := stops_digit_of_letters hne hletters t
    show (figures 4 4).Fails ([] ++ (name ++ t))
    exact fails_figures rfl (by decide) (by decide) hstop
  cases hp with
  | named h => simp only [List.append_assoc]; exact hname _ h
  | yearless h => simp only [List.append_assoc]; exact hname _ h
  | slashed hm =>
    simp only [List.append_assoc, List.cons_append, List.nil_append]
    have hlt := Nat.lt_of_le_of_lt hm.le_most (by decide : 2 < 4)
    exact fails_figures hm.all_digits hlt (by decide) (stops_cons.2 (by decide))

/-- **A date with blanks before it is read as that date**, when a sign or the end of the text comes
next. -/
theorem literal_append {reference date : Date} {w p rest : List Char}
    (hw : Text.allBlank w = true) (hp : DateText reference p date) (hrest : EndsAnchor rest) :
    literal reference (w ++ p ++ rest) = .ok (date, rest) := by
  cases hp with
  | iso hp hdate => simp only [literal, isoFields_append hw hp hrest.stops_digit, hdate]
  | whole hp hdate =>
    -- Without the ISO form, what is trimmed is the text up to the next sign.
    obtain ⟨m, hno⟩ := fails_isoFields hw hp rest
    have hseg : segment (w ++ p ++ rest) = w ++ p ++ segment rest :=
      segment_append (unsigned_append.2 ⟨unsigned_of_all hw isSign_of_isBlank, hp.unsigned⟩) rest
    have hlead : (w ++ p ++ segment rest).takeWhile Text.isBlank = w := by
      rw [List.append_assoc]
      exact takeWhile_run hw (hp.front.stops_blank _)
    have htrim : Text.trim (w ++ p ++ segment rest) = p :=
      trim_append hw hrest (hp.front.stops_blank _) hp.stops_blank_reverse
    have hdrop : (w ++ p ++ rest).drop (w.length + p.length) = rest := by
      rw [← List.length_append, List.drop_left]
    simp only [literal, hno, hseg, hlead, htrim, wholeFields_append hp, hdate, hdrop]

/-- A literal date that is read is the text of that date, with blanks before it. -/
theorem literal_sound {reference date : Date} {s rest : List Char}
    (h : literal reference s = .ok (date, rest)) :
    ∃ w p, s = w ++ p ++ rest ∧ Text.allBlank w = true ∧ DateText reference p date := by
  unfold literal at h
  split at h
  · rename_i f rest' hiso
    split at h
    · rename_i date' hdate
      cases h
      obtain ⟨w, p, rfl, hw, hp⟩ := isoFields_sound hiso
      exact ⟨w, p, rfl, hw, .iso hp hdate⟩
    · cases h
  · simp only at h
    split at h
    · rename_i f rest' hwhole
      split at h
      · rename_i date' hdate
        cases h
        refine ⟨(segment s).takeWhile Text.isBlank, Text.trim (segment s), ?_, List.all_takeWhile,
          .whole (wholeFields_sound hwhole) hdate⟩
        -- The date and the blanks before it begin the text up to the next sign.
        obtain ⟨w, hseg, -⟩ := eq_append_trim (segment s)
        obtain ⟨t, hs⟩ : ∃ t, s = segment s ++ t := ⟨_, List.takeWhile_append_dropWhile.symm⟩
        rw [hseg, List.append_assoc] at hs
        have hdrop : List.drop ((segment s).takeWhile Text.isBlank ++ Text.trim (segment s)).length
            (((segment s).takeWhile Text.isBlank ++ Text.trim (segment s)) ++ (w ++ t)) =
              w ++ t := List.drop_left
        rw [List.length_append, ← hs] at hdrop
        rw [hdrop]
        exact hs
      · cases h
    · cases h

/-! ## Anchors -/

theorem anchorWords_prefixFree : PrefixFree anchorWords := by decide

/-- No keyword begins the name of a month. -/
theorem anchorWords_not_prefix :
    ∀ e ∈ anchorWords, ∀ e' ∈ monthNames,
      ¬ e.1.toList.map Char.toLower <+: e'.1.toList := by
  decide

theorem anchorWords_letters :
    ∀ e ∈ anchorWords, e.1.toList ≠ [] ∧ e.1.toList.all isLetter = true := by
  decide

/-- No keyword stands where a name of a month does. -/
theorem not_keyword_prefix_name {name rest : List Char} {month : Nat} (h : IsMonthName name month)
    (hrest : Stops isLetter rest) : ∀ e ∈ anchorWords, ¬ e.1.toList <+: name ++ rest := by
  intro e he hpre
  obtain ⟨t, ht⟩ := prefix_of_run (anchorWords_letters e he).2 hpre h.letters.2 hrest
  obtain ⟨word, hmem, hlower⟩ := h
  refine anchorWords_not_prefix e he _ hmem ⟨t.map Char.toLower, ?_⟩
  rw [← hlower, ← ht, List.map_append]

/-- No keyword stands before a text that does not start with a letter. -/
theorem not_keyword_prefix {s : List Char} (hs : Stops isLetter s) :
    ∀ e ∈ anchorWords, ¬ e.1.toList <+: s := by
  rintro e he ⟨t, rfl⟩
  obtain ⟨hne, hletters⟩ := anchorWords_letters e he
  exact not_stops_run hne hletters t hs

/-- A date hides no keyword, whatever blanks are before it. -/
theorem fails_keyword {reference date : Date} {w p : List Char} (hw : Text.allBlank w = true)
    (hp : DateText reference p date) (rest : List Char) :
    (oneOf anchorWords .date).Fails (w ++ p ++ rest) := by
  rw [fails_oneOf_iff]
  cases w with
  | cons c w =>
    exact not_keyword_prefix (stops_cons.2 (isLetter_of_isBlank (allBlank_cons.1 hw).1))
  | nil =>
    rw [List.nil_append]
    cases hp.front with
    | figures hds =>
      rw [List.append_assoc]
      exact not_keyword_prefix (stops_of_run hds.ne_nil hds.all_digits isLetter_of_isDigit _)
    | name hname hw =>
      simp only [List.append_assoc]
      exact not_keyword_prefix_name hname (hw.stops_letter _)

theorem keyword_append (reference : Date) {word : String} {a : Anchor}
    (hmem : (word, a) ∈ anchorWords) (rest : List Char) :
    anchor reference (word.toList ++ rest) = .ok (a, rest) :=
  orElse_eq_ok_iff.2 (Or.inl (anchorWords_prefixFree.oneOf_append hmem rest))

/-- **An anchor is read exactly from its texts.** -/
theorem anchor_reads (reference : Date) :
    (anchor reference).Reads (AnchorText reference) EndsAnchor where
  sound {s rest a} h := by
    rcases orElse_eq_ok_iff.1 h with h | ⟨-, h⟩
    · obtain ⟨word, hmem, rfl⟩ := oneOf_sound h
      refine ⟨word.toList, rfl, ?_⟩
      simp only [anchorWords, List.mem_cons, List.not_mem_nil, or_false, Prod.mk.injEq] at hmem
      rcases hmem with ⟨rfl, rfl⟩ | ⟨rfl, rfl⟩ | ⟨rfl, rfl⟩ | ⟨rfl, rfl⟩
      · exact .today
      · exact .now
      · exact .yesterday
      · exact .tomorrow
    · obtain ⟨date, mid, hdate, hpure⟩ := bind_eq_ok_iff.1 h
      obtain ⟨rfl, rfl⟩ := pure_eq_ok_iff.1 hpure
      obtain ⟨w, p, rfl, hw, hp⟩ := literal_sound hdate
      exact ⟨w ++ p, rfl, .literal hw hp⟩
  complete {p rest a} h hrest := by
    cases h with
    | today => exact keyword_append reference (by decide) rest
    | now => exact keyword_append reference (by decide) rest
    | yesterday => exact keyword_append reference (by decide) rest
    | tomorrow => exact keyword_append reference (by decide) rest
    | literal hw hp =>
      refine orElse_eq_ok_iff.2 (Or.inr ⟨fails_keyword hw hp rest, ?_⟩)
      exact bind_eq_ok_iff.2 ⟨_, _, literal_append hw hp hrest, rfl⟩

end DateCalc.Grammar
