/-
  Relative expressions are read as the grammar spells them.

  What stands behind an anchor, blanks and then a sign or the end, is also what stands behind a
  period with shifts, and no trailing phrase can be read there.  A sentence, on the other hand,
  ends in front of every trailing phrase: each of them starts with one blank and a letter that does
  not begin the word "and" with its second.
-/
import DateCalc.Proofs.Grammar.Sentences

namespace DateCalc.Grammar

open Rule Token

/-! ## What stands behind an anchor -/

/-- Behind an anchor come blanks, and then a sign or the end. -/
theorem EndsAnchor.split {t : List Char} (h : EndsAnchor t) :
    ∃ w t', t = w ++ t' ∧ Text.allBlank w = true ∧ Stops (fun c => !isSign c) t' :=
  ⟨segment t, _, List.takeWhile_append_dropWhile.symm, h, stops_dropWhile _ t⟩

/-- A text that starts with nothing but a sign starts with no character of another class. -/
theorem stops_of_sign {p : Char → Bool} {t : List Char} (h : Stops (fun c => !isSign c) t)
    (hplus : p '+' = false) (hminus : p '-' = false) : Stops p t := by
  cases t with
  | nil => exact stops_nil p
  | cons c t =>
    rw [stops_cons, Bool.not_eq_false', isSign, Bool.or_eq_true, beq_iff_eq, beq_iff_eq] at h
    rw [stops_cons]
    rcases h with rfl | rfl
    · exact hplus
    · exact hminus

/-- Behind an anchor stands no character but blanks and signs. -/
theorem EndsAnchor.stops {d : Char} {t : List Char} (h : EndsAnchor t)
    (hblank : Text.isBlank d = false) (hsign : isSign d = false) : Stops (· == d) t := by
  obtain ⟨w, t', rfl, hw, ht'⟩ := h.split
  cases w with
  | nil =>
    rw [isSign, Bool.or_eq_false_iff, beq_eq_false_iff_ne, beq_eq_false_iff_ne] at hsign
    exact stops_of_sign ht' (beq_false_of_ne hsign.1.symm) (beq_false_of_ne hsign.2.symm)
  | cons c w =>
    rw [allBlank_cons] at hw
    exact stops_of_blank hw.1 hblank _

/-- A period that is followed by blanks, shifts or nothing is a whole sentence. -/
theorem EndsAnchor.endsSentence {t : List Char} (h : EndsAnchor t) : EndsSentence t where
  noPlural := h.stops (by decide) (by decide)
  noComma := h.stops (by decide) (by decide)
  noAnd := by
    obtain ⟨w, t', rfl, hw, ht'⟩ := h.split
    have hblank : Stops Text.isBlank t' := stops_of_sign ht' (by decide) (by decide)
    -- Where blanks stand, what follows them is a sign or nothing, and so not the word.
    by_cases hne : w = []
    · rw [hne, List.nil_append]
      exact fails_bind _ (fails_space1_iff.2 hblank)
    · have htag : (tag "and").Fails t' :=
        fails_tag_of_stops (rfl : "and".toList = ['a', 'n', 'd'])
          (stops_of_sign ht' (by decide) (by decide))
      exact fails_bind_of_ok (space1_append ⟨hw, hne⟩ hblank) (fails_bind _ htag)

/-- No trailing phrase stands where an anchor may end. -/
theorem EndsAnchor.fails_trailers {t : List Char} (h : EndsAnchor t) :
    (oneOf trailers .trailer).Fails t := by
  rw [fails_oneOf_iff]
  have hwords : ∀ e ∈ trailers, ¬ EndsAnchor e.1.toList ∧ Unsigned e.1.toList := by
    unfold EndsAnchor Unsigned
    decide
  -- A phrase has no sign, so it would stand before the next one, where only blanks may stand.
  rintro e he ⟨u, rfl⟩
  obtain ⟨hnot, hunsigned⟩ := hwords e he
  apply hnot
  rw [EndsAnchor, segment_append hunsigned, Text.allBlank, List.all_append, Bool.and_eq_true] at h
  have hseg := segment_append hunsigned []
  rw [List.append_nil] at hseg
  rw [EndsAnchor, hseg]
  simpa [segment, Text.allBlank] using h.1

/-- A shift ends the anchor before it. -/
theorem ShiftText.endsAnchor {p : List Char} {a : Shift} (h : ShiftText p a)
    (rest : List Char) : EndsAnchor (p ++ rest) := by
  cases h with
  | mk sg hw hw' hp =>
    simp only [List.append_assoc, List.cons_append, List.nil_append]
    exact endsAnchor_sign hw (by cases sg <;> decide) _

/-- Shifts end the anchor before them, and without any what follows does. -/
theorem endsAnchor_shifts {p rest : List Char} {as : List Shift} (h : Each ShiftText p as)
    (hrest : EndsAnchor rest) : EndsAnchor (p ++ rest) := by
  cases h with
  | nil => exact hrest
  | cons hp _ => rw [List.append_assoc]; exact hp.endsAnchor _

/-- Only blanks stand before the end, and so no shift. -/
theorem fails_shift_blanks {w : List Char} (hw : Text.allBlank w = true) : shift.Fails w := by
  have h : shift.Fails (w ++ []) := fails_shift hw (stops_nil _) (stops_nil _)
  rwa [List.append_nil] at h

/-- Behind the blanks before it, an anchor starts with no blank. -/
theorem AnchorText.trimmed {reference : Date} {q : List Char} {b : Anchor}
    (h : AnchorText reference q b) :
    ∃ w q', q = w ++ q' ∧ Text.allBlank w = true ∧ AnchorText reference q' b ∧
      ∀ rest, Stops Text.isBlank (q' ++ rest) := by
  cases h with
  | today => exact ⟨[], _, rfl, rfl, .today, fun _ => stops_cons.2 (by decide)⟩
  | now => exact ⟨[], _, rfl, rfl, .now, fun _ => stops_cons.2 (by decide)⟩
  | yesterday => exact ⟨[], _, rfl, rfl, .yesterday, fun _ => stops_cons.2 (by decide)⟩
  | tomorrow => exact ⟨[], _, rfl, rfl, .tomorrow, fun _ => stops_cons.2 (by decide)⟩
  | literal hw hp => exact ⟨_, _, rfl, hw, .literal (w := []) rfl hp, hp.front.stops_blank⟩

/-! ## Relative expressions -/

theorem trailers_prefixFree : PrefixFree trailers := by decide

/-- A sentence ends in front of every trailing phrase. -/
theorem endsSentence_trailer {phrase : String} {x : Sign × Bool} (h : (phrase, x) ∈ trailers)
    (rest : List Char) : EndsSentence (phrase.toList ++ rest) := by
  have hand : ∀ c t, Text.isBlank c = false → ¬ "and".toList <+: c :: t →
      conjunction.Fails (' ' :: c :: t) := by
    intro c t hc hno
    have hgap : Gap [' '] := ⟨by decide, List.cons_ne_nil _ _⟩
    exact fails_bind_of_ok (space1_append hgap (stops_cons.2 hc))
      (fails_bind _ (fails_tag_iff.2 hno))
  simp only [trailers, List.mem_cons, List.not_mem_nil, or_false, Prod.mk.injEq] at h
  rcases h with ⟨rfl, -⟩ | ⟨rfl, -⟩ | ⟨rfl, -⟩ | ⟨rfl, -⟩
  all_goals
    refine ⟨stops_cons.2 (by decide), stops_cons.2 (by decide), hand _ _ (by decide) ?_⟩
    rintro ⟨t, ht⟩
    cases ht

/-- A sentence with "ago" is read as shifts back from today. -/
theorem relativeExpression_ago (reference : Date) {p : List Char} {list : Sentence}
    (hp : SentenceText p list) (rest : List Char) :
    relativeExpression reference (p ++ " ago".toList ++ rest) =
      .ok (list.shiftedFrom .minus .today, rest) := by
  have hmem : (" ago", (Sign.minus, false)) ∈ trailers := by decide
  rw [List.append_assoc]
  refine bind_eq_ok_iff.2 ⟨⟨.today, ⟨.minus, list.first⟩, list.more.map fun p => ⟨.minus, p⟩⟩,
    rest, ?_, rfl⟩
  refine bind_eq_ok_iff.2 ⟨_, _, sentence_reads.complete hp (endsSentence_trailer hmem rest), ?_⟩
  exact bind_eq_ok_iff.2 ⟨_, _, trailers_prefixFree.oneOf_append hmem rest, rfl⟩

/-- A sentence with an anchor is read as shifts from there, in the direction of its phrase. -/
theorem relativeExpression_anchored {reference : Date} {p q rest : List Char} {list : Sentence}
    {a : Anchor} {phrase : String} {direction : Sign}
    (hmem : (phrase, (direction, true)) ∈ trailers) (hp : SentenceText p list)
    (hq : AnchorText reference q a) (hrest : EndsAnchor rest) :
    relativeExpression reference (p ++ phrase.toList ++ q ++ rest) =
      .ok (list.shiftedFrom direction a, rest) := by
  have hanchor := (anchor_reads reference).complete hq hrest
  simp only [List.append_assoc]
  refine bind_eq_ok_iff.2 ⟨⟨a, ⟨direction, list.first⟩, list.more.map fun p => ⟨direction, p⟩⟩,
    rest, ?_, rfl⟩
  refine bind_eq_ok_iff.2 ⟨_, _, sentence_reads.complete hp (endsSentence_trailer hmem _), ?_⟩
  refine bind_eq_ok_iff.2 ⟨_, _, trailers_prefixFree.oneOf_append hmem _, ?_⟩
  show (anchor reference >>= fun start => pure (Relative.mk start ⟨direction, list.first⟩
    (list.more.map fun p => ⟨direction, p⟩))) (q ++ rest) = _
  exact bind_eq_ok_iff.2 ⟨_, _, hanchor, rfl⟩

/-- A sentence with a phrase that is read is a text of its shifts. -/
theorem relativeExpression_sound {reference : Date} {s rest : List Char} {e : Expression}
    (h : relativeExpression reference s = .ok (e, rest)) :
    ∃ p, s = p ++ rest ∧ ExpressionText reference p e := by
  obtain ⟨r, s₁, hrelative, hpure⟩ := bind_eq_ok_iff.1 h
  obtain ⟨rfl, rfl⟩ := pure_eq_ok_iff.1 hpure
  obtain ⟨list, s₂, hlist, h₁⟩ := bind_eq_ok_iff.1 hrelative
  obtain ⟨⟨direction, anchored⟩, s₃, htrailer, h₂⟩ := bind_eq_ok_iff.1 h₁
  obtain ⟨p, rfl, hp⟩ := sentence_reads.sound hlist
  obtain ⟨phrase, hmem, rfl⟩ := oneOf_sound htrailer
  simp only [trailers, List.mem_cons, List.not_mem_nil, or_false, Prod.mk.injEq] at hmem
  cases anchored with
  | false =>
    obtain ⟨rfl, rfl, -⟩ : phrase = " ago" ∧ direction = .minus ∧ True := by simpa using hmem
    cases h₂
    exact ⟨_, (List.append_assoc ..).symm, .ago hp⟩
  | true =>
    have h₃ : (anchor reference >>= fun start => pure (Relative.mk start ⟨direction, list.first⟩
        (list.more.map fun p => ⟨direction, p⟩))) s₃ = .ok (r, s₁) := h₂
    obtain ⟨a, s₄, hanchor, hpure'⟩ := bind_eq_ok_iff.1 h₃
    obtain ⟨rfl, rfl⟩ := pure_eq_ok_iff.1 hpure'
    obtain ⟨q, rfl, hq⟩ := (anchor_reads reference).sound hanchor
    refine ⟨p ++ phrase.toList ++ q, by simp only [List.append_assoc], ?_⟩
    rcases hmem with ⟨-, -, hno⟩ | ⟨rfl, rfl, -⟩ | ⟨rfl, rfl, -⟩ | ⟨rfl, rfl, -⟩
    · cases hno
    · exact .fromAnchor hp hq
    · exact .afterAnchor hp hq
    · exact .beforeAnchor hp hq

end DateCalc.Grammar
