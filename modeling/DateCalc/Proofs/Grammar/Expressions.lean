/-
  The rule for expressions reads exactly the order-free grammar.

  Each alternative is read as it is spelled.  That their order takes nothing away rests on two
  facts: no text starts both with an anchor and with a period, and what may stand behind an anchor
  or a period in one alternative, blanks and signs or a trailing phrase, is refused by the
  alternatives tried before it.

  Three statements follow: a text is read in full as an expression exactly when the grammar derives
  it with that value, the grammar gives no text two values, and what is consumed of any text is a
  text of the grammar by itself.
-/
import Mathlib.Data.Set.Subsingleton
import DateCalc.Proofs.Grammar.Relative

namespace DateCalc.Grammar

open Rule Token

/-! ## What is consumed is derivable -/

/-- An anchor with shifts that is read is a text of that expression. -/
theorem anchorWithShifts_sound {reference : Date} {s rest : List Char} {e : Expression}
    (h : anchorWithShifts reference s = .ok (e, rest)) :
    ∃ p, s = p ++ rest ∧ ExpressionText reference p e := by
  obtain ⟨a, s₁, hanchor, h⟩ := bind_eq_ok_iff.1 h
  obtain ⟨first, s₂, hshift, h⟩ := bind_eq_ok_iff.1 h
  obtain ⟨more, s₃, hshifts, hpure⟩ := bind_eq_ok_iff.1 h
  obtain ⟨rfl, rfl⟩ := pure_eq_ok_iff.1 hpure
  obtain ⟨p, rfl, hp⟩ := (anchor_reads reference).sound hanchor
  obtain ⟨q, rfl, hq⟩ := shift_reads.sound hshift
  obtain ⟨qs, rfl, hqs⟩ := shifts_sound hshifts
  exact ⟨p ++ q ++ qs, by simp only [List.append_assoc], .shifted hp hq hqs⟩

/-- Two anchors with a hyphen that are read are a text of their difference. -/
theorem difference_sound {reference : Date} {s rest : List Char} {e : Expression}
    (h : difference reference s = .ok (e, rest)) :
    ∃ p, s = p ++ rest ∧ ExpressionText reference p e := by
  obtain ⟨a, s₁, hstart, h⟩ := bind_eq_ok_iff.1 h
  obtain ⟨_, s₂, hspace, h⟩ := bind_eq_ok_iff.1 h
  obtain ⟨_, s₃, htag, h⟩ := bind_eq_ok_iff.1 h
  obtain ⟨_, s₄, hspace', h⟩ := bind_eq_ok_iff.1 h
  obtain ⟨b, s₅, hfinish, hpure⟩ := bind_eq_ok_iff.1 h
  obtain ⟨rfl, rfl⟩ := pure_eq_ok_iff.1 hpure
  obtain ⟨p, rfl, hp⟩ := (anchor_reads reference).sound hstart
  obtain ⟨w, rfl, hw, -⟩ := space0_sound hspace
  obtain rfl := tag_sound htag
  obtain ⟨w', rfl, hw', -⟩ := space0_sound hspace'
  obtain ⟨q, rfl, hq⟩ := (anchor_reads reference).sound hfinish
  exact ⟨p ++ w ++ ['-'] ++ w' ++ q, by simp, .difference hp hw hw' hq⟩

/-- A period with shifts that is read is a text of that chain. -/
theorem periodChain_sound (reference : Date) {s rest : List Char} {e : Expression}
    (h : periodChain s = .ok (e, rest)) :
    ∃ p, s = p ++ rest ∧ ExpressionText reference p e := by
  obtain ⟨base, s₁, hperiod, h⟩ := bind_eq_ok_iff.1 h
  obtain ⟨shifts, s₂, hshifts, hpure⟩ := bind_eq_ok_iff.1 h
  obtain ⟨rfl, rfl⟩ := pure_eq_ok_iff.1 hpure
  obtain ⟨p, rfl, hp⟩ := period_reads.sound hperiod
  obtain ⟨qs, rfl, hqs⟩ := shifts_sound hshifts
  exact ⟨p ++ qs, by simp only [List.append_assoc], .chain hp hqs⟩

/-- **Soundness**: whatever the rule consumes, the grammar derives with the value it gives. -/
theorem expression_sound {reference : Date} {s rest : List Char} {e : Expression}
    (h : expression reference s = .ok (e, rest)) :
    ∃ p, s = p ++ rest ∧ ExpressionText reference p e := by
  simp only [expression, expressionForms, firstMatch_cons_eq_ok_iff, firstMatch_nil_ne_ok,
    and_false, or_false] at h
  rcases h with h | ⟨-, h | ⟨-, h | ⟨-, h | ⟨-, h⟩⟩⟩⟩
  · exact anchorWithShifts_sound h
  · exact difference_sound h
  · exact relativeExpression_sound h
  · obtain ⟨a, s₁, hanchor, hpure⟩ := bind_eq_ok_iff.1 h
    obtain ⟨rfl, rfl⟩ := pure_eq_ok_iff.1 hpure
    obtain ⟨p, rfl, hp⟩ := (anchor_reads reference).sound hanchor
    exact ⟨p, rfl, .anchor hp⟩
  · exact periodChain_sound reference h

/-! ## Alternatives that refuse -/

section Refuse

variable {reference : Date} {p rest : List Char}

/-- Where no anchor stands, the three alternatives that start with one refuse. -/
theorem fails_of_no_anchor (h : (anchor reference).Fails p) :
    (anchorWithShifts reference).Fails p ∧ (difference reference).Fails p ∧
      (loneAnchor reference).Fails p :=
  ⟨fails_bind _ h, fails_bind _ h, fails_bind _ h⟩

/-- Where no period stands, no sentence does. -/
theorem fails_relativeExpression_of_no_period (h : period.Fails p) :
    (relativeExpression reference).Fails p := by
  refine fails_bind _ (fails_bind _ ?_)
  simp only [sentence, sentenceForms, fails_firstMatch_cons_iff]
  exact ⟨fails_bind _ (fails_bind _ h), fails_bind _ h, fails_bind _ h, fails_firstMatch_nil p⟩

/-- A period with nothing but shifts behind it has no trailing phrase. -/
theorem fails_relativeExpression_of_chain {base : Period} (hp : PeriodText p base)
    (hrest : EndsAnchor rest) : (relativeExpression reference).Fails (p ++ rest) := by
  have hlist := sentence_reads.complete (.single hp) hrest.endsSentence
  exact fails_bind _ (fails_bind_of_ok hlist (fails_bind _ hrest.fails_trailers))

/-- Two anchors with a hyphen between them are no anchor with shifts: a period would have to stand
behind the hyphen. -/
theorem fails_anchorWithShifts_of_difference {w w' q : List Char} {a b : Anchor}
    (hp : AnchorText reference p a) (hw : Text.allBlank w = true)
    (hw' : Text.allBlank w' = true) (hq : AnchorText reference q b) :
    (anchorWithShifts reference).Fails (p ++ w ++ ['-'] ++ w' ++ q ++ rest) := by
  -- The hyphen may be followed by blanks of its own and of the second anchor.
  obtain ⟨w₀, q', rfl, hw₀, hq', hstop⟩ := hq.trimmed
  have hshift := fails_shift_of_period .minus hw (allBlank_append.2 ⟨hw', hw₀⟩) (hstop rest)
    (fails_period_of_anchor hq' rest)
  have hanchor := (anchor_reads reference).complete hp
    (endsAnchor_sign hw (c := '-') (by decide) (w' ++ w₀ ++ (q' ++ rest)))
  simp only [List.append_assoc, List.cons_append, List.nil_append] at hshift hanchor ⊢
  exact fails_bind_of_ok hanchor (fails_bind _ hshift)

/-- Behind an anchor at the end of the text there is no second anchor. -/
theorem fails_difference_of_blanks {w : List Char} {a : Anchor} (hp : AnchorText reference p a)
    (hw : Text.allBlank w = true) : (difference reference).Fails (p ++ w) := by
  have hanchor := (anchor_reads reference).complete hp (endsAnchor_blanks hw)
  have hspace : space0 (w ++ []) = .ok ((), []) := space0_append hw (stops_nil _)
  rw [List.append_nil] at hspace
  exact fails_bind_of_ok hanchor (fails_bind_of_ok hspace
    (fails_bind _ (fails_tag_iff.2 (by decide))))

end Refuse

/-! ## What is derivable is consumed -/

/-- A sentence starts with a period. -/
theorem SentenceText.front {p : List Char} {list : Sentence} (h : SentenceText p list) :
    ∃ q t a, p = q ++ t ∧ PeriodText q a := by
  cases h with
  | single hp => exact ⟨p, [], _, (List.append_nil p).symm, hp⟩
  | pair hp => exact ⟨_, _, _, List.append_assoc .., hp⟩
  | list hp =>
    simp only [List.append_assoc]
    exact ⟨_, _, _, rfl, hp⟩

/-- A row of shifts behind an anchor or a period is read up to blanks at the end. -/
theorem shifts_blanks {qs rest : List Char} {as : List Shift} (hqs : Each ShiftText qs as)
    (hrest : Text.allBlank rest = true) : shifts (qs ++ rest) = .ok (as, rest) :=
  shifts_append hqs (endsAnchor_blanks hrest).endsSentence.noPlural (fails_shift_blanks hrest)

/-- An anchor and shifts are read as these, up to blanks at the end. -/
theorem anchorWithShifts_append {reference : Date} {p q qs rest : List Char} {a : Anchor}
    {first : Shift} {more : List Shift} (hp : AnchorText reference p a) (hq : ShiftText q first)
    (hqs : Each ShiftText qs more) (hrest : Text.allBlank rest = true) :
    anchorWithShifts reference (p ++ q ++ qs ++ rest) = .ok (.shifted a first more, rest) := by
  simp only [List.append_assoc]
  have hplural := (endsAnchor_shifts hqs (endsAnchor_blanks hrest)).endsSentence.noPlural
  refine bind_eq_ok_iff.2 ⟨_, _, (anchor_reads reference).complete hp (hq.endsAnchor _), ?_⟩
  refine bind_eq_ok_iff.2 ⟨_, _, shift_reads.complete hq hplural, ?_⟩
  exact bind_eq_ok_iff.2 ⟨_, _, shifts_blanks hqs hrest, rfl⟩

/-- Two anchors with a hyphen are read as their difference, up to blanks at the end. -/
theorem difference_append {reference : Date} {p w w' q rest : List Char} {a b : Anchor}
    (hp : AnchorText reference p a) (hw : Text.allBlank w = true)
    (hw' : Text.allBlank w' = true) (hq : AnchorText reference q b)
    (hrest : Text.allBlank rest = true) :
    difference reference (p ++ w ++ ['-'] ++ w' ++ q ++ rest) =
      .ok (.difference a b, rest) := by
  obtain ⟨w₀, q', rfl, hw₀, hq', hstop⟩ := hq.trimmed
  have hspace := space0_append (allBlank_append.2 ⟨hw', hw₀⟩) (hstop rest)
  simp only [List.append_assoc, List.cons_append, List.nil_append] at hspace ⊢
  refine bind_eq_ok_iff.2 ⟨_, _, (anchor_reads reference).complete hp ?_, ?_⟩
  · exact endsAnchor_sign hw (by decide) _
  refine bind_eq_ok_iff.2 ⟨_, _, space0_append hw (stops_cons.2 (by decide)), ?_⟩
  refine bind_eq_ok_iff.2 ⟨_, _, tag_append "-" _, ?_⟩
  refine bind_eq_ok_iff.2 ⟨_, _, hspace, ?_⟩
  exact bind_eq_ok_iff.2 ⟨_, _, (anchor_reads reference).complete hq' (endsAnchor_blanks hrest), rfl⟩

/-- A relative expression is left to its own alternative, since no anchor starts with a period. -/
theorem expression_of_relative {reference : Date} {p q rest : List Char} {list : Sentence}
    {e : Expression} (hp : SentenceText p list)
    (h : relativeExpression reference (p ++ q) = .ok (e, rest)) :
    expression reference (p ++ q) = .ok (e, rest) := by
  obtain ⟨t, u, a, rfl, ht⟩ := hp.front
  have hno := fails_anchor_of_period reference ht (u ++ q)
  rw [← List.append_assoc] at hno
  obtain ⟨hshifted, hdifference, -⟩ := fails_of_no_anchor hno
  simp only [expression, expressionForms, firstMatch_cons_eq_ok_iff]
  exact Or.inr ⟨hshifted, Or.inr ⟨hdifference, Or.inl h⟩⟩

/-- A sentence with an anchor is read as shifts from there, whichever alternatives come before. -/
theorem expression_anchored {reference : Date} {p q rest : List Char} {list : Sentence}
    {a : Anchor} (phrase : String) {direction : Sign}
    (hmem : (phrase, (direction, true)) ∈ trailers) (hp : SentenceText p list)
    (hq : AnchorText reference q a) (hrest : EndsAnchor rest) :
    expression reference (p ++ phrase.toList ++ q ++ rest) =
      .ok (list.shiftedFrom direction a, rest) := by
  have h := relativeExpression_anchored hmem hp hq hrest
  simp only [List.append_assoc] at h ⊢
  exact expression_of_relative hp h

/-- **Completeness**: in front of blanks and the end, whatever the grammar derives is consumed whole
and gives its value. -/
theorem expression_append {reference : Date} {p rest : List Char} {e : Expression}
    (h : ExpressionText reference p e) (hrest : Text.allBlank rest = true) :
    expression reference (p ++ rest) = .ok (e, rest) := by
  have hend := endsAnchor_blanks hrest
  cases h with
  | shifted hp hq hqs =>
    simp only [expression, expressionForms, firstMatch_cons_eq_ok_iff]
    exact Or.inl (anchorWithShifts_append hp hq hqs hrest)
  | difference hp hw hw' hq =>
    simp only [expression, expressionForms, firstMatch_cons_eq_ok_iff]
    exact Or.inr ⟨fails_anchorWithShifts_of_difference hp hw hw' hq,
      Or.inl (difference_append hp hw hw' hq hrest)⟩
  | ago hp =>
    have h := relativeExpression_ago reference hp rest
    rw [List.append_assoc] at h ⊢
    exact expression_of_relative hp h
  | fromAnchor hp hq =>
    exact expression_anchored " from " (by decide) hp hq hend
  | afterAnchor hp hq =>
    exact expression_anchored " after " (by decide) hp hq hend
  | beforeAnchor hp hq =>
    exact expression_anchored " before " (by decide) hp hq hend
  | anchor hp =>
    have hanchor := (anchor_reads reference).complete hp hend
    simp only [expression, expressionForms, firstMatch_cons_eq_ok_iff]
    -- No shift and no hyphen follows, and a sentence would start with a period.
    refine Or.inr ⟨fails_bind_of_ok hanchor (fails_bind _ (fails_shift_blanks hrest)),
      Or.inr ⟨fails_difference_of_blanks hp hrest, Or.inr ⟨?_, Or.inl ?_⟩⟩⟩
    · exact fails_relativeExpression_of_no_period (fails_period_of_anchor hp rest)
    · exact bind_eq_ok_iff.2 ⟨_, _, hanchor, rfl⟩
  | @chain p qs base shifts hp hqs =>
    have hshifts := endsAnchor_shifts hqs hend
    rw [List.append_assoc]
    -- Three alternatives want an anchor at the front, and one a trailing phrase behind the period.
    obtain ⟨hshifted, hdifference, hlone⟩ :=
      fails_of_no_anchor (fails_anchor_of_period reference hp (qs ++ rest))
    simp only [expression, expressionForms, firstMatch_cons_eq_ok_iff]
    refine Or.inr ⟨hshifted, Or.inr ⟨hdifference, Or.inr
      ⟨fails_relativeExpression_of_chain hp hshifts, Or.inr ⟨hlone, Or.inl ?_⟩⟩⟩⟩
    refine bind_eq_ok_iff.2 ⟨_, _, period_reads.complete hp hshifts.endsSentence.noPlural, ?_⟩
    exact bind_eq_ok_iff.2 ⟨_, _, shifts_blanks hqs hrest, rfl⟩

/-! ## The grammar and its reading -/

/-- A text is read in full exactly when the grammar derives it, with the same value. -/
theorem parse_full_iff {reference : Date} {text : List Char} {e : Expression} :
    parseExpression reference text = .full e ↔ ExpressionText reference text e := by
  rw [parseExpression, parse_eq_full_iff]
  constructor
  · intro h
    obtain ⟨p, rfl, hp⟩ := expression_sound h
    rwa [List.append_nil]
  · intro h
    have hwhole : expression reference (text ++ []) = .ok (e, []) := expression_append h rfl
    rwa [List.append_nil] at hwhole

/-- **The grammar decides the reading**: a text is read in full as an expression exactly when the
grammar derives it with that value, and the grammar derives no text with two values. -/
theorem parseExpression_iff_unambiguous (reference : Date) (text : List Char) :
    (∀ e, parseExpression reference text = .full e ↔ ExpressionText reference text e) ∧
      {e | ExpressionText reference text e}.Subsingleton := by
  refine ⟨fun e => parse_full_iff, ?_⟩
  intro e he e' he'
  have hfull : parseExpression reference text = .full e := parse_full_iff.2 he
  rw [parse_full_iff.2 he'] at hfull
  exact (Parsed.full.inj hfull).symm

end DateCalc.Grammar
