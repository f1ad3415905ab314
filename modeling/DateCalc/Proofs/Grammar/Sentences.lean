/-
  Sentences are read as the grammar spells them, and no anchor is taken for a period.

  What stands behind its first period tells the form of a sentence: a comma, the word "and", or
  neither.  The trailing phrases begin differently from each other and from the word "and", so a
  sentence in front of one of them ends where the phrase begins.
-/
import DateCalc.Proofs.Grammar.Anchors
import DateCalc.Proofs.Grammar.Periods

namespace DateCalc.Grammar

open Rule Token

/-! ## Anchors and periods -/

/-- No count is spelled like the beginning of an anchor's keyword, nor like a month. -/
theorem quantityWords_foreign :
    ∀ e ∈ quantityWords, (∀ k ∈ anchorWords, ¬ k.1.toList <+: e.1.toList) ∧
      ∀ m ∈ monthNames, e.1.toList.map Char.toLower ≠ m.1.toList := by
  decide

/-- **The front tells a date from a period**: behind the figures of a date comes a hyphen or a
slash, and its letters name a month, where a period has a count and a gap. -/
theorem DateFront.ne_period {p q rest rest' : List Char} {b : Period} (hp : DateFront p)
    (hq : PeriodText q b) : p ++ rest ≠ q ++ rest' := by
  intro heq
  cases hq with
  | @mk q w v count unit hq hw hv =>
    simp only [List.append_assoc] at heq
    cases hp with
    | @figures ds t c hds hc =>
      simp only [List.append_assoc, List.cons_append] at heq
      cases hq with
      | figures hds' =>
        -- The two numbers are the same digits, so a hyphen or a slash would be a blank.
        have hstop : Stops Char.isDigit (c :: (t ++ rest)) := by
          rw [stops_cons]
          rcases hc with rfl | rfl <;> decide
        obtain ⟨-, hback⟩ := run_unique heq hds.all_digits hds'.all_digits hstop
          (hw.stops_digit _)
        obtain ⟨c', w', rfl, hblank, -⟩ := hw.eq_cons
        obtain rfl : c = c' := (List.cons.inj hback).1
        rcases hc with rfl | rfl <;> exact absurd hblank (by decide)
      | word hmem =>
        obtain ⟨hne, hletters⟩ := quantityWords_letters _ hmem
        exact hds.ne_letters hne hletters _ _ heq
    | @name name w' t month hname hw' =>
      simp only [List.append_assoc] at heq
      cases hq with
      | figures hds =>
        obtain ⟨hne, hletters⟩ := hname.letters
        exact hds.ne_letters hne hletters _ _ heq.symm
      | word hmem =>
        -- The two words are the same letters, so a month would be a count.
        obtain ⟨rfl, -⟩ := run_unique heq hname.letters.2 (quantityWords_letters _ hmem).2
          (hw'.stops_letter _) (hw.stops_letter _)
        obtain ⟨month, hmonth, hlower⟩ := hname
        exact (quantityWords_foreign _ hmem).2 _ hmonth hlower

/-- **No text starts both with an anchor and with a period.** -/
theorem AnchorText.ne_period {reference : Date} {p q rest rest' : List Char} {a : Anchor}
    {b : Period} (hp : AnchorText reference p a) (hq : PeriodText q b) :
    p ++ rest ≠ q ++ rest' := by
  have hkeyword : ∀ k ∈ anchorWords, k.1.toList ++ rest ≠ q ++ rest' := by
    rintro k hk heq
    cases hq with
    | mk hq hw hv =>
      simp only [List.append_assoc] at heq
      obtain ⟨hne, hletters⟩ := anchorWords_letters k hk
      cases hq with
      | figures hds => exact hds.ne_letters hne hletters _ _ heq.symm
      | word hmem =>
        have hpre := prefix_of_run hletters ⟨rest, heq⟩ (quantityWords_letters _ hmem).2
          (hw.stops_letter _)
        exact (quantityWords_foreign _ hmem).1 k hk hpre
  cases hp with
  | today => exact hkeyword ("today", .today) (by decide)
  | now => exact hkeyword ("now", .today) (by decide)
  | yesterday => exact hkeyword ("yesterday", .yesterday) (by decide)
  | tomorrow => exact hkeyword ("tomorrow", .tomorrow) (by decide)
  | @literal w p date hw hp =>
    intro heq
    cases w with
    | nil => exact hp.front.ne_period hq heq
    | cons c w =>
      have hstop := hq.stops_blank rest'
      rw [← heq, List.append_assoc] at hstop
      exact not_stops_run (List.cons_ne_nil c w) hw _ hstop

/-- No period stands where an anchor does. -/
theorem fails_period_of_anchor {reference : Date} {p : List Char} {a : Anchor}
    (hp : AnchorText reference p a) (rest : List Char) : period.Fails (p ++ rest) := by
  apply period_reads.fails
  intro q rest' b hq
  exact hp.ne_period hq

/-- No anchor stands where a period does. -/
theorem fails_anchor_of_period (reference : Date) {q : List Char} {b : Period}
    (hq : PeriodText q b) (rest : List Char) : (anchor reference).Fails (q ++ rest) := by
  apply (anchor_reads reference).fails
  intro p rest' a hp heq
  exact hp.ne_period hq heq.symm

/-! ## The word "and" -/

/-- The word between two periods is read with the blanks around it. -/
theorem conjunction_append {w rest : List Char} (hw : AndText w)
    (hrest : Stops Text.isBlank rest) : conjunction (w ++ rest) = .ok ((), rest) := by
  cases hw with
  | @mk w w' hw hw' =>
    simp only [List.append_assoc]
    have hand : Stops Text.isBlank ("and".toList ++ (w' ++ rest)) := stops_cons.2 (by decide)
    refine bind_eq_ok_iff.2 ⟨_, _, space1_append hw hand, ?_⟩
    refine bind_eq_ok_iff.2 ⟨_, _, tag_append "and" _, ?_⟩
    exact space1_append hw' hrest

/-- The word between two periods that is read has blanks around it. -/
theorem conjunction_sound {s rest : List Char} {u : Unit} (h : conjunction s = .ok (u, rest)) :
    ∃ w, s = w ++ rest ∧ AndText w := by
  obtain ⟨_, s₁, hspace, h⟩ := bind_eq_ok_iff.1 h
  obtain ⟨_, s₂, htag, hspace'⟩ := bind_eq_ok_iff.1 h
  obtain ⟨w, rfl, hw, -⟩ := space1_sound hspace
  obtain rfl := tag_sound htag
  obtain ⟨w', rfl, hw', -⟩ := space1_sound hspace'
  exact ⟨_, by simp only [List.append_assoc], .mk hw hw'⟩

/-- The word between two periods begins with a blank. -/
theorem AndText.eq_cons {w : List Char} (h : AndText w) :
    ∃ c w', w = c :: w' ∧ Text.isBlank c = true := by
  cases h with
  | mk hw =>
    obtain ⟨c, w', rfl, hc, -⟩ := hw.eq_cons
    exact ⟨c, _, rfl, hc⟩

/-- A gap starts with no letter and no comma. -/
theorem stops_of_blank {c d : Char} (hc : Text.isBlank c = true)
    (hd : Text.isBlank d = false) (s : List Char) : Stops (· == d) (c :: s) := by
  rw [stops_cons, beq_eq_false_iff_ne]
  rintro rfl
  rw [hc] at hd
  cases hd

/-! ## Sentences -/

/-- Where a sentence of one period may end: nothing that follows makes it a longer sentence. -/
structure EndsSentence (rest : List Char) : Prop where
  noPlural : EndsPeriod rest
  noComma : Stops (· == ',') rest
  noAnd : conjunction.Fails rest

theorem listedPeriod_append {p : List Char} {a : Period} (hp : PeriodText p a)
    (rest : List Char) : listedPeriod (p ++ ',' :: rest) = .ok (a, rest) := by
  refine bind_eq_ok_iff.2 ⟨_, _, period_reads.complete hp (stops_cons.2 (by decide)), ?_⟩
  exact bind_eq_ok_iff.2 ⟨_, _, tag_append "," rest, rfl⟩

/-- A listed period that is read is the text of a period and a comma. -/
theorem listedPeriod_sound {s rest : List Char} {a : Period}
    (h : listedPeriod s = .ok (a, rest)) : ∃ p, s = p ++ ',' :: rest ∧ PeriodText p a := by
  obtain ⟨_, s₁, hperiod, h⟩ := bind_eq_ok_iff.1 h
  obtain ⟨_, s₂, htag, hpure⟩ := bind_eq_ok_iff.1 h
  obtain ⟨rfl, rfl⟩ := pure_eq_ok_iff.1 hpure
  obtain ⟨p, rfl, hp⟩ := period_reads.sound hperiod
  obtain rfl := tag_sound htag
  exact ⟨p, rfl, hp⟩

/-- A period without a comma is not a listed one. -/
theorem fails_listedPeriod {p rest : List Char} {a : Period} (hp : PeriodText p a)
    (hplural : EndsPeriod rest) (hcomma : Stops (· == ',') rest) :
    listedPeriod.Fails (p ++ rest) :=
  fails_bind_of_ok (period_reads.complete hp hplural)
    (fails_bind _ (fails_tag_of_stops (rfl : ",".toList = [',']) hcomma))

/-- **A further period of a list is read exactly from its texts.** -/
theorem nextListed_reads : nextListed.Reads ListedText fun _ => True where
  sound h := by
    obtain ⟨_, s₁, hspace, hlisted⟩ := bind_eq_ok_iff.1 h
    obtain ⟨w, rfl, hw, -⟩ := space1_sound hspace
    obtain ⟨p, rfl, hp⟩ := listedPeriod_sound hlisted
    exact ⟨w ++ p ++ [','], by simp, .mk hw hp⟩
  complete h _ := by
    cases h with
    | mk hw hp =>
      simp only [List.append_assoc, List.cons_append, List.nil_append]
      refine bind_eq_ok_iff.2 ⟨_, _, space1_append hw (hp.stops_blank _), ?_⟩
      exact listedPeriod_append hp _

/-- The word "and" is no count, so a list of periods ends before it. -/
theorem fails_nextListed_and {w : List Char} (hw : AndText w) (rest : List Char) :
    nextListed.Fails (w ++ rest) := by
  cases hw with
  | @mk w w' hw hw' =>
    simp only [List.append_assoc]
    have hblank : Stops Text.isBlank ("and".toList ++ (w' ++ rest)) := stops_cons.2 (by decide)
    have hdigit : Stops Char.isDigit ("and".toList ++ (w' ++ rest)) := stops_cons.2 (by decide)
    refine fails_bind_of_ok (space1_append hw hblank) (fails_bind _ (fails_bind _ ?_))
    -- No word for a count starts like "and".
    refine fails_orElse_iff.2 ⟨fails_digits hdigit, fails_oneOf_iff.2 fun e he hpre => ?_⟩
    have hfirst : ∀ e ∈ quantityWords, e.1.toList.head? ≠ some 'a' := by decide
    obtain ⟨hne, -⟩ := quantityWords_letters e he
    obtain ⟨t, ht⟩ := hpre
    cases hword : e.1.toList with
    | nil => exact hne hword
    | cons c cs =>
      rw [hword] at ht
      obtain rfl : c = 'a' := (List.cons.inj ht).1
      exact hfirst e he (by rw [hword]; rfl)

/-- A list that is read is the text of a sentence. -/
theorem commaList_sound {s rest : List Char} {list : Sentence}
    (h : commaList s = .ok (list, rest)) : ∃ p, s = p ++ rest ∧ SentenceText p list := by
  obtain ⟨_, s₁, hfirst, h₁⟩ := bind_eq_ok_iff.1 h
  obtain ⟨as, s₂, hmany, h₂⟩ := bind_eq_ok_iff.1 h₁
  obtain ⟨p, rfl, hp⟩ := listedPeriod_sound hfirst
  have hrep : repeated nextListed s₁ = (as, s₂) := Except.ok.inj hmany
  obtain ⟨ps, hs, hps⟩ := repeated_sound nextListed_reads.sound s₁
  rw [hrep] at hs hps
  split at h₂
  · cases h₂
  · rename_i hne
    obtain ⟨_, s₃, hand, h₃⟩ := bind_eq_ok_iff.1 h₂
    obtain ⟨_, s₄, hlast, hpure⟩ := bind_eq_ok_iff.1 h₃
    obtain ⟨rfl, rfl⟩ := pure_eq_ok_iff.1 hpure
    obtain ⟨w, rfl, hw⟩ := conjunction_sound hand
    obtain ⟨q, rfl, hq⟩ := period_reads.sound hlast
    refine ⟨p ++ [','] ++ ps ++ w ++ q, by simp [hs], .list hp hps ?_ hw hq⟩
    rintro rfl
    exact hne rfl

/-- A pair that is read is the text of a sentence. -/
theorem pair_sound {s rest : List Char} {list : Sentence} (h : pair s = .ok (list, rest)) :
    ∃ p, s = p ++ rest ∧ SentenceText p list := by
  obtain ⟨_, s₁, hfirst, h⟩ := bind_eq_ok_iff.1 h
  obtain ⟨_, s₂, hand, h⟩ := bind_eq_ok_iff.1 h
  obtain ⟨_, s₃, hsecond, hpure⟩ := bind_eq_ok_iff.1 h
  obtain ⟨rfl, rfl⟩ := pure_eq_ok_iff.1 hpure
  obtain ⟨p, rfl, hp⟩ := period_reads.sound hfirst
  obtain ⟨w, rfl, hw⟩ := conjunction_sound hand
  obtain ⟨q, rfl, hq⟩ := period_reads.sound hsecond
  exact ⟨p ++ w ++ q, by simp, .pair hp hw hq⟩

/-- A single period that is read is the text of a sentence. -/
theorem single_sound {s rest : List Char} {list : Sentence} (h : single s = .ok (list, rest)) :
    ∃ p, s = p ++ rest ∧ SentenceText p list := by
  obtain ⟨_, s₁, hperiod, hpure⟩ := bind_eq_ok_iff.1 h
  obtain ⟨rfl, rfl⟩ := pure_eq_ok_iff.1 hpure
  obtain ⟨p, rfl, hp⟩ := period_reads.sound hperiod
  exact ⟨p, rfl, .single hp⟩

/-- The further periods of a list are read up to the word "and". -/
theorem commaList_append {p ps w q rest : List Char} {a b : Period} {as : List Period}
    (hp : PeriodText p a) (hps : Each ListedText ps as) (hne : as ≠ []) (hw : AndText w)
    (hq : PeriodText q b) (hrest : EndsPeriod rest) :
    commaList (p ++ ',' :: (ps ++ (w ++ (q ++ rest)))) = .ok (⟨a, as ++ [b]⟩, rest) := by
  have hrow : many nextListed (ps ++ (w ++ (q ++ rest))) = .ok (as, w ++ (q ++ rest)) := by
    refine congrArg Except.ok (repeated_append nextListed_reads.complete ?_ (fun _ => trivial)
      hps trivial (fails_nextListed_and hw _))
    rintro _ _ ⟨hgap, -⟩
    simp [hgap.2]
  have hsome : as.isEmpty = false := by
    cases as with
    | nil => exact absurd rfl hne
    | cons _ _ => rfl
  refine bind_eq_ok_iff.2 ⟨_, _, listedPeriod_append hp _, ?_⟩
  refine bind_eq_ok_iff.2 ⟨_, _, hrow, ?_⟩
  simp only [hsome, Bool.false_eq_true, if_false]
  refine bind_eq_ok_iff.2 ⟨_, _, conjunction_append hw (hq.stops_blank _), ?_⟩
  exact bind_eq_ok_iff.2 ⟨_, _, period_reads.complete hq hrest, rfl⟩

/-- **Sentences are read as they are spelled**: of the forms tried before the right one, each wants
something else behind the first period. -/
theorem sentence_reads : sentence.Reads SentenceText EndsSentence where
  sound h := by
    simp only [sentence, sentenceForms, firstMatch_cons_eq_ok_iff, firstMatch_nil_ne_ok,
      and_false, or_false] at h
    rcases h with h | ⟨-, h | ⟨-, h⟩⟩
    · exact commaList_sound h
    · exact pair_sound h
    · exact single_sound h
  complete {p rest list} h hrest := by
    simp only [sentence, sentenceForms, firstMatch_cons_eq_ok_iff, firstMatch_nil_ne_ok,
      and_false, or_false]
    cases h with
    | single hp =>
      have hperiod := period_reads.complete hp hrest.noPlural
      refine Or.inr ⟨fails_bind _ (fails_listedPeriod hp hrest.noPlural hrest.noComma),
        Or.inr ⟨fails_bind_of_ok hperiod (fails_bind _ hrest.noAnd), ?_⟩⟩
      exact bind_eq_ok_iff.2 ⟨_, _, hperiod, rfl⟩
    | @pair p w q a b hp hw hq =>
      simp only [List.append_assoc]
      -- The blank before "and" is neither a plural nor a comma.
      obtain ⟨c, w', rfl, hc⟩ := hw.eq_cons
      have hplural := stops_of_blank (d := 's') hc (by decide) (w' ++ (q ++ rest))
      have hcomma := stops_of_blank (d := ',') hc (by decide) (w' ++ (q ++ rest))
      refine Or.inr ⟨fails_bind _ (fails_listedPeriod hp hplural hcomma), Or.inl ?_⟩
      refine bind_eq_ok_iff.2 ⟨_, _, period_reads.complete hp hplural, ?_⟩
      refine bind_eq_ok_iff.2 ⟨_, _, conjunction_append hw (hq.stops_blank _), ?_⟩
      exact bind_eq_ok_iff.2 ⟨_, _, period_reads.complete hq hrest.noPlural, rfl⟩
    | list hp hps hne hw hq =>
      left
      simp only [List.append_assoc, List.cons_append, List.nil_append]
      exact commaList_append hp hps hne hw hq hrest.noPlural

end DateCalc.Grammar
