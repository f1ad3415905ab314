/-
  What tokens read.

  Blanks, words and figures, each with the texts it consumes.  A run of characters of one class is
  consumed whole as soon as the text behind it stops: it is empty or starts with a character
  outside the class (`Stops`).  A table of words gives the entry that stands at the front, because
  no word of such a table begins another (`PrefixFree`).
-/
import DateCalc.Grammar.Date
import DateCalc.Proofs.Grammar.Reading

namespace DateCalc

open Rule Token

/-! ## Runs of one class -/

/-- The text does not start with a character of this class. -/
def Stops (p : Char → Bool) (s : List Char) : Prop := ∀ c ∈ s.head?, p c = false

theorem stops_nil (p : Char → Bool) : Stops p [] := by
  intro c hc
  cases hc

theorem stops_cons {p : Char → Bool} {c : Char} {s : List Char} :
    Stops p (c :: s) ↔ p c = false := by
  simp [Stops]

/-- Behind a run of characters of a class the class stops. -/
theorem stops_dropWhile (p : Char → Bool) (s : List Char) : Stops p (s.dropWhile p) := by
  induction s with
  | nil => exact stops_nil p
  | cons c s ih =>
    rw [List.dropWhile_cons]
    split
    · exact ih
    · rename_i h
      exact stops_cons.2 (by simpa using h)

/-- Where a class stops, its run is empty. -/
theorem Stops.takeWhile_eq {p : Char → Bool} {s : List Char} (h : Stops p s) :
    s.takeWhile p = [] := by
  cases s with
  | nil => rfl
  | cons c s => rw [List.takeWhile_cons, stops_cons.1 h]; rfl

/-- Where a class stops, nothing is dropped. -/
theorem Stops.dropWhile_eq {p : Char → Bool} {s : List Char} (h : Stops p s) :
    s.dropWhile p = s := by
  cases s with
  | nil => rfl
  | cons c s => rw [List.dropWhile_cons, stops_cons.1 h]; rfl

/-- A run is what is taken where the text behind it stops. -/
theorem takeWhile_run {p : Char → Bool} {run rest : List Char} (hrun : run.all p = true)
    (hrest : Stops p rest) : (run ++ rest).takeWhile p = run := by
  rw [List.takeWhile_append_of_pos (List.all_eq_true.1 hrun), hrest.takeWhile_eq, List.append_nil]

theorem dropWhile_run {p : Char → Bool} {run rest : List Char} (hrun : run.all p = true)
    (hrest : Stops p rest) : (run ++ rest).dropWhile p = rest := by
  rw [List.dropWhile_append_of_pos (List.all_eq_true.1 hrun), hrest.dropWhile_eq]

/-- Two runs of one class, each with a text behind it that stops, are the same run. -/
theorem run_unique {p : Char → Bool} {run run' rest rest' : List Char}
    (h : run ++ rest = run' ++ rest') (hrun : run.all p = true) (hrun' : run'.all p = true)
    (hrest : Stops p rest) (hrest' : Stops p rest') : run = run' ∧ rest = rest' := by
  have ht := congrArg (List.takeWhile p) h
  have hd := congrArg (List.dropWhile p) h
  rw [takeWhile_run hrun hrest, takeWhile_run hrun' hrest'] at ht
  rw [dropWhile_run hrun hrest, dropWhile_run hrun' hrest'] at hd
  exact ⟨ht, hd⟩

/-- A word of one class that begins a text begins the run of that class at its front. -/
theorem prefix_of_run {p : Char → Bool} {word run rest : List Char} (hword : word.all p = true)
    (hpre : word <+: run ++ rest) (hrun : run.all p = true) (hrest : Stops p rest) :
    word <+: run := by
  obtain ⟨t, ht⟩ := hpre
  have htake := congrArg (List.takeWhile p) ht
  rw [takeWhile_run hrun hrest, List.takeWhile_append_of_pos (List.all_eq_true.1 hword)] at htake
  exact ⟨_, htake⟩

/-- A run that is not empty starts with a character of its class. -/
theorem eq_cons_of_run {p : Char → Bool} {run : List Char} (hne : run ≠ [])
    (hrun : run.all p = true) : ∃ c t, run = c :: t ∧ p c = true ∧ t.all p = true := by
  cases run with
  | nil => exact absurd rfl hne
  | cons c t =>
    rw [List.all_cons, Bool.and_eq_true] at hrun
    exact ⟨c, t, rfl, hrun.1, hrun.2⟩

/-- A run that is not empty stops every class that has no character in common with its own. -/
theorem stops_of_run {p q : Char → Bool} {run : List Char} (hne : run ≠ [])
    (hrun : run.all p = true) (hpq : ∀ {c : Char}, p c = true → q c = false)
    (rest : List Char) : Stops q (run ++ rest) := by
  obtain ⟨c, t, rfl, hc, -⟩ := eq_cons_of_run hne hrun
  exact stops_cons.2 (hpq hc)

/-- A class does not stop at a run of its own. -/
theorem not_stops_run {p : Char → Bool} {run : List Char} (hne : run ≠ [])
    (hrun : run.all p = true) (rest : List Char) : ¬ Stops p (run ++ rest) := by
  obtain ⟨c, t, rfl, hc, -⟩ := eq_cons_of_run hne hrun
  intro hstop
  rw [List.cons_append, stops_cons, hc] at hstop
  cases hstop

/-! ## Classes of characters

  Blanks, digits, letters and signs have no character in common. -/

/-- That two classes have no character in common reads the same from either side. -/
theorem disjoint_symm (p q : Char → Bool) (h : ∀ {c : Char}, p c = true → q c = false)
    {c : Char} (hc : q c = true) : p c = false := by
  cases hp : p c with
  | false => rfl
  | true => rw [h hp] at hc; cases hc

theorem isDigit_iff {c : Char} : c.isDigit = true ↔ 48 ≤ c.toNat ∧ c.toNat ≤ 57 :=
  Char.isDigit_iff_toNat

theorem isUpper_iff {c : Char} : c.isUpper = true ↔ 65 ≤ c.toNat ∧ c.toNat ≤ 90 := by
  show decide (c.val ≥ 'A'.val ∧ c.val ≤ 'Z'.val) = true ↔ _
  rw [decide_eq_true_iff]
  exact Iff.rfl

theorem isLower_iff {c : Char} : c.isLower = true ↔ 97 ≤ c.toNat ∧ c.toNat ≤ 122 := by
  show (decide (c.val ≥ 'a'.val) && decide (c.val ≤ 'z'.val)) = true ↔ _
  rw [Bool.and_eq_true, decide_eq_true_iff, decide_eq_true_iff]
  exact Iff.rfl

theorem isLetter_iff {c : Char} : Grammar.isLetter c = true ↔
    65 ≤ c.toNat ∧ c.toNat ≤ 90 ∨ 97 ≤ c.toNat ∧ c.toNat ≤ 122 := by
  show (c.isUpper || c.isLower) = true ↔ _
  rw [Bool.or_eq_true, isUpper_iff, isLower_iff]

theorem isDigit_of_isBlank {c : Char} (h : Text.isBlank c = true) : c.isDigit = false := by
  rw [Bool.eq_false_iff, ne_eq, isDigit_iff]
  simp only [Text.isBlank, Bool.or_eq_true, Bool.and_eq_true, decide_eq_true_eq, beq_iff_eq] at h
  omega

theorem isBlank_of_isDigit {c : Char} (h : c.isDigit = true) : Text.isBlank c = false :=
  disjoint_symm Text.isBlank Char.isDigit isDigit_of_isBlank h

/-- No blank is a letter. -/
theorem isLetter_of_isBlank {c : Char} (h : Text.isBlank c = true) :
    Grammar.isLetter c = false := by
  rw [Bool.eq_false_iff, ne_eq, isLetter_iff]
  simp only [Text.isBlank, Bool.or_eq_true, Bool.and_eq_true, decide_eq_true_eq, beq_iff_eq] at h
  omega

theorem isBlank_of_isLetter {c : Char} (h : Grammar.isLetter c = true) :
    Text.isBlank c = false :=
  disjoint_symm Text.isBlank Grammar.isLetter isLetter_of_isBlank h

theorem isLetter_of_isDigit {c : Char} (h : c.isDigit = true) : Grammar.isLetter c = false := by
  rw [isDigit_iff] at h
  rw [Bool.eq_false_iff, ne_eq, isLetter_iff]
  omega

theorem isDigit_of_isLetter {c : Char} (h : Grammar.isLetter c = true) : c.isDigit = false :=
  disjoint_symm Char.isDigit Grammar.isLetter isLetter_of_isDigit h

/-- A word of letters is not read as digits. -/
theorem stops_digit_of_letters {w : List Char} (hne : w ≠ [])
    (hw : w.all Grammar.isLetter = true) (rest : List Char) : Stops Char.isDigit (w ++ rest) :=
  stops_of_run hne hw isDigit_of_isLetter rest

/-! ## Blanks -/

theorem allBlank_cons {c : Char} {s : List Char} :
    Text.allBlank (c :: s) = true ↔ Text.isBlank c = true ∧ Text.allBlank s = true := by
  rw [Text.allBlank, List.all_cons, Bool.and_eq_true]
  rfl

theorem allBlank_append {s t : List Char} :
    Text.allBlank (s ++ t) = true ↔ Text.allBlank s = true ∧ Text.allBlank t = true := by
  rw [Text.allBlank, List.all_append, Bool.and_eq_true]
  rfl

/-- One or more blanks, and nothing else. -/
def Gap (w : List Char) : Prop := Text.allBlank w = true ∧ w ≠ []

/-- A gap starts with a blank. -/
theorem Gap.eq_cons {w : List Char} (h : Gap w) :
    ∃ c w', w = c :: w' ∧ Text.isBlank c = true ∧ Text.allBlank w' = true :=
  eq_cons_of_run h.2 h.1

/-- A gap ends a run of digits. -/
theorem Gap.stops_digit {w : List Char} (hw : Gap w) (rest : List Char) :
    Stops Char.isDigit (w ++ rest) :=
  stops_of_run hw.2 hw.1 isDigit_of_isBlank rest

/-- A gap ends a run of letters. -/
theorem Gap.stops_letter {w : List Char} (hw : Gap w) (rest : List Char) :
    Stops Grammar.isLetter (w ++ rest) :=
  stops_of_run hw.2 hw.1 isLetter_of_isBlank rest

theorem space0_append {w rest : List Char} (hw : Text.allBlank w = true)
    (hrest : Stops Text.isBlank rest) : space0 (w ++ rest) = .ok ((), rest) := by
  show Except.ok ((), (w ++ rest).dropWhile Text.isBlank) = _
  rw [dropWhile_run hw hrest]

/-- Blanks that are read are blanks at the front, all of them. -/
theorem space0_sound {s rest : List Char} {u : Unit} (h : space0 s = .ok (u, rest)) :
    ∃ w, s = w ++ rest ∧ Text.allBlank w = true ∧ Stops Text.isBlank rest := by
  have hrest : Text.trimStart s = rest := congrArg Prod.snd (Except.ok.inj h)
  refine ⟨s.takeWhile Text.isBlank, ?_, List.all_takeWhile, ?_⟩
  · rw [← hrest, Text.takeWhile_append_trimStart]
  · rw [← hrest]
    exact stops_dropWhile Text.isBlank s

/-- A gap is read as far as the blanks go. -/
theorem space1_append {w rest : List Char} (hw : Gap w) (hrest : Stops Text.isBlank rest) :
    space1 (w ++ rest) = .ok ((), rest) := by
  obtain ⟨c, w', rfl, hc, hw'⟩ := hw.eq_cons
  have htrim := dropWhile_run hw.1 hrest
  rw [List.cons_append] at htrim ⊢
  simp only [space1, hc, if_true, Text.trimStart, htrim]

/-- A gap is missing exactly where no blank stands. -/
theorem fails_space1_iff {s : List Char} : space1.Fails s ↔ Stops Text.isBlank s := by
  cases s with
  | nil => exact ⟨fun _ => stops_nil _, fun _ => ⟨_, rfl⟩⟩
  | cons c s =>
    rw [stops_cons]
    cases hc : Text.isBlank c with
    | false => simp [Fails, space1, hc]
    | true => simp [Fails, space1, hc]

/-- A gap that is read is a gap at the front, all of it. -/
theorem space1_sound {s rest : List Char} {u : Unit} (h : space1 s = .ok (u, rest)) :
    ∃ w, s = w ++ rest ∧ Gap w ∧ Stops Text.isBlank rest := by
  cases s with
  | nil => cases h
  | cons c s =>
    cases hc : Text.isBlank c with
    | false =>
      simp only [space1, hc] at h
      cases h
    | true =>
      have h0 : space0 (c :: s) = .ok (u, rest) := by
        simp only [space1, hc, if_true] at h
        exact h
      obtain ⟨w, hw, hblank, hstop⟩ := space0_sound h0
      refine ⟨w, hw, ⟨hblank, ?_⟩, hstop⟩
      rintro rfl
      rw [List.nil_append] at hw
      rw [← hw, stops_cons, hc] at hstop
      cases hstop

/-! ## Words -/

theorem tag_append (word : String) (rest : List Char) :
    tag word (word.toList ++ rest) = .ok ((), rest) := by
  simp only [tag, afterWord?_append]

/-- A word that is read stands at the front. -/
theorem tag_sound {word : String} {s rest : List Char} {u : Unit}
    (h : tag word s = .ok (u, rest)) : s = word.toList ++ rest := by
  rw [tag] at h
  split at h
  · rename_i rest' hrest'
    cases h
    exact afterWord?_eq_some_iff.1 hrest'
  · cases h

/-- A word is missing exactly where the text does not begin with it. -/
theorem fails_tag_iff {word : String} {s : List Char} :
    (tag word).Fails s ↔ ¬ word.toList <+: s := by
  constructor
  · rintro hf ⟨rest, rfl⟩
    exact not_fails_of_ok (tag_append word rest) hf
  · intro hs
    rcases fails_or_ok (tag word) s with hf | ⟨u, rest, h⟩
    · exact hf
    · exact absurd ⟨rest, (tag_sound h).symm⟩ hs

/-- A tag fails before a text whose first character is not its own. -/
theorem fails_tag_of_stops {word : String} {c : Char} {cs s : List Char}
    (hword : word.toList = c :: cs) (hs : Stops (· == c) s) : (tag word).Fails s := by
  rw [fails_tag_iff, hword]
  rintro ⟨rest, rfl⟩
  rw [List.cons_append, stops_cons] at hs
  simp at hs

/-- No word of the table begins another one. -/
def PrefixFree {α : Type} (words : List (String × α)) : Prop :=
  words.Pairwise fun x y => ¬ x.1.toList <+: y.1.toList ∧ ¬ y.1.toList <+: x.1.toList

instance {α : Type} (words : List (String × α)) : Decidable (PrefixFree words) :=
  inferInstanceAs (Decidable (List.Pairwise _ words))

section OneOf

variable {α : Type} {words : List (String × α)} {expected : Expected}

/-- What is read is one of the words, with its meaning. -/
theorem oneOf_sound {s rest : List Char} {a : α} (h : oneOf words expected s = .ok (a, rest)) :
    ∃ word, (word, a) ∈ words ∧ s = word.toList ++ rest := by
  rw [oneOf] at h
  split at h
  · rename_i result hfound
    cases h
    obtain ⟨⟨word, b⟩, hmem, hword⟩ := List.exists_of_findSome?_eq_some hfound
    obtain ⟨rest', hrest', hpair⟩ := Option.map_eq_some_iff.1 hword
    cases hpair
    exact ⟨word, hmem, afterWord?_eq_some_iff.1 hrest'⟩
  · cases h

/-- None of the words is read exactly where the text begins with none. -/
theorem fails_oneOf_iff {s : List Char} :
    (oneOf words expected).Fails s ↔ ∀ e ∈ words, ¬ e.1.toList <+: s := by
  constructor
  · rintro ⟨m, hm⟩ ⟨word, a⟩ hmem ⟨rest, hrest⟩
    rw [oneOf] at hm
    split at hm
    · cases hm
    · rename_i hnone
      have := List.findSome?_eq_none_iff.1 hnone (word, a) hmem
      simp [afterWord?_eq_some_iff.2 hrest.symm] at this
  · intro hs
    rcases fails_or_ok (oneOf words expected) s with hf | ⟨a, rest, h⟩
    · exact hf
    · obtain ⟨word, hmem, rfl⟩ := oneOf_sound h
      exact absurd ⟨rest, rfl⟩ (hs _ hmem)

/-- Where no word begins another one, each of them is read as itself, whatever follows. -/
theorem PrefixFree.oneOf_append (hfree : PrefixFree words) {word : String} {a : α}
    (hmem : (word, a) ∈ words) (rest : List Char) :
    oneOf words expected (word.toList ++ rest) = .ok (a, rest) := by
  induction words with
  | nil => cases hmem
  | cons e words ih =>
    obtain ⟨word', a'⟩ := e
    obtain ⟨hhead, hfree'⟩ := List.pairwise_cons.1 hfree
    rcases List.mem_cons.1 hmem with heq | hmem'
    · cases heq
      simp [oneOf, afterWord?_append]
    · have hno : afterWord? word'.toList (word.toList ++ rest) = none := by
        refine Option.eq_none_iff_forall_ne_some.2 fun rest' hsome => ?_
        -- Of two words at the front of one text, the shorter begins the longer.
        have hboth := List.prefix_or_prefix_of_prefix
          ⟨rest', (afterWord?_eq_some_iff.1 hsome).symm⟩ ⟨rest, rfl⟩
        rcases hboth with hpre | hpre
        · exact (hhead _ hmem').1 hpre
        · exact (hhead _ hmem').2 hpre
      have hrec := ih hfree' hmem'
      simp only [oneOf, List.findSome?_cons, hno, Option.map_none] at hrec ⊢
      exact hrec

end OneOf

/-! ## Figures -/

/-- So many ASCII digits, and nothing else. -/
structure Numeral (least most : Nat) (ds : List Char) : Prop where
  all_digits : ds.all Char.isDigit = true
  least_le : least ≤ ds.length
  le_most : ds.length ≤ most

theorem Numeral.ne_nil {least most : Nat} {ds : List Char} (h : Numeral (least + 1) most ds) :
    ds ≠ [] := by
  rintro rfl
  exact Nat.not_succ_le_zero least h.least_le

/-- A numeral of at least one digit starts with a digit. -/
theorem Numeral.eq_cons {least most : Nat} {ds : List Char} (h : Numeral (least + 1) most ds) :
    ∃ c ds', ds = c :: ds' ∧ c.isDigit = true := by
  obtain ⟨c, ds', heq, hc, -⟩ := eq_cons_of_run h.ne_nil h.all_digits
  exact ⟨c, ds', heq, hc⟩

/-- A numeral of two digits is two digits. -/
theorem Numeral.eq_pair {ds : List Char} (h : Numeral 2 2 ds) :
    ∃ c d, ds = [c, d] ∧ c.isDigit = true ∧ d.isDigit = true := by
  obtain ⟨hall, hleast, hmost⟩ := h
  match ds with
  | [c, d] =>
    rw [List.all_cons, List.all_cons, Bool.and_eq_true, Bool.and_eq_true] at hall
    exact ⟨c, d, rfl, hall.1, hall.2.1⟩
  | [] | [_] => simp at hleast
  | _ :: _ :: _ :: _ => simp at hmost

/-- A numeral is one between any wider bounds. -/
theorem Numeral.widen {least most least' most' : Nat} {ds : List Char} (h : Numeral least most ds)
    (hleast : least' ≤ least) (hmost : most ≤ most') : Numeral least' most' ds :=
  ⟨h.all_digits, Nat.le_trans hleast h.least_le, Nat.le_trans h.le_most hmost⟩

/-- Two numerals in a row are one. -/
theorem Numeral.append {least most least' most' : Nat} {ds ds' : List Char}
    (h : Numeral least most ds) (h' : Numeral least' most' ds') :
    Numeral (least + least') (most + most') (ds ++ ds') := by
  refine ⟨?_, ?_, ?_⟩
  · rw [List.all_append, h.all_digits, h'.all_digits, Bool.and_self]
  · rw [List.length_append]
    exact Nat.add_le_add h.least_le h'.least_le
  · rw [List.length_append]
    exact Nat.add_le_add h.le_most h'.le_most

/-- Digits that begin a text are no more than the digits there. -/
theorem Numeral.length_le_of_run {least most : Nat} {ds run u v : List Char}
    (hds : Numeral least most ds) (heq : ds ++ u = run ++ v) (hrun : run.all Char.isDigit = true)
    (hv : Stops Char.isDigit v) : least ≤ run.length :=
  Nat.le_trans hds.least_le (prefix_of_run hds.all_digits ⟨u, heq⟩ hrun hv).length_le

/-- Two digits that begin a text are the two digits there. -/
theorem Numeral.pair_unique {ds ds' u v : List Char} (h : Numeral 2 2 ds) (h' : Numeral 2 2 ds')
    (heq : ds ++ u = ds' ++ v) : ds = ds' ∧ u = v := by
  have hlen := Nat.le_antisymm h.le_most h.least_le
  have hlen' := Nat.le_antisymm h'.le_most h'.least_le
  exact List.append_inj heq (by omega)

/-- A numeral is not taken for blanks. -/
theorem Numeral.stops_blank {least most : Nat} {ds : List Char} (h : Numeral (least + 1) most ds)
    (rest : List Char) : Stops Text.isBlank (ds ++ rest) :=
  stops_of_run h.ne_nil h.all_digits isBlank_of_isDigit rest

/-- Nor is it when it is read backwards. -/
theorem Numeral.stops_blank_reverse {least most : Nat} {ds : List Char}
    (h : Numeral (least + 1) most ds) (rest : List Char) :
    Stops Text.isBlank (ds.reverse ++ rest) := by
  have hrev : Numeral (least + 1) most ds.reverse := by
    refine ⟨?_, ?_, ?_⟩
    · rw [List.all_reverse]; exact h.all_digits
    · rw [List.length_reverse]; exact h.least_le
    · rw [List.length_reverse]; exact h.le_most
  exact hrev.stops_blank rest

/-- A numeral is not taken for a colon. -/
theorem Numeral.stops_colon {least most : Nat} {ds : List Char} (h : Numeral (least + 1) most ds)
    (rest : List Char) : Stops (· == ':') (ds ++ rest) := by
  refine stops_of_run h.ne_nil h.all_digits (fun hc => ?_) rest
  rw [beq_eq_false_iff_ne]
  rintro rfl
  cases hc

/-- No text starts both with a numeral and with a word of letters. -/
theorem Numeral.ne_letters {least most : Nat} {ds w : List Char} (h : Numeral (least + 1) most ds)
    (hne : w ≠ []) (hw : w.all Grammar.isLetter = true) (rest rest' : List Char) :
    ds ++ rest ≠ w ++ rest' := by
  intro heq
  have hstop := stops_digit_of_letters hne hw rest'
  rw [← heq] at hstop
  exact not_stops_run h.ne_nil h.all_digits rest hstop

/-- Digits are taken one by one until there are enough of them, or no more. -/
theorem takeDigits_append {most : Nat} {ds rest : List Char} (hds : ds.all Char.isDigit = true)
    (hle : ds.length ≤ most) (hrest : ds.length < most → Stops Char.isDigit rest) :
    takeDigits most (ds ++ rest) = (ds, rest) := by
  induction ds generalizing most with
  | nil =>
    cases most with
    | zero => cases rest <;> rfl
    | succ most =>
      have hstop := hrest (Nat.succ_pos most)
      cases rest with
      | nil => rfl
      | cons c rest => simp [takeDigits, stops_cons.1 hstop]
  | cons d ds ih =>
    rw [List.all_cons, Bool.and_eq_true] at hds
    cases most with
    | zero => exact absurd hle (Nat.not_succ_le_zero _)
    | succ most =>
      have hrec := ih hds.2 (Nat.le_of_succ_le_succ hle) fun hlt => hrest (Nat.succ_lt_succ hlt)
      simp only [List.cons_append, takeDigits, hds.1, if_true, hrec]

/-- What is taken are digits at the front, not too many, and fewer only where the digits end. -/
theorem takeDigits_sound (most : Nat) (s : List Char) :
    s = (takeDigits most s).1 ++ (takeDigits most s).2 ∧
      (takeDigits most s).1.all Char.isDigit = true ∧ (takeDigits most s).1.length ≤ most ∧
      ((takeDigits most s).1.length < most → Stops Char.isDigit (takeDigits most s).2) := by
  induction most generalizing s with
  | zero => cases s <;> simp [takeDigits]
  | succ most ih =>
    cases s with
    | nil => exact ⟨rfl, rfl, Nat.zero_le _, fun _ => stops_nil _⟩
    | cons c s =>
      cases hc : c.isDigit with
      | false => simp [takeDigits, hc, stops_cons]
      | true =>
        obtain ⟨h1, h2, h3, h4⟩ := ih s
        simp only [takeDigits, hc, if_true, List.cons_append, ← h1, List.all_cons, h2,
          Bool.and_self, List.length_cons]
        exact ⟨trivial, trivial, Nat.succ_le_succ h3, fun hlt => h4 (Nat.lt_of_succ_lt_succ hlt)⟩

/-- A numeral of the right length is read as its value, when no digit follows that would be taken
too. -/
theorem figures_append {least most : Nat} {ds rest : List Char} (hds : Numeral least most ds)
    (hrest : ds.length < most → Stops Char.isDigit rest) :
    figures least most (ds ++ rest) = .ok (Text.decimalValue ds, rest) := by
  have hnot : ¬ ds.length < least := Nat.not_lt.2 hds.least_le
  simp only [figures, takeDigits_append hds.all_digits hds.le_most hrest, hnot, if_false]

/-- Figures that are read are a numeral of the right length, and a short one only where the digits
end. -/
theorem figures_sound {least most n : Nat} {s rest : List Char}
    (h : figures least most s = .ok (n, rest)) :
    ∃ ds, s = ds ++ rest ∧ Numeral least most ds ∧ n = Text.decimalValue ds ∧
      (ds.length < most → Stops Char.isDigit rest) := by
  obtain ⟨h1, h2, h3, h4⟩ := takeDigits_sound most s
  simp only [figures] at h
  split at h
  · cases h
  · rename_i hlen
    cases h
    exact ⟨_, h1, ⟨h2, Nat.not_lt.1 hlen, h3⟩, rfl, h4⟩

/-- Too few digits before something else are no figures. -/
theorem fails_figures {least most : Nat} {ds rest : List Char} (hds : ds.all Char.isDigit = true)
    (hlt : ds.length < least) (hle : least ≤ most) (hrest : Stops Char.isDigit rest) :
    (figures least most).Fails (ds ++ rest) := by
  have htake : takeDigits most (ds ++ rest) = (ds, rest) :=
    takeDigits_append hds (by omega) fun _ => hrest
  refine ⟨⟨ds ++ rest, .digits, none⟩, ?_⟩
  simp only [figures, htake, hlt, if_true]

/-- A numeral that is not too long is read as its value, when no further digit follows. -/
theorem digits_append {ds rest : List Char} (hds : Numeral 1 Text.longestNumber ds)
    (hrest : Stops Char.isDigit rest) :
    digits (ds ++ rest) = .ok (Text.decimalValue ds, rest) := by
  have hne : ds.isEmpty = false := by
    obtain ⟨c, ds', rfl, -⟩ := hds.eq_cons
    rfl
  have hle : ¬ Text.longestNumber < ds.length := Nat.not_lt.2 hds.le_most
  simp only [digits, takeWhile_run hds.all_digits hrest, dropWhile_run hds.all_digits hrest, hne,
    Bool.false_eq_true, hle, if_false]

/-- Digits that are read are a numeral that is not too long. -/
theorem digits_sound {n : Nat} {s rest : List Char} (h : digits s = .ok (n, rest)) :
    ∃ ds, s = ds ++ rest ∧ Numeral 1 Text.longestNumber ds ∧ n = Text.decimalValue ds := by
  simp only [digits] at h
  split at h
  · cases h
  · rename_i hne
    split at h
    · cases h
    · rename_i hle
      cases h
      refine ⟨_, List.takeWhile_append_dropWhile.symm, ⟨List.all_takeWhile, ?_, ?_⟩, rfl⟩
      · rw [List.isEmpty_iff] at hne
        exact List.length_pos_iff.2 hne
      · exact Nat.not_lt.1 hle

theorem fails_digits {s : List Char} (hs : Stops Char.isDigit s) : digits.Fails s := by
  refine ⟨⟨s, .digits, none⟩, ?_⟩
  simp only [digits, hs.takeWhile_eq, List.isEmpty_nil, if_true]

end DateCalc
