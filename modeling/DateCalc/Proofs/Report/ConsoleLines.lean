/-
  What a console does with plain lines: nothing.

  A line is plain when it is made of printable ASCII characters, at least one of them, and takes no
  more of them than a console is wide.  Each of its characters takes one cell, none of them is a
  control, a tab or a newline, and all its words fit side by side; so it is neither broken nor cut.

  Among other lines, which may hold anything, two places are safe.  A plain first line stays the
  first line, and plain lines at the end stay the last ones, although newlines are dropped there and
  styling sequences are taken out afterwards: no sequence goes on behind a newline, so none that is
  begun in another line reaches into a plain one.
-/
import DateCalc.CommandLine.Run
import DateCalc.Proofs.Grammar.Tokens

namespace DateCalc

namespace Text

/-! ## Plain characters -/

/-- A printable character of ASCII. -/
def isPlain (c : Char) : Bool := 0x20 ≤ c.toNat && c.toNat < 0x7F

theorem isPlain_iff {c : Char} : isPlain c = true ↔ 0x20 ≤ c.toNat ∧ c.toNat < 0x7F := by
  simp [isPlain]

/-- No plain character is one with this number below the space. -/
theorem ne_of_isPlain {c d : Char} (hc : isPlain c = true) (hd : d.toNat < 0x20) : c ≠ d := by
  rintro rfl
  have := (isPlain_iff.1 hc).1
  omega

/-- Digits are plain. -/
theorem isPlain_of_isDigit {c : Char} (h : c.isDigit = true) : isPlain c = true := by
  rw [isDigit_iff] at h
  rw [isPlain_iff]
  omega

theorem charCells_of_isPlain {c : Char} (h : isPlain c = true) : charCells c = 1 :=
  if_pos h

/-- A plain line: printable characters, at least one, and no more than the width. -/
structure PlainLine (width : Nat) (line : List Char) : Prop where
  plain : line.all isPlain = true
  ne_nil : line ≠ []
  short : line.length ≤ width

theorem PlainLine.not_mem {width : Nat} {line : List Char} (h : PlainLine width line) {d : Char}
    (hd : d.toNat < 0x20) : d ∉ line := fun hmem =>
  ne_of_isPlain (List.all_eq_true.1 h.plain d hmem) hd rfl

theorem all_of_sublist {p : Char → Bool} {s t : List Char} (h : s.Sublist t)
    (ht : t.all p = true) : s.all p = true :=
  List.all_eq_true.2 fun c hc => List.all_eq_true.1 ht c (h.subset hc)

/-! ## Cells -/

/-- A plain text takes as many cells as it has characters. -/
theorem cells_of_plain {s : List Char} (hs : s.all isPlain = true) : cells s = s.length := by
  have hjoiner : isPlain joiner = false := by decide
  have hselector : isPlain emojiSelector = false := by decide
  have hall : ∀ base, cellsFrom base s = s.length := by
    intro base
    fun_induction cellsFrom base s with
    | case1 => rfl
    | case2 base => rw [List.all_cons, hselector] at hs; cases hs
    | case3 base c hc =>
      rw [List.all_cons, Bool.and_eq_true] at hs
      exact charCells_of_isPlain hs.1
    | case4 base d s => rw [List.all_cons, hjoiner] at hs; cases hs
    | case5 base d s => rw [List.all_cons, hselector] at hs; cases hs
    | case6 base c d s hc hc' ih =>
      rw [List.all_cons, Bool.and_eq_true] at hs
      rw [ih hs.2, charCells_of_isPlain hs.1]
      exact Nat.add_comm _ _
  exact hall none

/-! ## Words and breaks -/

/-- The words of a line begin it. -/
theorem flatten_words_prefix (s : List Char) : (words s).flatten <+: s := by
  fun_induction words s with
  | case1 => exact List.nil_prefix
  | case2 s leading body afterBody hbody ih =>
    have hsplit : leading ++ body ++ afterBody.takeWhile isBlank ++ afterBody.dropWhile isBlank =
        s := by
      rw [List.append_assoc, List.takeWhile_append_dropWhile, List.append_assoc,
        List.takeWhile_append_dropWhile, List.takeWhile_append_dropWhile]
    rw [List.flatten_cons]
    conv => rhs; rw [← hsplit]
    exact (List.prefix_append_right_inj _).2 ih

/-- Words that fit side by side are not broken. -/
theorem breaks_eq_nil {width : Nat} {ws : List (List Char)} (start taken : Nat)
    (hplain : ws.flatten.all isPlain = true) (hshort : taken + ws.flatten.length ≤ width) :
    breaks width ws start taken = [] := by
  induction ws generalizing start taken with
  | nil => rfl
  | cons word more ih =>
    rw [List.flatten_cons, List.all_append, Bool.and_eq_true] at hplain
    rw [List.flatten_cons, List.length_append] at hshort
    have htrim : (trimEnd word).Sublist word := by
      have h := (List.dropWhile_sublist (l := word.reverse) isBlank).reverse
      rwa [List.reverse_reverse] at h
    have hbare : cells (trimEnd word) + taken ≤ width := by
      have hle := htrim.length_le
      rw [cells_of_plain (all_of_sublist htrim hplain.1)]
      omega
    rw [breaks]
    simp only [hbare, if_true]
    refine ih _ _ hplain.2 ?_
    rw [cells_of_plain hplain.1]
    omega

/-! ## Lines -/

/-- A text without the separator is one part. -/
theorem splitAt_of_not_mem {separator : Char} {s : List Char} (h : separator ∉ s) :
    splitAt separator s = [s] := by
  induction s with
  | nil => rfl
  | cons c s ih =>
    rw [List.mem_cons, not_or] at h
    rw [splitAt, if_neg fun hc => h.1 hc.symm, ih h.2]

theorem expandTabs_of_not_mem {line : List Char} (h : '\t' ∉ line) : expandTabs line = line := by
  rw [expandTabs, splitAt_of_not_mem h]
  rfl

/-- **A plain line is shown as it is.** -/
theorem consoleText_of_plain {width : Nat} {line : List Char} (h : PlainLine width line) :
    consoleText width line = line ++ ['\n'] := by
  have hfilter : line.filter (fun c => !isConsoleControl c) = line := by
    rw [List.filter_eq_self]
    intro c hc
    have hplain := (isPlain_iff.1 (List.all_eq_true.1 h.plain c hc)).1
    simp only [isConsoleControl, Bool.not_eq_true', Bool.or_eq_false_iff, beq_eq_false_iff_ne]
    omega
  have hprefix := flatten_words_prefix line
  have hbreaks : breaks width (words line) 0 0 = [] := by
    refine breaks_eq_nil 0 0 (all_of_sublist hprefix.sublist h.plain) ?_
    have := hprefix.length_le
    have := h.short
    omega
  have hcrop : crop width line = line := by
    have hbeyond : line.length - width = 0 := Nat.sub_eq_zero_of_le h.short
    have hcells : cells line ≤ width := by rw [cells_of_plain h.plain]; exact h.short
    simp only [crop, hbeyond, Nat.min_zero, Nat.sub_zero, List.take_length, cutToCells, hcells,
      if_true]
  have hwrap : wrapLine width line = [line] := by
    rw [wrapLine, hbreaks, cutAt, List.map_singleton, hcrop]
  simp only [consoleText, hfilter, splitAt_of_not_mem (h.not_mem (d := '\n') (by decide)),
    List.flatMap_singleton, expandTabs_of_not_mem (h.not_mem (d := '\t') (by decide)), hwrap]

/-- Lines with a newline after each end with one. -/
theorem flatMap_newline_ends {lines : List (List Char)} (hne : lines ≠ []) :
    ∃ t, (lines.flatMap fun line => line ++ ['\n']) = t ++ ['\n'] := by
  obtain ⟨before, last, rfl⟩ := (List.eq_nil_or_concat lines).resolve_left hne
  refine ⟨before.flatMap (fun line => line ++ ['\n']) ++ last, ?_⟩
  rw [List.concat_eq_append, List.flatMap_append, List.flatMap_singleton, List.append_assoc]

/-- Whatever is shown ends with a newline. -/
theorem consoleText_ends (width : Nat) (s : List Char) :
    ∃ t, consoleText width s = t ++ ['\n'] := by
  have hcut : ∀ (places : List Nat) (start : Nat) (line : List Char),
      cutAt places start line ≠ [] := by
    intro places start line
    cases places with
    | nil => exact List.cons_ne_nil _ _
    | cons place more => exact List.cons_ne_nil _ _
  have hsplit : ∀ t : List Char, splitAt '\n' t ≠ [] := by
    intro t
    cases t with
    | nil => exact List.cons_ne_nil _ _
    | cons c t =>
      rw [splitAt]
      split
      · exact List.cons_ne_nil _ _
      · split <;> exact List.cons_ne_nil _ _
  -- There is a line, which is broken into at least one.
  have hlines : ((splitAt '\n' (s.filter fun c => !isConsoleControl c)).flatMap
      fun line => wrapLine width (expandTabs line)) ≠ [] := by
    obtain ⟨line, hline⟩ := List.exists_mem_of_ne_nil _ (hsplit (s.filter _))
    intro hnone
    rw [List.flatMap_eq_nil_iff] at hnone
    exact hcut _ _ _ (List.map_eq_nil_iff.1 (hnone line hline))
  exact flatMap_newline_ends hlines

/-! ## Styling -/

/-- A text that holds no escape is not changed before another one. -/
theorem stripStyling_append_of_not_mem {s : List Char} (h : escapeChar ∉ s) (t : List Char) :
    stripStyling (s ++ t) = s ++ stripStyling t := by
  induction s with
  | nil => rfl
  | cons c s ih =>
    rw [List.mem_cons, not_or] at h
    have hnone : afterStyle? (c :: (s ++ t)) = none := by
      cases hst : s ++ t with
      | nil => rfl
      | cons b rest => rw [afterStyle?, if_neg fun hc => h.1 hc.1.symm]
    rw [List.cons_append, stripStyling]
    split
    · rename_i after heq
      rw [hnone] at heq
      cases heq
    · rw [ih h.2, List.cons_append]

/-- What follows a run in a text that goes on with a newline, if the newline ends the run. -/
theorem dropWhile_append_newline {p : Char → Bool} (hp : p '\n' = false) (s t : List Char) :
    (s ++ '\n' :: t).dropWhile p = s.dropWhile p ++ '\n' :: t := by
  rw [List.dropWhile_append]
  split
  · rename_i hnil
    rw [List.isEmpty_iff] at hnil
    rw [hnil, List.dropWhile_cons, hp]
    rfl
  · rfl

/-- A newline is no part of a sequence, so what follows it does not matter. -/
theorem afterParameters?_append_newline (s t : List Char) :
    afterParameters? (s ++ '\n' :: t) = (afterParameters? s).map (· ++ '\n' :: t) := by
  unfold afterParameters?
  rw [dropWhile_append_newline (by decide), dropWhile_append_newline (by decide)]
  cases (s.dropWhile isStyleParameter).dropWhile isStyleMark with
  | nil => rfl
  | cons c rest =>
    by_cases hc : isStyleFinal c = true
    · simp [hc]
    · simp [hc]

/-- A newline ends no styling, so what stands behind it makes no difference to the styling before.
-/
theorem afterStyle?_append_newline {s : List Char} (hs : s ≠ []) (t : List Char) :
    afterStyle? (s ++ '\n' :: t) = (afterStyle? s).map (· ++ '\n' :: t) := by
  match s with
  | [e] =>
    show (if e = escapeChar ∧ '\n' = '[' then _ else none) = none
    exact if_neg fun h => absurd h.2 (by decide)
  | e :: b :: rest =>
    show (if e = escapeChar ∧ b = '[' then _ else none) = _
    rw [afterStyle?]
    split
    · exact afterParameters?_append_newline rest t
    · rfl

/-- **Styling does not cross a newline**: the text before it and the text behind it are cleared each
by itself. -/
theorem stripStyling_append_newline (s t : List Char) :
    stripStyling (s ++ '\n' :: t) = stripStyling s ++ '\n' :: stripStyling t := by
  have hcons : ∀ u, stripStyling ('\n' :: u) = '\n' :: stripStyling u :=
    stripStyling_append_of_not_mem (s := ['\n']) (by decide)
  fun_induction stripStyling s with
  | case1 => exact hcons t
  | case2 c rest after h ih =>
    have happ := afterStyle?_append_newline (List.cons_ne_nil c rest) t
    rw [h] at happ
    rw [← ih, List.cons_append, stripStyling]
    split
    · rename_i after' heq
      rw [List.cons_append, heq] at happ
      cases happ
      rfl
    · rename_i heq
      rw [List.cons_append, heq] at happ
      cases happ
  | case3 c rest h ih =>
    have happ := afterStyle?_append_newline (List.cons_ne_nil c rest) t
    rw [h] at happ
    rw [List.cons_append, List.cons_append, ← ih, stripStyling]
    split
    · rename_i after' heq
      rw [List.cons_append, heq] at happ
      cases happ
    · rfl

/-- Clearing a text of lines leaves an ending without escapes as it is. -/
theorem stripStyling_lines_append {s t : List Char} (hs : s = [] ∨ ∃ u, s = u ++ ['\n'])
    (ht : escapeChar ∉ t) : stripStyling (s ++ t) = stripStyling s ++ t := by
  rcases hs with rfl | ⟨u, rfl⟩
  · rw [List.nil_append, stripStyling_eq_self ht, stripStyling, List.nil_append]
  · rw [List.append_assoc, List.singleton_append, stripStyling_append_newline,
      stripStyling_append_newline, stripStyling_eq_self ht, stripStyling, List.append_assoc,
      List.singleton_append]

/-! ## Newlines at the end -/

/-- A text without the newlines at its end. -/
def trimNewlines (s : List Char) : List Char := (s.reverse.dropWhile (· == '\n')).reverse

theorem trimNewlines_prefix (s : List Char) : trimNewlines s <+: s := by
  have h := (List.dropWhile_suffix (l := s.reverse) (· == '\n')).reverse
  rwa [List.reverse_reverse] at h

/-- Newlines are dropped at the end of the second part, and of the first one if nothing else is
left of the second. -/
theorem trimNewlines_append (s t : List Char) :
    trimNewlines (s ++ t) = if trimNewlines t = [] then trimNewlines s else s ++ trimNewlines t := by
  unfold trimNewlines
  rw [List.reverse_append, List.dropWhile_append]
  by_cases h : t.reverse.dropWhile (· == '\n') = []
  · simp [h]
  · simp [h]

/-- A text without newlines has none to be trimmed. -/
theorem trimNewlines_eq_self {s : List Char} (h : '\n' ∉ s) : trimNewlines s = s := by
  unfold trimNewlines
  have hstop : Stops (· == '\n') s.reverse := by
    intro c hc
    have hmem : c ∈ s := List.mem_reverse.1 (List.mem_of_mem_head? hc)
    rw [beq_eq_false_iff_ne]
    rintro rfl
    exact h hmem
  rw [hstop.dropWhile_eq, List.reverse_reverse]

theorem trimNewlines_line {s : List Char} (h : '\n' ∉ s) : trimNewlines (s ++ ['\n']) = s := by
  rw [trimNewlines_append, if_pos (by decide), trimNewlines_eq_self h]

end Text

/-! ## The console -/

namespace Report

open Text

/-- Lines as the console shows them, the newlines at the end included. -/
def consoleChars (lines : List String) : List Char :=
  lines.flatMap fun line => consoleText consoleWidth line.toList

/-- The console shows the lines without the newlines at their end. -/
theorem toList_console (lines : List String) :
    (console lines).toList = trimNewlines (consoleChars lines) := by
  simp only [console, String.toList_ofList]
  rfl

theorem consoleChars_append (lines more : List String) :
    consoleChars (lines ++ more) = consoleChars lines ++ consoleChars more :=
  List.flatMap_append

/-- What lines show is nothing or ends with a newline. -/
theorem consoleChars_ends (lines : List String) :
    consoleChars lines = [] ∨ ∃ t, consoleChars lines = t ++ ['\n'] := by
  rcases List.eq_nil_or_concat lines with rfl | ⟨before, last, rfl⟩
  · exact Or.inl rfl
  · obtain ⟨t, ht⟩ := consoleText_ends consoleWidth last.toList
    refine Or.inr ⟨consoleChars before ++ t, ?_⟩
    rw [List.concat_eq_append, consoleChars_append, List.append_assoc, ← ht]
    exact congrArg _ (List.flatMap_singleton _ _)

/-- The line is plain on the console. -/
abbrev Plain (line : String) : Prop := PlainLine consoleWidth line.toList

/-- Plain lines come out as they are, with a newline after each. -/
theorem consoleChars_of_plain {lines : List String} (h : ∀ line ∈ lines, Plain line) :
    consoleChars lines = lines.flatMap fun line => line.toList ++ ['\n'] := by
  induction lines with
  | nil => rfl
  | cons line lines ih =>
    rw [List.forall_mem_cons] at h
    have hhead : consoleText consoleWidth line.toList = line.toList ++ ['\n'] :=
      consoleText_of_plain h.1
    rw [List.flatMap_cons, ← ih h.2, ← hhead]
    rfl

/-- **A plain first line stays the first line**, whatever lines follow it and whatever is taken out
of them. -/
theorem echo_console_first {first : String} (h : Plain first) (more : List String) :
    ∃ rest, CommandLine.Output.echo (console (first :: more)) = first ++ "\n" ++ rest := by
  have hescape : escapeChar ∉ first.toList := h.not_mem (by decide)
  have hnewline : '\n' ∉ first.toList := h.not_mem (by decide)
  have hchars : consoleChars (first :: more) = first.toList ++ '\n' :: consoleChars more := by
    show consoleText consoleWidth first.toList ++ consoleChars more = _
    rw [consoleText_of_plain h, List.append_assoc, List.singleton_append]
  -- Behind the first line, what is left of the newlines and the others starts with a newline.
  have htail : ∃ t, (console (first :: more)).toList ++ ['\n'] = first.toList ++ '\n' :: t := by
    rw [toList_console, hchars, trimNewlines_append]
    split
    · exact ⟨[], by rw [trimNewlines_eq_self hnewline]⟩
    · rename_i hne
      obtain ⟨u, hu⟩ := trimNewlines_prefix ('\n' :: consoleChars more)
      cases htrim : trimNewlines ('\n' :: consoleChars more) with
      | nil => exact absurd htrim hne
      | cons c t =>
        rw [htrim] at hu
        obtain ⟨rfl, -⟩ := List.cons.inj hu
        exact ⟨t ++ ['\n'], by simp⟩
  obtain ⟨t, ht⟩ := htail
  refine ⟨String.ofList (stripStyling t), ?_⟩
  rw [← String.toList_inj, CommandLine.Output.echo, String.toList_ofList, ht,
    stripStyling_append_newline, stripStyling_eq_self hescape]
  simp

/-- **Plain lines at the end stay the last lines**, whatever lines stand before them. -/
theorem echo_console_last {lines : List String} (hne : lines ≠ [])
    (h : ∀ line ∈ lines, Plain line) (before : List String) :
    ∃ shown, CommandLine.Output.echo (console (before ++ lines)) =
      shown ++ String.join (lines.map (· ++ "\n")) := by
  obtain ⟨init, last, rfl⟩ := (List.eq_nil_or_concat lines).resolve_left hne
  rw [List.concat_eq_append] at h ⊢
  have hlast : Plain last := h last (by simp)
  have hnewline : '\n' ∉ last.toList := hlast.not_mem (by decide)
  -- The newline that is dropped from the last line is the one that is put behind it again.
  have hchars : (console (before ++ (init ++ [last]))).toList ++ ['\n'] =
      consoleChars before ++ (init ++ [last]).flatMap fun line => line.toList ++ ['\n'] := by
    rw [toList_console, consoleChars_append, consoleChars_of_plain h, List.flatMap_append,
      List.flatMap_singleton, ← List.append_assoc, trimNewlines_append,
      trimNewlines_line hnewline, if_neg hlast.ne_nil]
    simp only [List.append_assoc]
  have hescape : escapeChar ∉ (init ++ [last]).flatMap fun line => line.toList ++ ['\n'] := by
    intro hmem
    obtain ⟨line, hline, hmem⟩ := List.mem_flatMap.1 hmem
    rcases List.mem_append.1 hmem with hmem | hmem
    · exact (h line hline).not_mem (by decide) hmem
    · exact absurd hmem (by decide)
  refine ⟨String.ofList (stripStyling (consoleChars before)), ?_⟩
  rw [← String.toList_inj, CommandLine.Output.echo, String.toList_ofList, hchars,
    stripStyling_lines_append (consoleChars_ends before) hescape, String.toList_append,
    String.toList_ofList]
  congr 1
  generalize init ++ [last] = lines
  induction lines with
  | nil => rfl
  | cons line lines ih => simp [ih]

end Report

end DateCalc
