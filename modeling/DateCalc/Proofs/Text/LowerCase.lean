/-
  What lower case leaves alone.

  A text in lower case has no capital of the Latin alphabet (`isUpper_of_mem_lowerCase`), and a
  text without such capitals that is one of the usual small words in lower case is that word already
  (`eq_of_lowerCase_eq`).  The second needs a look at the table: of all letters beyond ASCII only
  one, the sign for the kelvin, has a small letter in ASCII, so that a word with a k may come from
  another text and is left out here.
-/
import Mathlib
import DateCalc.Text.LowerCase

namespace DateCalc.Text

/-! ## The table -/

/-- A letter that has a small one in a run lies in the run, and the small one lies as far into its
own. -/
theorem small?_bounds {r : CapitalRun} {n m : Nat} (h : r.small? n = some m) :
    r.first ≤ n ∧ n ≤ r.last ∧ m = r.small + (n - r.first) := by
  unfold CapitalRun.small? at h
  split at h
  case isTrue hin =>
    simp only [Bool.and_eq_true, decide_eq_true_eq] at hin
    exact ⟨hin.1.1, hin.1.2, (Option.some.inj h).symm⟩
  case isFalse => cases h

/-- The small letters of the runs beyond ASCII lie beyond it, the one of the kelvin aside. -/
theorem capitalRuns_small : ∀ r ∈ capitalRuns, r.last < 0x80 ∨ 0x80 ≤ r.small ∨
    r.first = r.last ∧ r.small = 0x6b := by
  decide +kernel

/-- The small letter of a capital beyond ASCII is beyond ASCII too, or it is the k of the Kelvin
sign. -/
theorem small_of_beyond {n m : Nat} (hn : 0x80 ≤ n)
    (h : capitalRuns.findSome? (fun r => r.small? n) = some m) : 0x80 ≤ m ∨ m = 0x6b := by
  obtain ⟨r, hr, hsmall⟩ := List.exists_of_findSome?_eq_some h
  obtain ⟨hfirst, hlast, rfl⟩ := small?_bounds hsmall
  have hrun := capitalRuns_small r hr
  omega

/-! ## Letters -/

theorem isUpper_iff {c : Char} : c.isUpper = true ↔ 0x41 ≤ c.toNat ∧ c.toNat ≤ 0x5a := by
  simp [Char.isUpper, UInt32.le_iff_toNat_le, ← Char.toNat_val]

theorem isUpper_eq_false_iff {c : Char} :
    c.isUpper = false ↔ ¬ (0x41 ≤ c.toNat ∧ c.toNat ≤ 0x5a) := by
  rw [← isUpper_iff, Bool.not_eq_true]

/-- A character of one of the usual small words: a small letter of ASCII other than k, or a
neighbour of these. -/
def isWordLetter (c : Char) : Bool := 0x5f ≤ c.toNat && c.toNat < 0x80 && c != 'k'

/-- A number that is not the code of a character makes the character 0. -/
theorem toNat_ofNat_or (n : Nat) : (Char.ofNat n).toNat = n ∨ (Char.ofNat n).toNat = 0 := by
  rw [Char.toNat_ofNat]
  split
  · exact .inl rfl
  · exact .inr rfl

/-- The letters beyond ASCII, the dotted capital aside: they stay, or have one small letter that the
table bounds. -/
theorem lowerChar_beyond {c : Char} (hdot : c ≠ dottedCapital) (h : 0x80 ≤ c.toNat) :
    lowerChar c = [c] ∨
      ∃ m, (0x80 ≤ m ∨ m = 0x6b) ∧ lowerChar c = [Char.ofNat m] := by
  rw [lowerChar, if_neg hdot, if_neg (by omega)]
  cases hrun : capitalRuns.findSome? fun r => r.small? c.toNat with
  | none => exact .inl rfl
  | some m => exact .inr ⟨m, small_of_beyond h hrun, rfl⟩

/-- No letter in lower case is a capital of ASCII. -/
theorem isUpper_of_mem_lowerChar {c d : Char} (h : d ∈ lowerChar c) : d.isUpper = false := by
  by_cases hdot : c = dottedCapital
  · rw [lowerChar, if_pos hdot, List.mem_cons, List.mem_singleton] at h
    obtain rfl | rfl := h <;> decide
  by_cases hlow : c.toNat < 0x80
  · rw [lowerChar, if_neg hdot, if_pos hlow, List.mem_singleton] at h
    exact h ▸ Char.isUpper_toLower_eq_false c
  · obtain hself | ⟨m, hm, hsmall⟩ := lowerChar_beyond hdot (by omega)
    · rw [hself, List.mem_singleton] at h
      rw [h, isUpper_eq_false_iff]
      omega
    · rw [hsmall, List.mem_singleton] at h
      have := toNat_ofNat_or m
      rw [h, isUpper_eq_false_iff]
      omega

/-- A character that is no capital and whose lower case has only letters of words is its own lower
case. -/
theorem lowerChar_eq_self {c : Char} (hc : c.isUpper = false)
    (h : ∀ d ∈ lowerChar c, isWordLetter d = true) : lowerChar c = [c] := by
  by_cases hdot : c = dottedCapital
  · rw [lowerChar, if_pos hdot] at h
    exact absurd (h dotAbove (by decide)) (by decide)
  by_cases hlow : c.toNat < 0x80
  · rw [lowerChar, if_neg hdot, if_pos hlow, Char.toLower_eq_of_not_isUpper (Bool.eq_false_iff.1 hc)]
  · obtain hself | ⟨m, hm, hsmall⟩ := lowerChar_beyond hdot (by omega)
    · exact hself
    · have hplain := h (Char.ofNat m) (by rw [hsmall]; exact List.mem_singleton_self _)
      simp only [isWordLetter, Bool.and_eq_true, decide_eq_true_eq, bne_iff_ne] at hplain
      have hnat := toNat_ofNat_or m
      obtain hm | rfl := hm
      · omega
      · exact absurd rfl hplain.2

/-! ## Texts -/

/-- The small form of a letter within a text. -/
theorem lowerFrom_cons (afterCased : Bool) (c : Char) (s : List Char) :
    ∃ lowered cased, lowerFrom afterCased (c :: s) = lowered ++ lowerFrom cased s ∧
      (lowered = lowerChar c ∨ ∃ d, lowered = [d] ∧ 0x80 ≤ d.toNat) := by
  refine ⟨_, _, rfl, ?_⟩
  by_cases hsigma : c = 'Σ'
  · rw [if_pos hsigma]
    refine .inr ⟨_, rfl, ?_⟩
    split <;> decide
  · rw [if_neg hsigma]
    exact .inl rfl

/-- A text in lower case has no capitals of ASCII. -/
theorem isUpper_of_mem_lowerFrom {afterCased : Bool} {s : List Char} {d : Char}
    (h : d ∈ lowerFrom afterCased s) : d.isUpper = false := by
  induction s generalizing afterCased with
  | nil => cases h
  | cons c s ih =>
    obtain ⟨lowered, cased, heq, hlowered⟩ := lowerFrom_cons afterCased c s
    rw [heq] at h
    obtain h | h := List.mem_append.1 h
    · obtain rfl | ⟨e, rfl, he⟩ := hlowered
      · exact isUpper_of_mem_lowerChar h
      · rw [List.mem_singleton.1 h, isUpper_eq_false_iff]
        omega
    · exact ih h

/-- A text without capitals whose lower case has only letters of words is its own lower case. -/
theorem lowerFrom_eq_self {afterCased : Bool} {s : List Char} (hs : ∀ c ∈ s, c.isUpper = false)
    (h : ∀ d ∈ lowerFrom afterCased s, isWordLetter d = true) : lowerFrom afterCased s = s := by
  induction s generalizing afterCased with
  | nil => rfl
  | cons c s ih =>
    obtain ⟨lowered, cased, heq, hlowered⟩ := lowerFrom_cons afterCased c s
    rw [heq] at h ⊢
    have hhead : lowered = [c] := by
      obtain rfl | ⟨e, rfl, he⟩ := hlowered
      · exact lowerChar_eq_self (hs c List.mem_cons_self) fun d hd =>
          h d (List.mem_append_left _ hd)
      · have hplain := h e (List.mem_append_left _ List.mem_cons_self)
        simp only [isWordLetter, Bool.and_eq_true, decide_eq_true_eq] at hplain
        omega
    rw [hhead, ih (fun d hd => hs d (List.mem_cons_of_mem c hd))
      (fun d hd => h d (List.mem_append_right _ hd))]
    rfl

/-- A text in lower case has no capital of ASCII. -/
theorem isUpper_of_mem_lowerCase {s : String} {d : Char} (h : d ∈ (lowerCase s).toList) :
    d.isUpper = false := by
  rw [lowerCase, String.toList_ofList] at h
  exact isUpper_of_mem_lowerFrom h

/-- A text without capitals that in lower case is a plain word is that word. -/
theorem eq_of_lowerCase_eq {s word : String} (hs : ∀ c ∈ s.toList, c.isUpper = false)
    (hword : word.toList.all isWordLetter = true) (h : lowerCase s = word) : s = word := by
  have hlist : lowerFrom false s.toList = word.toList := by
    rw [← h, lowerCase, String.toList_ofList]
  rw [lowerFrom_eq_self hs (hlist ▸ List.all_eq_true.1 hword)] at hlist
  exact String.toList_injective hlist

end DateCalc.Text
