/-
  What rules read.

  A rule is described from outside by a spelling: which texts spell which values.  It reads that
  spelling when whatever it consumes spells the value it gives (soundness), and when every spelled
  text is consumed with its value as soon as what follows cannot be mistaken for more of it
  (completeness).  The condition on what follows is different from rule to rule, so it is a
  parameter.

  Sequence and choice are opened by one equivalence each, so that no later proof looks at how rules
  are built; repetition is opened by the spelling `Each`, the texts of several values in a row.
-/
import DateCalc.Grammar.Rule

namespace DateCalc

/-! ## Spellings -/

/-- Which texts spell which values. -/
abbrev Spelling (α : Type) : Type := List Char → α → Prop

/-- The texts of several values, one directly after the other. -/
inductive Each {α : Type} (D : Spelling α) : Spelling (List α) where
  | nil : Each D [] []
  | cons {p q : List Char} {a : α} {as : List α} : D p a → Each D q as → Each D (p ++ q) (a :: as)

/-- What holds of every value of a spelling holds of all values in a row. -/
theorem Each.forall_mem {α : Type} {D : Spelling α} {P : α → Prop} {p : List Char} {as : List α}
    (h : Each D p as) (hP : ∀ {q : List Char} {a : α}, D q a → P a) : ∀ a ∈ as, P a := by
  induction h with
  | nil => exact List.forall_mem_nil _
  | cons ha _ ih => exact List.forall_mem_cons.2 ⟨hP ha, ih⟩

namespace Rule

variable {α β : Type}

/-- The rule does not match at the front of this text. -/
def Fails (r : Rule α) (s : List Char) : Prop := ∃ m, r s = .error m

/-- The rule reads the spelling `D` in front of every text that satisfies `K`. -/
structure Reads (r : Rule α) (D : Spelling α) (K : List Char → Prop) : Prop where
  /-- What is consumed spells the value. -/
  sound : ∀ {s rest : List Char} {a : α}, r s = .ok (a, rest) → ∃ p, s = p ++ rest ∧ D p a
  /-- What spells a value is consumed. -/
  complete : ∀ {p rest : List Char} {a : α}, D p a → K rest → r (p ++ rest) = .ok (a, rest)

theorem fails_or_ok (r : Rule α) (s : List Char) : r.Fails s ∨ ∃ a rest, r s = .ok (a, rest) := by
  rcases h : r s with m | ⟨a, rest⟩
  · exact Or.inl ⟨m, h⟩
  · exact Or.inr ⟨a, rest, rfl⟩

/-- What matches does not fail. -/
theorem not_fails_of_ok {r : Rule α} {s : List Char} {x : α × List Char} (h : r s = .ok x) :
    ¬ r.Fails s := by
  rintro ⟨m, hm⟩
  rw [h] at hm
  cases hm

/-- A rule fails on a text that starts with nothing it spells. -/
theorem Reads.fails {r : Rule α} {D : Spelling α} {K : List Char → Prop} (h : r.Reads D K)
    {s : List Char} (hs : ∀ {p rest : List Char} {a : α}, D p a → s ≠ p ++ rest) : r.Fails s := by
  rcases fails_or_ok r s with hf | ⟨a, rest, hok⟩
  · exact hf
  · obtain ⟨p, heq, hp⟩ := h.sound hok
    exact absurd heq (hs hp)

/-! ## Sequence -/

/-- **A sequence matches where its first part does and the second one does on what that leaves.** -/
theorem bind_eq_ok_iff {r : Rule α} {f : α → Rule β} {s : List Char} {x : β × List Char} :
    (r >>= f) s = .ok x ↔ ∃ a mid, r s = .ok (a, mid) ∧ f a mid = .ok x := by
  constructor
  · intro hx
    rcases h : r s with m | ⟨a, mid⟩
    · rw [bind_of_error h] at hx
      cases hx
    · rw [bind_of_ok h] at hx
      exact ⟨a, mid, rfl, hx⟩
  · rintro ⟨a, mid, h, hf⟩
    rw [bind_of_ok h, hf]

theorem pure_eq_ok_iff {a b : α} {s rest : List Char} :
    (pure a : Rule α) s = .ok (b, rest) ↔ a = b ∧ s = rest := by
  simp [pure_apply]

/-- A sequence fails where its first part does, or the second one on what that leaves. -/
theorem fails_bind_iff {r : Rule α} {f : α → Rule β} {s : List Char} :
    (r >>= f).Fails s ↔ r.Fails s ∨ ∃ a mid, r s = .ok (a, mid) ∧ (f a).Fails mid := by
  constructor
  · intro hx
    rcases fails_or_ok r s with h | ⟨a, mid, h⟩
    · exact Or.inl h
    · rw [Fails, bind_of_ok h] at hx
      exact Or.inr ⟨a, mid, h, hx⟩
  · rintro (⟨m, h⟩ | ⟨a, mid, h, hf⟩)
    · exact ⟨m, bind_of_error h⟩
    · rw [Fails, bind_of_ok h]
      exact hf

theorem fails_bind {r : Rule α} (f : α → Rule β) {s : List Char} (h : r.Fails s) :
    (r >>= f).Fails s :=
  fails_bind_iff.2 (Or.inl h)

/-- Behind a rule that matches, a sequence fails where its second part does. -/
theorem fails_bind_of_ok {r : Rule α} {f : α → Rule β} {s mid : List Char} {a : α}
    (h : r s = .ok (a, mid)) (hf : (f a).Fails mid) : (r >>= f).Fails s :=
  fails_bind_iff.2 (Or.inr ⟨a, mid, h, hf⟩)

/-- A sequence fails when its second part does, wherever the first one may end. -/
theorem fails_bind_of_forall {r : Rule α} {f : α → Rule β} {s : List Char}
    (h : ∀ a mid, r s = .ok (a, mid) → (f a).Fails mid) : (r >>= f).Fails s := by
  rcases fails_or_ok r s with hf | ⟨a, mid, hr⟩
  · exact fails_bind f hf
  · exact fails_bind_of_ok hr (h a mid hr)

/-! ## Choice -/

/-- The second of two rules counts only where the first one fails. -/
theorem orElse_eq_ok_iff {p q : Rule α} {s : List Char} {x : α × List Char} :
    (p.orElse q) s = .ok x ↔ p s = .ok x ∨ p.Fails s ∧ q s = .ok x := by
  rcases h : p s with m | y
  · simp [orElse, Fails, h]
  · simp [orElse, Fails, h]

/-- Either of two rules fails where both do. -/
theorem fails_orElse_iff {p q : Rule α} {s : List Char} :
    (p.orElse q).Fails s ↔ p.Fails s ∧ q.Fails s := by
  rcases h : p s with m | y
  · simp [orElse, Fails, h]
  · simp [orElse, Fails, h]

/-- A name changes no match. -/
theorem named_eq_ok_iff {name : String} {r : Rule α} {s : List Char} {x : α × List Char} :
    (r.named name) s = .ok x ↔ r s = .ok x := by
  rcases h : r s with m | y
  · simp [named, h]
  · simp [named, h]

/-- A name changes nothing about whether a rule fails. -/
theorem fails_named_iff {name : String} {r : Rule α} {s : List Char} :
    (r.named name).Fails s ↔ r.Fails s := by
  rcases h : r s with m | y
  · simp [named, Fails, h]
  · simp [named, Fails, h]

/-- What is expected changes no match. -/
theorem expecting_eq_ok_iff {e : Expected} {r : Rule α} {s : List Char} {x : α × List Char} :
    (r.expecting e) s = .ok x ↔ r s = .ok x := by
  rcases h : r s with m | y
  · simp [expecting, h]
  · simp [expecting, h]

/-- The second alternative counts only where the first one fails. -/
theorem orDeeper_eq_ok_iff {p q : Rule α} {s : List Char} {x : α × List Char} :
    (p.orDeeper q) s = .ok x ↔ p s = .ok x ∨ p.Fails s ∧ q s = .ok x := by
  rcases h : p s with m | y
  · rcases h' : q s with m' | y'
    · simp [orDeeper, Fails, h, h']
    · simp [orDeeper, Fails, h, h']
  · simp [orDeeper, Fails, h]

/-- Both alternatives have to fail. -/
theorem fails_orDeeper_iff {p q : Rule α} {s : List Char} :
    (p.orDeeper q).Fails s ↔ p.Fails s ∧ q.Fails s := by
  rcases h : p s with m | y
  · rcases h' : q s with m' | y'
    · simp [orDeeper, Fails, h, h']
    · simp [orDeeper, Fails, h, h']
  · simp [orDeeper, Fails, h]

/-- Ordered choice, one alternative at a time: the first one decides where it matches, and the
others decide where it fails. -/
theorem firstMatch_cons_eq_ok_iff {name : String} {r : Rule α} {more : List (String × Rule α)}
    {s : List Char} {x : α × List Char} :
    firstMatch ((name, r) :: more) s = .ok x ↔
      r s = .ok x ∨ r.Fails s ∧ firstMatch more s = .ok x := by
  cases more with
  | nil =>
    show (r.named name) s = .ok x ↔ _
    simp [named_eq_ok_iff, firstMatch, fail]
  | cons next more =>
    show ((r.named name).orDeeper (firstMatch (next :: more))) s = .ok x ↔ _
    rw [orDeeper_eq_ok_iff, named_eq_ok_iff, fails_named_iff]

/-- A choice fails where its first alternative does and the others do. -/
theorem fails_firstMatch_cons_iff {name : String} {r : Rule α} {more : List (String × Rule α)}
    {s : List Char} :
    (firstMatch ((name, r) :: more)).Fails s ↔ r.Fails s ∧ (firstMatch more).Fails s := by
  cases more with
  | nil =>
    show (r.named name).Fails s ↔ _
    rw [fails_named_iff]
    simp [firstMatch, fail, Fails]
  | cons next more =>
    show ((r.named name).orDeeper (firstMatch (next :: more))).Fails s ↔ _
    rw [fails_orDeeper_iff, fails_named_iff]

theorem firstMatch_nil_ne_ok {s : List Char} {x : α × List Char} :
    (firstMatch ([] : List (String × Rule α))) s ≠ .ok x := by
  intro h
  cases h

theorem fails_firstMatch_nil (s : List Char) :
    (firstMatch ([] : List (String × Rule α))).Fails s :=
  ⟨_, rfl⟩

/-! ## Repetition -/

/-- **What a repetition consumes** is a row of texts that its rule reads, by induction on the
steps it takes. -/
theorem repeated_sound {r : Rule α} {D : Spelling α}
    (hr : ∀ {s rest : List Char} {a : α}, r s = .ok (a, rest) → ∃ p, s = p ++ rest ∧ D p a)
    (s : List Char) : ∃ p, s = p ++ (repeated r s).2 ∧ Each D p (repeated r s).1 := by
  fun_induction repeated r s with
  | case1 s a rest h hlt as last heq ih =>
    obtain ⟨p, rfl, hp⟩ := hr h
    obtain ⟨q, hq, hqs⟩ := ih
    rw [heq] at hq hqs
    refine ⟨p ++ q, ?_, .cons hp hqs⟩
    rw [List.append_assoc, ← hq]
  | case2 s a rest h hlt => exact ⟨[], rfl, .nil⟩
  | case3 s m h => exact ⟨[], rfl, .nil⟩

/-- **A repetition consumes a whole row** when its rule reads each text of the row in front of the
next one, and fails behind the last. -/
theorem repeated_append {r : Rule α} {D : Spelling α} {K : List Char → Prop}
    (hr : ∀ {p rest : List Char} {a : α}, D p a → K rest → r (p ++ rest) = .ok (a, rest))
    (hne : ∀ {p : List Char} {a : α}, D p a → p ≠ [])
    (hK : ∀ {p rest : List Char} {a : α}, D p a → K (p ++ rest))
    {p rest : List Char} {as : List α} (hp : Each D p as) (hrest : K rest) (hf : r.Fails rest) :
    repeated r (p ++ rest) = (as, rest) := by
  induction hp with
  | nil =>
    obtain ⟨m, hm⟩ := hf
    rw [List.nil_append, repeated, hm]
  | @cons p q a as hp hq ih =>
    -- Behind this text stands the next one of the row, or the end of the row.
    have hmid : K (q ++ rest) := by
      cases hq with
      | nil => exact hrest
      | cons hp' _ => rw [List.append_assoc]; exact hK hp'
    have hstep : r (p ++ q ++ rest) = .ok (a, q ++ rest) := by
      rw [List.append_assoc]; exact hr hp hmid
    have hlt : (q ++ rest).length < (p ++ q ++ rest).length := by
      have := List.length_pos_iff.2 (hne hp)
      simp only [List.length_append]
      omega
    rw [repeated, hstep]
    simp only [hlt, if_true, ih]

/-! ## Whole texts -/

theorem parse_eq_full_iff {r : Rule α} {text : List Char} {a : α} :
    r.parse text = .full a ↔ r text = .ok (a, []) := by
  unfold parse
  split <;> simp_all

/-- Something is left of a text exactly if the rule leaves it, and it is not empty. -/
theorem parse_eq_leaving_iff {r : Rule α} {text rest : List Char} {a : α} :
    r.parse text = .leaving a rest ↔ r text = .ok (a, rest) ∧ rest ≠ [] := by
  unfold parse
  split
  · simp_all
  · rename_i h
    rw [h]
    constructor
    · intro heq
      cases heq
      exact ⟨rfl, List.cons_ne_nil _ _⟩
    · rintro ⟨heq, -⟩
      cases heq
      rfl
  · simp_all

end Rule

end DateCalc
