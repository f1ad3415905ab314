/-
  Rules at a position, and rules on what is left.

  A placed rule may look at all of its text; a rule is given nothing but the rest from its start on.
  The two agree when at every position inside a text the placed rule comes to the same as the rule
  does on the rest from there: the same value with an end behind which the same is left, or the same
  mismatch at the place where as much was left (`Follows`).  Ends and stops lie between the start
  and the end of the text, so the next rule starts inside the text again; this is what the steps of
  a sequence and the rounds of a repetition need.

  A choice is where the two are built differently.  The placed one goes forward with the failure
  that got furthest so far, the other one compares from the last alternative back.  They meet in
  `firstMatch_cons_cons`: of the first two alternatives that fail, the one that got less far may be
  forgotten, and the later one when both got equally far.
-/
import DateCalc.Grammar.Placed.Token
import DateCalc.Proofs.Grammar.Failures

namespace DateCalc

/-! ## One start -/

/-- At one start: the same value and as much left, or the same mismatch with as much left. -/
inductive PlacedRule.Agree {α : Type} (text : List Char) (position : Nat) :
    Except Failure (α × Nat) → Except Mismatch (α × List Char) → Prop where
  | ok {a : α} {finish : Nat} : position ≤ finish → finish ≤ text.length →
      Agree text position (.ok (a, finish)) (.ok (a, text.drop finish))
  | error {stop : Nat} {expected : Expected} {rule : Option String} :
      position ≤ stop → stop ≤ text.length →
      Agree text position (.error ⟨text, stop, expected.text, rule⟩)
        (.error ⟨text.drop stop, expected, rule⟩)

/-- A failure at the start itself is a mismatch with all of the rest left. -/
theorem PlacedRule.Agree.start {α : Type} {text : List Char} {position : Nat}
    (hposition : position ≤ text.length) (expected : Expected) :
    Agree (α := α) text position (.error ⟨text, position, expected.text, none⟩)
      (.error ⟨text.drop position, expected, none⟩) :=
  .error (Nat.le_refl position) hposition

namespace Rule

variable {α : Type}

/-- Of two failing alternatives at the front of a choice, only the one that got further counts, and
the first where both got equally far. -/
theorem firstMatch_cons_cons {name name' : String} {r r' : Rule α} {s : List Char}
    {m m' : Mismatch} (h : r s = .error m) (h' : r' s = .error m')
    (more : List (String × Rule α)) :
    firstMatch ((name, r) :: (name', r') :: more) s =
      if m'.rest.length < m.rest.length then firstMatch ((name', r') :: more) s
      else firstMatch ((name, r) :: more) s := by
  cases more with
  | nil =>
    rw [firstMatch_of_errors h (firstMatch_single_of_error h'), firstMatch_single_of_error h,
      firstMatch_single_of_error h', Mismatch.deeper]
    split <;> rfl
  | cons next more =>
    rcases hmore : firstMatch (next :: more) s with m₂ | x
    · rw [firstMatch_of_errors h (firstMatch_of_errors h' hmore), firstMatch_of_errors h hmore,
        firstMatch_of_errors h' hmore]
      simp only [Mismatch.deeper]
      grind
    · have hok : ∀ {n : String} {q : Rule α}, q.Fails s →
          firstMatch ((n, q) :: next :: more) s = .ok x :=
        fun hq => firstMatch_cons_eq_ok_iff.2 (Or.inr ⟨hq, hmore⟩)
      rw [hok ⟨m, h⟩, hok ⟨m', h'⟩, ite_self,
        firstMatch_cons_eq_ok_iff.2 (Or.inr ⟨⟨m, h⟩, hok ⟨m', h'⟩⟩)]

end Rule

namespace PlacedRule

variable {α β : Type}

/-- At every position inside a text, the placed rule comes to what the rule comes to on the rest
from there. -/
def Follows (p : PlacedRule α) (r : Rule α) : Prop :=
  ∀ (text : List Char) (position : Nat), position ≤ text.length →
    Agree text position (p text position) (r (text.drop position))

namespace Follows

section Cases

variable {p : PlacedRule α} {r : Rule α} {text : List Char} {position : Nat}

/-- At a position inside a text either both match, with the same value and as much left, or both
stop at the same place for the same reason. -/
theorem ok_or_error (h : Follows p r) (hposition : position ≤ text.length) :
    (∃ a finish, p text position = .ok (a, finish) ∧
      r (text.drop position) = .ok (a, text.drop finish) ∧
        position ≤ finish ∧ finish ≤ text.length) ∨
    ∃ stop expected rule,
      p text position = .error ⟨text, stop, Expected.text expected, rule⟩ ∧
        r (text.drop position) = .error ⟨text.drop stop, expected, rule⟩ ∧
          position ≤ stop ∧ stop ≤ text.length := by
  have hagree := h text position hposition
  generalize p text position = x at hagree ⊢
  generalize r (text.drop position) = y at hagree ⊢
  cases hagree with
  | @ok a finish hle hend => exact Or.inl ⟨a, finish, rfl, rfl, hle, hend⟩
  | @error stop expected rule hle hend =>
    exact Or.inr ⟨stop, expected, rule, rfl, rfl, hle, hend⟩

end Cases

/-! ## Sequence -/

theorem pure (a : α) : Follows (Pure.pure a) (Pure.pure a) :=
  fun _ _ hposition => .ok (Nat.le_refl _) hposition

theorem fail (expected : Expected) : Follows (α := α) (PlacedRule.fail expected)
    (Rule.fail expected) :=
  fun _ _ hposition => .start hposition expected

/-- A sequence follows a sequence: the second part starts where the first one ended. -/
theorem bind {p : PlacedRule α} {r : Rule α} {f : α → PlacedRule β} {g : α → Rule β}
    (h : Follows p r) (hf : ∀ a, Follows (f a) (g a)) : Follows (p >>= f) (r >>= g) := by
  intro text position hposition
  rcases h.ok_or_error hposition with ⟨a, mid, hp, hr, hle, hmid⟩ | ⟨_, _, _, hp, hr, hle, hend⟩
  · simp only [Bind.bind, hp, hr]
    rcases (hf a).ok_or_error hmid with ⟨b, _, hp, hr, hle', hend⟩ | ⟨_, _, _, hp, hr, hle', hend⟩
    · rw [hp, hr]
      exact .ok (hle.trans hle') hend
    · rw [hp, hr]
      exact .error (hle.trans hle') hend
  · simp only [Bind.bind, hp, hr]
    exact .error hle hend

/-! ## Choice -/

/-- The second of two rules starts where the first one did. -/
theorem orElse {p q : PlacedRule α} {r t : Rule α} (hp : Follows p r) (hq : Follows q t) :
    Follows (p.orElse q) (r.orElse t) := by
  intro text position hposition
  rcases hp.ok_or_error hposition with ⟨a, _, hp, hr, hle, hend⟩ | ⟨_, _, _, hp, hr, -⟩
  · simp only [PlacedRule.orElse, Rule.orElse, hp, hr]
    exact .ok hle hend
  · simp only [PlacedRule.orElse, Rule.orElse, hp, hr]
    exact hq text position hposition

/-- The same alternatives under the same names. -/
def SameForms (forms : List (String × PlacedRule α)) (forms' : List (String × Rule α)) : Prop :=
  List.Forall₂ (fun f f' => f.1 = f'.1 ∧ Follows f.2 f'.2) forms forms'

/-- With the failure of an earlier alternative kept, the rest of a choice comes to what the choice
with that alternative in front comes to, by induction on the alternatives left. -/
theorem firstMatchFrom {forms : List (String × PlacedRule α)} {forms' : List (String × Rule α)}
    (h : SameForms forms forms') {text : List Char} {position : Nat}
    (hposition : position ≤ text.length) {name : String} {r : Rule α} {stop : Nat}
    {expected : Expected} {rule : Option String}
    (hr : r (text.drop position) = .error ⟨text.drop stop, expected, rule⟩)
    (hle : position ≤ stop) (hend : stop ≤ text.length) :
    Agree text position
      (PlacedRule.firstMatchFrom (some (name, ⟨text, stop, expected.text, rule⟩)) forms text
        position)
      (Rule.firstMatch ((name, r) :: forms') (text.drop position)) := by
  induction h generalizing name r stop expected rule with
  | nil =>
    rw [Rule.firstMatch_single_of_error hr]
    exact .error hle hend
  | @cons f f' forms forms' hf _ ih =>
    obtain ⟨name', p⟩ := f
    obtain ⟨_, r'⟩ := f'
    obtain ⟨rfl, hp⟩ := hf
    have hp : Follows p r' := hp
    simp only [PlacedRule.firstMatchFrom]
    rcases hp.ok_or_error hposition with
      ⟨a, finish, hp', hr', hle', hend'⟩ | ⟨stop', expected', rule', hp', hr', hle', hend'⟩
    · have hok : Rule.firstMatch ((name, r) :: (name', r') :: forms') (text.drop position) =
          .ok (a, text.drop finish) :=
        Rule.firstMatch_cons_eq_ok_iff.2
          (Or.inr ⟨⟨_, hr⟩, Rule.firstMatch_cons_eq_ok_iff.2 (Or.inl hr')⟩)
      rw [hp', hok]
      exact .ok hle' hend'
    · -- The rests are compared by length, the failures by position.
      have hdeeper : (text.drop stop').length < (text.drop stop).length ↔ stop < stop' := by
        simp only [List.length_drop]
        omega
      simp only [hp', PlacedRule.further, Rule.firstMatch_cons_cons hr hr', hdeeper]
      split
      · exact ih hr' hle' hend'
      · exact ih hr hle hend

/-- A choice follows a choice. -/
theorem firstMatch {forms : List (String × PlacedRule α)} {forms' : List (String × Rule α)}
    (h : SameForms forms forms') :
    Follows (PlacedRule.firstMatch forms) (Rule.firstMatch forms') := by
  intro text position hposition
  cases h with
  | nil => exact .start hposition _
  | @cons f f' forms forms' hf hmore =>
    obtain ⟨name, p⟩ := f
    obtain ⟨_, r⟩ := f'
    obtain ⟨rfl, hp⟩ := hf
    have hp : Follows p r := hp
    simp only [PlacedRule.firstMatch, PlacedRule.firstMatchFrom]
    rcases hp.ok_or_error hposition with ⟨a, _, hp, hr, hle, hend⟩ | ⟨_, _, _, hp, hr, hle, hend⟩
    · rw [hp, Rule.firstMatch_cons_eq_ok_iff.2 (Or.inl hr)]
      exact .ok hle hend
    · simp only [hp]
      exact firstMatchFrom hmore hposition hr hle hend

/-! ## Repetition -/

/-- A repetition follows a repetition, by induction on its rounds: both go on as long as something
is consumed. -/
theorem repeated {p : PlacedRule α} {r : Rule α} (h : Follows p r) (text : List Char)
    (position : Nat) (hposition : position ≤ text.length) :
    ∃ as last, PlacedRule.repeated p text position = (as, last) ∧
      Rule.repeated r (text.drop position) = (as, text.drop last) ∧
      position ≤ last ∧ last ≤ text.length := by
  induction hleft : text.length - position using Nat.strong_induction_on generalizing position with
  | _ left ih =>
    rw [PlacedRule.repeated, Rule.repeated]
    rcases h.ok_or_error hposition with ⟨a, finish, hp, hr, hle, hend⟩ | ⟨_, _, _, hp, hr, -⟩
    · have hguard : (text.drop finish).length < (text.drop position).length ↔
          position < finish ∧ finish ≤ text.length := by
        simp only [List.length_drop]
        omega
      simp only [hp, hr, hguard]
      split
      · rename_i hmoves
        obtain ⟨as, last, has, has', hle', hend'⟩ := ih _ (by omega) finish hend rfl
        exact ⟨a :: as, last, by rw [has], by rw [has'], hle.trans hle', hend'⟩
      · exact ⟨[], position, rfl, rfl, Nat.le_refl _, hposition⟩
    · simp only [hp, hr]
      exact ⟨[], position, rfl, rfl, Nat.le_refl _, hposition⟩

/-- Rounds at positions follow rounds on what is left. -/
theorem many {p : PlacedRule α} {r : Rule α} (h : Follows p r) :
    Follows (PlacedRule.many p) (Rule.many r) := by
  intro text position hposition
  obtain ⟨as, last, has, has', hle, hend⟩ := h.repeated text position hposition
  simp only [PlacedRule.many, Rule.many, has, has']
  exact .ok hle hend

/-! ## Positions and whole texts -/

/-- What follows a rule gives what that rule gives at a position. -/
theorem parseAt_eq {p : PlacedRule α} {r : Rule α} (h : Follows p r) {text : List Char}
    {position : Nat} (hposition : position ≤ text.length) :
    p text position = r.parseAt text position := by
  rcases h.ok_or_error hposition with ⟨a, finish, hp, hr, -, hend⟩ | ⟨stop, _, _, hp, hr, -, hend⟩
  · have hfinish : text.length - (text.drop finish).length = finish := by
      rw [List.length_drop]
      omega
    simp only [hp, Rule.parseAt, hr, hfinish]
  · have hstop : text.length - (text.drop stop).length = stop := by
      rw [List.length_drop]
      omega
    simp only [hp, Rule.parseAt, hr, Mismatch.inText, hstop]

/-- What follows a rule reads whole texts like that rule. -/
theorem parse_eq {p : PlacedRule α} {r : Rule α} (h : Follows p r) (text : List Char) :
    p.parse text = r.parse text := by
  rcases h.ok_or_error (Nat.zero_le text.length) with
    ⟨a, finish, hp, hr, -, hend⟩ | ⟨stop, _, _, hp, hr, -, hend⟩
  · rw [List.drop_zero] at hr
    rcases hrest : text.drop finish with _ | ⟨c, rest⟩
    · have hlength := Nat.le_antisymm hend (List.drop_eq_nil_iff.1 hrest)
      rw [hrest] at hr
      simp only [PlacedRule.parse, Rule.parse, hp, hr, hlength, if_true]
    · have hne : finish ≠ text.length := by
        rintro rfl
        simp at hrest
      simp only [PlacedRule.parse, Rule.parse, hp, hr, hrest, hne, if_false]
  · rw [List.drop_zero] at hr
    have hstop : text.length - (text.drop stop).length = stop := by
      rw [List.length_drop]
      omega
    simp only [PlacedRule.parse, Rule.parse, hp, hr, Mismatch.inText, hstop]

end Follows

end PlacedRule

end DateCalc
