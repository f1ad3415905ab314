/-
  Similar words.

  Two words are compared by the characters they share: the longest run that occurs in both, then in
  the same way what stands before it and what stands after it.  The likeness of the words is twice
  the number of shared characters over the number of all characters, and words are similar when it
  is three fifths or more.
-/

namespace DateCalc.Text

/-! ## Shared runs -/

/-- The length of the run that two texts have in common at their fronts. -/
def commonFront : List Char → List Char → Nat
  | a :: s, b :: t => if a = b then commonFront s t + 1 else 0
  | _, _ => 0

/-- A run of characters that two texts share: where it begins in each, and its length. -/
structure SharedRun where
  left : Nat
  right : Nat
  length : Nat

/-- The longest run shared by two texts, the first in the first text and then in the second among
runs of equal length. -/
def longestShared (s t : List Char) : SharedRun :=
  let starts := (List.range s.length).flatMap fun i => (List.range t.length).map fun j => (i, j)
  starts.foldl
    (fun best (i, j) =>
      let length := commonFront (s.drop i) (t.drop j)
      if best.length < length then ⟨i, j, length⟩ else best)
    ⟨0, 0, 0⟩

/-- How many characters two texts share.  Every run that is found takes a character at least, so the
length of the first text bounds the depth. -/
def sharedCount : (fuel : Nat) → List Char → List Char → Nat
  | 0, _, _ => 0
  | fuel + 1, s, t =>
    let run := longestShared s t
    if run.length = 0 then 0
    else
      sharedCount fuel (s.take run.left) (t.take run.right) + run.length +
        sharedCount fuel (s.drop (run.left + run.length)) (t.drop (run.right + run.length))

/-! ## Similar words -/

/-- The likeness of two words, as shared characters and all characters. -/
def likeness (s t : List Char) : Nat × Nat := (2 * sharedCount s.length s t, s.length + t.length)

/-- One likeness is greater than another. -/
def moreAlike (a b : Nat × Nat) : Bool := b.1 * a.2 < a.1 * b.2

/-- The words most like a given one, up to three of those that are similar to it. -/
def similarWords (word : String) (words : List String) : List String :=
  let rated := words.map fun w => (likeness w.toList word.toList, w)
  let near := rated.filter fun (l, _) => 3 * l.2 ≤ 5 * l.1
  let ordered := near.mergeSort fun (l, w) (l', w') =>
    moreAlike l l' || (!moreAlike l' l && w' ≤ w)
  (ordered.take 3).map Prod.snd

end DateCalc.Text
