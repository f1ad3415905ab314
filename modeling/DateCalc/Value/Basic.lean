/-
  Document values.

  Results are handed out, settings are read, and both are made of the same few kinds of value.  The
  fields of an object keep the order in which they were written.
-/
import DateCalc.Text.Shortest

namespace DateCalc

/-- A value of a document; a moment is a date or a time as it was written. -/
inductive Value where
  | null
  | bool (b : Bool)
  | int (n : Int)
  | float (x : Float)
  | str (s : String)
  | moment (written : String)
  | list (items : List Value)
  | object (fields : List (String × Value))

/-- Named values in the order in which they are shown. -/
abbrev Fields : Type := List (String × Value)

namespace Fields

/-- The value of a field. -/
def get? (fields : Fields) (key : String) : Option Value := fields.lookup key

/-- The fields with one set, in its place if it was there and at the end if not. -/
def set (fields : Fields) (key : String) (value : Value) : Fields :=
  if fields.any (·.1 == key) then fields.map fun f => if f.1 == key then (key, value) else f
  else fields ++ [(key, value)]

theorem get?_cons_self (key : String) (v : Value) (fields : Fields) :
    get? ((key, v) :: fields) key = some v := by
  simp [get?]

theorem get?_cons_of_ne {key k : String} (h : k ≠ key) (v : Value) (fields : Fields) :
    get? ((key, v) :: fields) k = get? fields k := by
  simp [get?, List.lookup_cons, beq_eq_false_iff_ne.2 h]

theorem get?_append (fields others : Fields) (key : String) :
    get? (fields ++ others) key = (fields.get? key).or (others.get? key) := List.lookup_append

/-- A field whose key none has is not there. -/
theorem get?_eq_none {fields : Fields} {key : String} (h : fields.any (·.1 == key) = false) :
    fields.get? key = none := by
  induction fields with
  | nil => rfl
  | cons f rest ih =>
    simp only [List.any_cons, Bool.or_eq_false_iff, beq_eq_false_iff_ne] at h
    rw [get?_cons_of_ne (Ne.symm h.1), ih h.2]

/-- Replacing the value of a key that is there changes that field and no other. -/
theorem get?_map_replace (fields : Fields) (key k : String) (v : Value) :
    get? (fields.map fun f => if f.1 == key then (key, v) else f) k =
      if k = key ∧ fields.any (·.1 == key) = true then some v else fields.get? k := by
  induction fields with
  | nil => rw [List.any_nil, if_neg fun h => Bool.false_ne_true h.2]; rfl
  | cons f rest ih =>
    obtain ⟨name, w⟩ := f
    rw [List.map_cons, List.any_cons]
    by_cases hname : name = key
    · subst hname
      rw [if_pos (beq_self_eq_true name), beq_self_eq_true, Bool.true_or]
      by_cases hk : k = name
      · rw [hk, get?_cons_self, if_pos ⟨rfl, rfl⟩]
      · rw [get?_cons_of_ne hk, get?_cons_of_ne hk, ih, if_neg fun h => hk h.1,
          if_neg fun h => hk h.1]
    · rw [if_neg fun h => hname (eq_of_beq h), beq_eq_false_iff_ne.2 hname, Bool.false_or]
      by_cases hk : k = name
      · rw [hk, get?_cons_self, get?_cons_self, if_neg fun h => hname h.1]
      · rw [get?_cons_of_ne hk, get?_cons_of_ne hk, ih]

/-- A field that is set has its new value, and no other field is changed. -/
theorem get?_set (fields : Fields) (key k : String) (v : Value) :
    (fields.set key v).get? k = if k = key then some v else fields.get? k := by
  unfold set
  by_cases h : fields.any (·.1 == key) = true
  · rw [if_pos h, get?_map_replace]
    by_cases hk : k = key
    · rw [if_pos ⟨hk, h⟩, if_pos hk]
    · rw [if_neg fun h => hk h.1, if_neg hk]
  · rw [if_neg h, get?_append]
    by_cases hk : k = key
    · rw [hk, get?_eq_none (Bool.eq_false_iff.2 h), get?_cons_self, if_pos rfl]
      rfl
    · rw [get?_cons_of_ne hk, if_neg hk]
      exact Option.or_none

end Fields

namespace Value

/-- What a value is, its content aside. -/
inductive Kind where
  | null
  | bool
  | int
  | float
  | str
  | moment
  | list
  | object
  deriving DecidableEq

/-- The kind of a value. -/
def kind : Value → Kind
  | null => .null
  | bool _ => .bool
  | int _ => .int
  | float _ => .float
  | str _ => .str
  | moment _ => .moment
  | list _ => .list
  | object _ => .object

/-- A text as a value, and nothing where there is none. -/
def ofText? : Option String → Value
  | some s => str s
  | none => null

/-- A natural number as a value. -/
def nat (n : Nat) : Value := int n

/-- The field of an object. -/
def get? (v : Value) (key : String) : Option Value :=
  match v with
  | object fields => Fields.get? fields key
  | _ => none

/-- Null, false, zero and whatever is empty. -/
def isEmpty : Value → Bool
  | null => true
  | bool b => !b
  | int n => n == 0
  | float x => x == 0
  | str s => s.isEmpty
  | moment _ => false
  | list items => items.isEmpty
  | object fields => fields.isEmpty

end Value

end DateCalc
