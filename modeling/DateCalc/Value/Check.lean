/-
  Checking values.

  A document is checked against what is expected of it field by field.  Every field that is not as
  it should be gives a complaint, and all complaints of a document are reported together, in the
  order of their texts.
-/
import DateCalc.Value.Basic

namespace DateCalc

/-! ## Complaints -/

/-- What is wrong with a value. -/
inductive Fault where
  | missing
  | unknownKey
  | notText
  | noTruthValue
  | notTruthLike
  | notObject
  | notList
  | notSection
  deriving DecidableEq

/-- The name of a fault. -/
def Fault.name : Fault → String
  | missing => "missing"
  | unknownKey => "extra_forbidden"
  | notText => "string_type"
  | noTruthValue => "bool_parsing"
  | notTruthLike => "bool_type"
  | notObject => "dict_type"
  | notList => "list_type"
  | notSection => "model_type"

/-- What is wrong, and where: the keys that lead there from the outside. -/
structure Complaint where
  place : List String
  fault : Fault
  deriving DecidableEq

/-- The place and the name of the fault. -/
def Complaint.text (c : Complaint) : String := ".".intercalate c.place ++ ":" ++ c.fault.name

/-- The texts of complaints in order, in one line. -/
def Complaint.report (cs : List Complaint) : String :=
  "; ".intercalate ((cs.map Complaint.text).mergeSort fun a b => a ≤ b)

/-! ## Checked values -/

/-- A value that passed, or all that is wrong with it. -/
inductive Checked (α : Type) where
  | passed (value : α)
  | rejected (complaints : List Complaint)

namespace Checked

variable {α β : Type}

/-- A value made of a checked one. -/
def map (f : α → β) : Checked α → Checked β
  | passed a => passed (f a)
  | rejected cs => rejected cs

/-- Two checks side by side, whose complaints are put together. -/
def both (f : Checked (α → β)) (a : Checked α) : Checked β :=
  match f, a with
  | passed f, passed a => passed (f a)
  | passed _, rejected cs => rejected cs
  | rejected cs, passed _ => rejected cs
  | rejected cs, rejected ds => rejected (cs ++ ds)

/-- A check within a part of the document. -/
def within (key : String) : Checked α → Checked α
  | passed a => passed a
  | rejected cs => rejected (cs.map fun c => { c with place := key :: c.place })

/-- A value that is wrong in itself. -/
def wrong (fault : Fault) : Checked α := rejected [⟨[], fault⟩]

end Checked

namespace Value

/-! ## Single values -/

/-- The words for the truth values, in lower case. -/
def truthWords : List (String × Bool) :=
  [("0", false), ("off", false), ("f", false), ("false", false), ("n", false), ("no", false),
   ("1", true), ("on", true), ("t", true), ("true", true), ("y", true), ("yes", true)]

/-- Whether a number has no fraction and fits into 63 bits and a sign. -/
def isSmallWhole (x : Float) : Bool := x.floor == x && x.abs < 9223372036854775808.0

/-- A truth value: itself, 0 or 1, or one of the words for it in any letter case. -/
def checkBool : Value → Checked Bool
  | bool b => .passed b
  | int n =>
    if n = 0 then .passed false
    else if n = 1 then .passed true
    else if -9223372036854775808 ≤ n && n ≤ 9223372036854775807 then .wrong .noTruthValue
    else .wrong .notTruthLike
  | float x =>
    if x == 0 then .passed false
    else if x == 1 then .passed true
    else if isSmallWhole x then .wrong .noTruthValue
    else .wrong .notTruthLike
  | str s =>
    match truthWords.lookup (String.ofList (s.toList.map Char.toLower)) with
    | some b => .passed b
    | none => .wrong .noTruthValue
  | _ => .wrong .notTruthLike

/-- A text. -/
def checkText : Value → Checked String
  | str s => .passed s
  | _ => .wrong .notText

/-- A text, or null for none. -/
def checkText? : Value → Checked (Option String)
  | null => .passed none
  | v => v.checkText.map some

/-- Any object. -/
def checkFields : Value → Checked Fields
  | object fields => .passed fields
  | _ => .wrong .notObject

/-- Any object, or null for none. -/
def checkFields? : Value → Checked (Option Fields)
  | null => .passed none
  | v => v.checkFields.map some

/-- The texts of a list, counted from a number on. -/
def checkTextsFrom (index : Nat) : List Value → Checked (List String)
  | [] => .passed []
  | v :: more =>
    ((v.checkText.within (String.ofList (Text.decimal index))).map List.cons).both
      (checkTextsFrom (index + 1) more)

/-- A list of texts. -/
def checkTexts : Value → Checked (List String)
  | list vs => checkTextsFrom 0 vs
  | _ => .wrong .notList

end Value

namespace Fields

/-! ## Fields of a section -/

/-- A field that must be there. -/
def required {α : Type} (fields : Fields) (key : String) (check : Value → Checked α) : Checked α :=
  match fields.get? key with
  | some v => (check v).within key
  | none => (Checked.wrong .missing).within key

/-- A field that has a default. -/
def optional {α : Type} (fields : Fields) (key : String) (absent : α) (check : Value → Checked α) :
    Checked α :=
  match fields.get? key with
  | some v => (check v).within key
  | none => .passed absent

/-- A value that passes only if the fields hold no keys but these. -/
def onlyKeys {α : Type} (fields : Fields) (keys : List String) (checked : Checked α) : Checked α :=
  let unknown := fields.filter fun (key, _) => !keys.contains key
  let complaints := unknown.map fun (key, _) => Complaint.mk [key] .unknownKey
  if complaints.isEmpty then checked
  else
    match checked with
    | .passed _ => .rejected complaints
    | .rejected others => .rejected (others ++ complaints)

end Fields

/-- The fields of a section. -/
def Value.checkSection {α : Type} (v : Value) (check : Fields → Checked α) : Checked α :=
  match v with
  | .object fields => check fields
  | _ => .wrong .notSection

end DateCalc
