/-
  The configuration file.

  A configuration file is a document of TOML that may set the reference date, how leftover input is
  treated, and whether the expression is shown.  Anything else in it is an error.  What a file does
  not set it says nothing about: a section may be there without its key.
-/
import DateCalc.Toml.Document
import DateCalc.Value.Check

namespace DateCalc.Config

/-- What a configuration file sets. -/
structure File where
  today : Option String
  parse : Option (Option Bool)
  output : Option (Option Bool)
  deriving DecidableEq

/-- Why a configuration file cannot be used. -/
inductive FileTrouble where
  | unread (trouble : Toml.Trouble)
  | invalid (complaints : List Complaint)
  deriving DecidableEq

namespace File

/-- A file in which nothing is set. -/
def empty : File := ⟨none, none, none⟩

/-- A section with one key that is a truth value: the key, if it is set. -/
def checkSwitch (key : String) (v : Value) : Checked (Option Bool) :=
  v.checkSection fun fields =>
    fields.onlyKeys [key] (fields.optional key none fun v => v.checkBool.map some)

/-- A table as a configuration. -/
def check (fields : Fields) : Checked File :=
  fields.onlyKeys ["today", "parse", "output"]
    ((((fields.optional "today" none Value.checkText?).map File.mk).both
      (fields.optional "parse" none fun v => (checkSwitch "strict" v).map some)).both
      (fields.optional "output" none fun v => (checkSwitch "show_expression" v).map some))

/-- The configuration that a text denotes. -/
def read (text : String) : Except FileTrouble File :=
  match Toml.read text with
  | .error trouble => .error (.unread trouble)
  | .ok fields =>
    match check fields with
    | .passed file => .ok file
    | .rejected complaints => .error (.invalid complaints)

/-- A key with a truth value, if it is set. -/
def switchFields (key : String) (setting : Option Bool) : Fields :=
  match setting with
  | some b => [(key, .bool b)]
  | none => []

/-- The keys that a file sets, and nothing else. -/
def fields (f : File) : Fields :=
  (f.today.map fun s => ("today", .str s)).toList ++
    (f.parse.map fun b => ("parse", .object (switchFields "strict" b))).toList ++
    (f.output.map fun b => ("output", .object (switchFields "show_expression" b))).toList

end File

end DateCalc.Config
