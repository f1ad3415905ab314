/-
  Settings.

  A setting has the value of the highest of four layers that sets it: the flags of the command
  line, the variables of the environment, the configuration file, and the default.  Sections are
  merged key by key, so that one layer may set a key of a section and another layer another.

  A variable is named after its setting, in any letter case, and so is a flag.  For a section
  there are two ways: a variable with a JSON object, and one variable for each key, which wins over
  the object.  Layers are merged from the highest down, so that a section of a higher layer hides
  what is not a section directly below it, and is merged with what lies further down.

  Only the merged settings are checked, except that a configuration file is checked by itself
  first: a file that is wrong is an error even where every key of it is overridden.
-/
import DateCalc.Config.Environment
import DateCalc.Config.File
import DateCalc.Text.LowerCase
import DateCalc.Value.Reader

namespace DateCalc.Config

/-! ## Merging -/

mutual

/-- A value that covers another: two objects are merged key by key, anything else replaces it. -/
def covering (lower : Value) : Value → Value
  | .object upper =>
    match lower with
    | .object fields => .object (merge fields upper)
    | _ => .object upper
  | v => v

/-- Fields with others above them. -/
def merge (lower : Fields) : List (String × Value) → Fields
  | [] => lower
  | (key, v) :: more =>
    let merged := match lower.get? key with
      | some old => covering old v
      | none => v
    merge (lower.set key merged) more

end

/-! ## Variables -/

/-- The settings with a single value. -/
def plainSettings : List String := ["today", "json_output", "quiet", "verbose", "log_json"]

/-- The sections, each with its key. -/
def sections : List (String × String) := [("parse", "strict"), ("output", "show_expression")]

/-- What the name of every variable for a setting begins with, in lower case. -/
def variableStart : String := "datemath_"

/-- Variables by their names in lower case; of two equal names the later value counts. -/
def lowerNames (vars : List (String × String)) : List (String × String) :=
  vars.foldl
    (fun named (name, v) =>
      let name := Text.lowerCase name
      if named.any (·.1 == name) then named.map fun n => if n.1 == name then (name, v) else n
      else named ++ [(name, v)])
    []

/-- The parts of a name between the double underscores. -/
def splitName : List Char → List (List Char)
  | '_' :: '_' :: rest => [] :: splitName rest
  | c :: rest =>
    match splitName rest with
    | [] => [[c]]
    | part :: more => (c :: part) :: more
  | [] => [[]]

/-- A value set at the end of a path of keys, unless the path runs through another value. -/
def setNested (last : String) (v : Value) : (path : List String) → Fields → Fields
  | [], fields => fields.set last v
  | key :: path, fields =>
    match fields.get? key with
    | none => fields.set key (.object (setNested last v path []))
    | some (.object inner) => fields.set key (.object (setNested last v path inner))
    | some _ => fields

/-- The keys of a section that variables of their own set. -/
def sectionVariables (area : String) (named : List (String × String)) : Fields :=
  let start := (variableStart ++ area ++ "__").toList
  named.foldl
    (fun fields (name, v) =>
      if start.isPrefixOf name.toList then
        let parts := (splitName (name.toList.drop start.length)).map String.ofList
        setNested (parts.getLast?.getD "") (.str v) parts.dropLast fields
      else fields)
    []

/-- The fields of a section with its key spelled as it should be. -/
def respell (key : String) (fields : Fields) : Fields :=
  fields.foldl
    (fun spelled (name, v) => spelled.set (if Text.lowerCase name = key then key else name) v)
    []

/-- A variable that should hold JSON does not. -/
structure BadVariable where
  area : String
  deriving DecidableEq

/-- The wording of the error. -/
def BadVariable.message (b : BadVariable) : String :=
  "error parsing value for field \"" ++ b.area ++ "\" from source \"EnvSettingsSource\""

/-- What variables say of a section, if anything. -/
def sectionValue (area key : String) (named : List (String × String)) :
    Except BadVariable (Option Value) :=
  let own := sectionVariables area named
  match named.lookup (variableStart ++ area) with
  | none => .ok (if own.isEmpty then none else some (.object (respell key own)))
  | some text =>
    match Value.ofJson? text with
    | none => .error ⟨area⟩
    | some (.object fields) => .ok (some (.object (respell key (merge fields own))))
    | some .null => .ok none
    | some v => .ok (some v)

/-- What variables say of the plain settings. -/
def plainVariables (named : List (String × String)) : Fields :=
  plainSettings.filterMap fun name =>
    (named.lookup (variableStart ++ name)).map fun v => (name, .str v)

/-- What variables say of the sections. -/
def sectionsOf (named : List (String × String)) :
    List (String × String) → Except BadVariable Fields
  | [] => .ok []
  | (area, key) :: more => do
    let v ← sectionValue area key named
    let rest ← sectionsOf named more
    return match v with
      | some v => (area, v) :: rest
      | none => rest

/-- The layer of the environment. -/
def variableFields (vars : List (String × String)) : Except BadVariable Fields := do
  let named := lowerNames vars
  let sectionFields ← sectionsOf named sections
  return plainVariables named ++ sectionFields

/-! ## Flags -/

/-- The setting that tells the configuration file, which no flag changes. -/
def fileSetting : String := "config_path"

/-- The flags by the names of their settings; of two flags for one setting the earlier counts.  A
flag without a value is passed over, and one for no setting keeps its name. -/
def flagFields (flags : Fields) : Fields :=
  flags.foldl
    (fun named (name, v) =>
      let setting := Text.lowerCase name
      match v with
      | .null => named
      | _ =>
        if setting = fileSetting then named
        else if (plainSettings ++ sections.map Prod.fst).contains setting then
          if (named.get? setting).isSome then named else named ++ [(setting, v)]
        else named ++ [(name, v)])
    []

/-! ## Settings -/

/-- The settings in effect, and the configuration file they come from, if there is one. -/
structure Settings where
  file : Option Path
  today : Option String
  json : Bool
  quiet : Bool
  verbose : Bool
  logJson : Bool
  strict : Bool
  showExpression : Bool
  deriving DecidableEq

/-- Why there are no settings. -/
inductive LoadError where
  | badFile (path : Path) (trouble : FileTrouble)
  | badVariable (cause : BadVariable)
  | invalid (complaints : List Complaint)
  deriving DecidableEq

namespace Settings

/-- Merged layers as settings; what no layer sets has its default. -/
def check (file : Option Path) (fields : Fields) : Checked Settings :=
  let switch (name : String) : Checked Bool := fields.optional name false Value.checkBool
  let inSection (area key : String) : Checked Bool :=
    fields.optional area false fun v => (File.checkSwitch key v).map fun b => b.getD false
  fields.onlyKeys (plainSettings ++ sections.map Prod.fst)
    ((((((((fields.optional "today" none Value.checkText?).map (Settings.mk file)).both
      (switch "json_output")).both
      (switch "quiet")).both
      (switch "verbose")).both
      (switch "log_json")).both
      (inSection "parse" "strict")).both
      (inSection "output" "show_expression"))

/-- The configuration file that is asked for, or else the one in effect for a directory. -/
def chooseFile? (env : Environment) (asked : Option String) (start : Path) : Option Path :=
  match asked with
  | none | some "" => env.findFile? start
  | some text =>
    let path := Path.ofText text
    if env.isFile path then some path else none

/-- What a configuration file sets. -/
def readFile (env : Environment) (file : Option Path) : Except LoadError File :=
  match file with
  | none => .ok .empty
  | some path =>
    match env.tree.read? env.cwd path with
    | none => .ok .empty
    | some text =>
      match File.read text with
      | .ok f => .ok f
      | .error trouble => .error (.badFile path trouble)

/-- The settings for flags, the environment and a configuration file. -/
def load (env : Environment) (asked : Option String) (start : Path) (flags : Fields) :
    Except LoadError Settings :=
  let file := chooseFile? env asked start
  match readFile env file with
  | .error e => .error e
  | .ok f =>
    match variableFields env.vars with
    | .error b => .error (.badVariable b)
    | .ok vars =>
      match check file (merge f.fields (merge vars (flagFields flags))) with
      | .passed settings => .ok settings
      | .rejected complaints => .error (.invalid complaints)

/-- The settings as a document. -/
def value (s : Settings) : Value :=
  .object
    [(fileSetting, .ofText? (s.file.map Path.text)), ("today", .ofText? s.today),
     ("json_output", .bool s.json), ("quiet", .bool s.quiet), ("verbose", .bool s.verbose),
     ("log_json", .bool s.logJson), ("parse", .object [("strict", .bool s.strict)]),
     ("output", .object [("show_expression", .bool s.showExpression)])]

end Settings

end DateCalc.Config
