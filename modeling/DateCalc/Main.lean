/-
  The program.

  What a run depends on is gathered from the system here, and what it leaves behind is handed over
  to the system; nothing is decided in between.
-/
import DateCalc.CommandLine.Run
import Std.Time.Zoned

namespace DateCalc.Main

open DateCalc.CommandLine

/-! ## Files -/

/-- The configuration files that a run may read: those of the working directory and of the
directories above it, and those that the environment and the arguments name. -/
def candidates (cwd : Config.Place) (vars : List (String × String)) (args : List String) :
    List Config.Path :=
  let near := cwd.ancestors.map fun d => Config.Environment.pathOf (d ++ [Config.fileName])
  let asked := match readProgram args with
    | .ok parts => (parts.value? .config).toList
    | .error _ => []
  near ++ ((vars.lookup Config.fileVariable).toList ++ asked).map Config.Path.ofText

/-- The directories through which a path leads. -/
def waypoints (cwd : Config.Place) (p : Config.Path) : List Config.Place :=
  (List.range p.parts.length).map fun n => Config.Path.resolve ⟨p.root, p.parts.take n⟩ cwd

/-- The text of a file, if it is there. -/
def readText? (path : String) : IO (Option String) := do
  try return some (← IO.FS.readFile path) catch _ => return none

/-- The part of the file tree that a run may see. -/
def readTree (cwd : Config.Place) (paths : List Config.Path) : IO Config.FileTree := do
  let found ← paths.filterMapM fun p => do return (← readText? p.text).map fun text => (p, text)
  return ⟨found.map fun (p, text) => (p.resolve cwd, text),
    cwd :: found.flatMap fun (p, _) => waypoints cwd p⟩

/-! ## Variables -/

/-- The variables of the environment, which the system shows as a file. -/
def readVariables : IO (List (String × String)) := do
  let shown := ((← readText? "/proc/self/environ").getD "").toList
  return (Text.splitAt (Char.ofNat 0) shown).filterMap fun entry =>
    match splitEquals entry with
    | (name, some v) => some (String.ofList name, String.ofList v)
    | _ => none

/-! ## Clocks -/

/-- The day on which the clocks of the system begin to count. -/
def epoch : Date := (Date.make? 1970 1 1).getD Date.first

/-- The day that lies a number of seconds after the beginning. -/
def dayAt (seconds : Int) : Date := (epoch.shift? (seconds / 86400)).getD epoch

/-- The time that lies a number of nanoseconds after the beginning, to the microsecond. -/
def stampAt (nanoseconds : Int) : String :=
  let seconds := nanoseconds / 1000000000
  let second := (seconds % 86400).toNat
  let two (n : Nat) := String.ofList (Text.paddedDecimal 2 n)
  (dayAt seconds).isoText ++ "T" ++ two (second / 3600) ++ ":" ++ two (second / 60 % 60) ++ ":" ++
    two (second % 60) ++ "." ++
    String.ofList (Text.paddedDecimal 6 (nanoseconds % 1000000000 / 1000).toNat) ++ "Z"

/-- The local day. -/
def readDay (nanoseconds : Int) : IO Date := do
  try
    let day ← Std.Time.PlainDate.now
    let year := (day.year : Int).toNat
    return (Date.make? year day.month.val.toNat day.day.val.toNat).getD
      (dayAt (nanoseconds / 1000000000))
  catch _ => return dayAt (nanoseconds / 1000000000)

/-! ## Running -/

/-- What is said about trouble with a configuration file. -/
def troubleText : Config.FileTrouble → String
  | .unread .malformed => "not a TOML document"
  | .unread (.longNumber digits) =>
    "a number of " ++ String.ofList (Text.decimal digits) ++ " digits"
  | .invalid complaints => Complaint.report complaints

/-- What a run finds around it. -/
def gather (args : List String) : IO Surroundings := do
  let cwd := (Config.Path.ofText (← IO.currentDir).toString).parts
  let vars ← readVariables
  let tree ← readTree cwd (candidates cwd vars args)
  let nanoseconds := (← Std.Time.Timestamp.now).toNanosecondsSinceUnixEpoch.val
  return ⟨⟨tree, cwd, vars⟩, ← readDay nanoseconds, stampAt nanoseconds, troubleText⟩

end DateCalc.Main

/-- The program. -/
def main (args : List String) : IO UInt32 := do
  let output := DateCalc.CommandLine.run (← DateCalc.Main.gather args) args
  IO.print output.out
  IO.eprint output.err
  return output.ending.code.toUInt32
