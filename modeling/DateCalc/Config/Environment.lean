/-
  The environment, and the configuration file in effect.

  A program runs in a directory of a file tree, with named variables.  The configuration file in
  effect is the one that a variable names, or else the nearest one on the way from the directory up
  to the root.  A variable that names no file means that no file is in effect: there is no falling
  back to the search.
-/
import DateCalc.Config.Path

namespace DateCalc.Config

/-- What a program finds around it. -/
structure Environment where
  tree : FileTree
  cwd : Place
  vars : List (String × String)

/-- The name of a configuration file. -/
def fileName : String := "datemath.toml"

/-- The variable that names the configuration file. -/
def fileVariable : String := "DATEMATH_CONFIG"

namespace Environment

/-- The path leads to a file. -/
def isFile (env : Environment) (p : Path) : Bool := env.tree.isFile env.cwd p

/-- The path of a place. -/
def pathOf (p : Place) : Path := ⟨"/", p⟩

/-- The nearest configuration file at a directory or above it. -/
def nearestFile? (env : Environment) (start : Place) : Option Path :=
  (Place.ancestors start).findSome? fun directory =>
    let place := directory ++ [fileName]
    if (env.tree.textAt? place).isSome then some (pathOf place) else none

/-- The configuration file in effect for a directory. -/
def findFile? (env : Environment) (start : Path) : Option Path :=
  match env.vars.lookup fileVariable with
  | none | some "" => env.nearestFile? (start.resolve env.cwd)
  | some named =>
    let path := Path.ofText named
    if env.isFile path then some path else none

end Environment

end DateCalc.Config
