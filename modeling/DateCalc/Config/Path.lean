/-
  Paths and file trees.

  A path is a text of parts with slashes between them.  Parts that are empty or a single dot say
  nothing and are dropped; two dots lead to the directory above.  A path can be made absolute by
  its text alone, even where no directory of that name exists; but to reach a file through a tree
  every part on the way must be a directory of it.
-/
import DateCalc.Text.Wrap

namespace DateCalc.Config

/-! ## Paths -/

/-- A path: the slashes it begins with, and its parts. -/
structure Path where
  root : String
  parts : List String
  deriving DecidableEq

namespace Path

/-- The slashes that a path begins with: exactly two are kept, more count as one. -/
def rootOf (s : List Char) : String :=
  let slashes := s.takeWhile (· == '/')
  if slashes.isEmpty then "" else if slashes.length = 2 then "//" else "/"

/-- The path that a text denotes. -/
def ofText (text : String) : Path :=
  let parts := (Text.splitAt '/' text.toList).map String.ofList
  ⟨rootOf text.toList, parts.filter fun p => p != "" && p != "."⟩

/-- The text of a path, a single dot for one without root and parts. -/
def text (p : Path) : String :=
  if p.root = "" && p.parts.isEmpty then "." else p.root ++ "/".intercalate p.parts

/-- A path that does not depend on where one is. -/
def isAbsolute (p : Path) : Bool := p.root != ""

end Path

/-! ## Places -/

/-- A directory or file of a tree: the names that lead to it from the root. -/
abbrev Place : Type := List String

/-- The text of a place. -/
def Place.text (p : Place) : String := "/" ++ "/".intercalate p

/-- The place reached from another by the text of a path alone. -/
def Place.follow (start : Place) : (parts : List String) → Place
  | [] => start
  | part :: more =>
    if part = ".." then Place.follow start.dropLast more else Place.follow (start ++ [part]) more

/-- The place that a path denotes, seen from a directory. -/
def Path.resolve (p : Path) (cwd : Place) : Place :=
  Place.follow (if p.isAbsolute then [] else cwd) p.parts

/-- A directory and all directories above it, nearest first. -/
def Place.ancestors (p : Place) : List Place :=
  (List.range (p.length + 1)).map fun up => p.take (p.length - up)

/-! ## Trees -/

/-- The files of a tree with their texts, and directories that exist besides those of files. -/
structure FileTree where
  files : List (Place × String)
  directories : List Place

namespace FileTree

/-- The place is a directory: the root, one that is listed, or one above something listed. -/
def isDirectory (t : FileTree) (p : Place) : Bool :=
  p.isEmpty || t.directories.any (p.isPrefixOf ·) ||
    t.files.any fun (file, _) => p.isPrefixOf file && p != file

/-- The text of the file at a place. -/
def textAt? (t : FileTree) (p : Place) : Option String := t.files.lookup p

/-- The place reached from a directory through directories of the tree. -/
def walk (t : FileTree) (start : Place) : (parts : List String) → Option Place
  | [] => some start
  | part :: more =>
    if !t.isDirectory start then none
    else if part = ".." then t.walk start.dropLast more
    else t.walk (start ++ [part]) more

/-- The text of the file that a path leads to, seen from a directory. -/
def read? (t : FileTree) (cwd : Place) (p : Path) : Option String :=
  (t.walk (if p.isAbsolute then [] else cwd) p.parts).bind t.textAt?

/-- A path leads to a file, seen from a directory. -/
def isFile (t : FileTree) (cwd : Place) (p : Path) : Bool := (t.read? cwd p).isSome

end FileTree

example : (Path.ofText "./a//b/.").text = "a/b" := by decide
example : (Path.ofText "a/../b").resolve ["r"] = ["r", "b"] := by decide

end DateCalc.Config
