/-
  Tables of TOML under construction.

  A document is written line by line into nested tables.  A table may be headed only once, a value
  may be set only once, and whatever was written as an inline table or a list is closed: nothing may
  be added below it.  So beside the values two lists of paths are kept, of the tables that were
  headed or opened by a dotted key, and of the closed ones.
-/
import DateCalc.Value.Basic

namespace DateCalc.Toml

/-! ## Nested tables -/

/-- The table below a path with a change made to it; missing tables on the way are made, and where
lists may be entered their last table is meant.  Nothing if the path runs through another value or
the change is refused. -/
def updateTable (enterLists : Bool) (change : Fields → Option Fields) :
    (path : List String) → Fields → Option Fields
  | [], table => change table
  | key :: path, table =>
    match table.get? key with
    | none => (updateTable enterLists change path []).map fun t => table.set key (.object t)
    | some (.object t) =>
      (updateTable enterLists change path t).map fun t' => table.set key (.object t')
    | some (.list items) =>
      match enterLists, items.getLast? with
      | true, some (.object t) =>
        (updateTable enterLists change path t).map fun t' =>
          table.set key (.list (items.dropLast ++ [.object t']))
      | _, _ => none
    | some _ => none

/-- A table with a value set that it does not have yet. -/
def setNew (key : String) (v : Value) (table : Fields) : Option Fields :=
  match table.get? key with
  | some _ => none
  | none => some (table.set key v)

/-- A table with one more table at the end of a list of tables. -/
def appendTable (key : String) (table : Fields) : Option Fields :=
  match table.get? key with
  | none => some (table.set key (.list [.object []]))
  | some (.list items) => some (table.set key (.list (items ++ [.object []])))
  | some _ => none

/-! ## Closed and headed paths -/

/-- The value is a table or a list. -/
def isNested : Value → Bool
  | .object _ | .list _ => true
  | _ => false

/-- A document under construction, and the path of the table that the next lines belong to. -/
structure Draft where
  root : Fields
  headed : List (List String)
  opened : List (List String)
  closed : List (List String)
  header : List String

namespace Draft

/-- A document in which nothing is written. -/
def empty : Draft := ⟨[], [], [], [], []⟩

/-- The path leads to a closed value or below one. -/
def isClosed (d : Draft) (path : List String) : Bool := d.closed.any fun p => p.isPrefixOf path

/-- The table at the path has been headed. -/
def isHeaded (d : Draft) (path : List String) : Bool := d.headed.contains path

/-- Tables opened by dotted keys count as headed once the next table begins. -/
def settle (d : Draft) : Draft := { d with headed := d.opened ++ d.headed, opened := [] }

/-- The heading of a table. -/
def beginTable (d : Draft) (path : List String) : Option Draft :=
  let d := d.settle
  if d.isHeaded path || d.isClosed path then none
  else
    (updateTable true some path d.root).map fun root =>
      { d with root := root, headed := path :: d.headed, header := path }

/-- The heading of one more table of a list of tables; everything below it is open again. -/
def beginListed (d : Draft) (path : List String) : Option Draft :=
  let d := d.settle
  if d.isClosed path then none
  else
    match path.getLast? with
    | none => none
    | some key =>
      (updateTable true (appendTable key) path.dropLast d.root).map fun root =>
        { d with
          root := root
          headed := path :: d.headed.filter fun p => !path.isPrefixOf p
          closed := d.closed.filter fun p => !path.isPrefixOf p
          header := path }

/-- The paths of the tables that a dotted key passes through. -/
def passed (d : Draft) (key : List String) : List (List String) :=
  (List.range (key.length - 1)).map fun i => d.header ++ key.take (i + 1)

/-- A key and its value under the current heading. -/
def assign (d : Draft) (key : List String) (v : Value) : Option Draft :=
  match key.getLast? with
  | none => none
  | some last =>
    let parent := d.header ++ key.dropLast
    if (d.passed key).any d.isHeaded || d.isClosed parent then none
    else
      (updateTable true (setNew last v) parent d.root).map fun root =>
        { d with
          root := root
          opened := d.passed key ++ d.opened
          closed := if isNested v then (d.header ++ key) :: d.closed else d.closed }

end Draft

/-! ## Inline tables -/

/-- An inline table under construction, with the paths of its closed values. -/
structure InlineDraft where
  table : Fields
  closed : List (List String)

/-- A key and its value in an inline table. -/
def InlineDraft.assign (d : InlineDraft) (key : List String) (v : Value) : Option InlineDraft :=
  match key.getLast? with
  | none => none
  | some last =>
    if d.closed.any fun p => p.isPrefixOf key then none
    else
      (updateTable false (setNew last v) key.dropLast d.table).map fun table =>
        ⟨table, if isNested v then key :: d.closed else d.closed⟩

end DateCalc.Toml
