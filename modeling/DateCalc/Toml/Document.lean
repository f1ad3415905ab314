/-
  Documents of TOML.

  A document is a sequence of lines: headings of tables, keys with their values, comments and empty
  lines.  Reading one gives its table, or the trouble with the first part of it that is not read.
-/
import DateCalc.Toml.Scalar
import DateCalc.Toml.Table

namespace DateCalc.Toml

/-! ## Comments -/

/-- The text from the end of the line on, after a comment if there is one. -/
def skipComment (s : List Char) : Option (List Char) :=
  match s with
  | '#' :: rest =>
    if (rest.takeWhile (· != '\n')).any isControl then none else some (rest.dropWhile (· != '\n'))
  | _ => some s

/-- The text after blanks, newlines and comments.  Every comment takes at least one character. -/
def skipCommentedLines : (fuel : Nat) → List Char → Option (List Char)
  | 0, s => some s
  | fuel + 1, s =>
    match skipLines s with
    | '#' :: rest => (skipComment ('#' :: rest)).bind (skipCommentedLines fuel)
    | r => some r

/-! ## Values -/

mutual

/-- A value of any kind.  Every value and every element takes at least one character, so the length
of the text is enough fuel. -/
def value : (fuel : Nat) → List Char → Reading (Value × List Char)
  | 0, _ => .error .malformed
  | fuel + 1, s =>
    match s with
    | '"' :: _ | '\x27' :: _ =>
      wellFormed ((readString? s).map fun (text, r) => (.str text, r))
    | 't' :: 'r' :: 'u' :: 'e' :: rest => .ok (.bool true, rest)
    | 'f' :: 'a' :: 'l' :: 's' :: 'e' :: rest => .ok (.bool false, rest)
    | '[' :: rest =>
      match skipCommentedLines rest.length rest with
      | some (']' :: r) => .ok (.list [], r)
      | some r => (items fuel r).map fun (vs, r') => (.list vs, r')
      | none => .error .malformed
    | '\x7b' :: rest =>
      match skipSpaces rest with
      | '\x7d' :: r => .ok (.object [], r)
      | r => (inlineTable fuel r ⟨[], []⟩).map fun (fields, r') => (.object fields, r')
    | _ =>
      match moment? s with
      | some m => wellFormed m
      | none => number s

/-- The items of a list up to its closing bracket, with a comma allowed after the last. -/
def items : (fuel : Nat) → List Char → Reading (List Value × List Char)
  | 0, _ => .error .malformed
  | fuel + 1, s =>
    match value fuel s with
    | .error trouble => .error trouble
    | .ok (v, rest) =>
      match skipCommentedLines rest.length rest with
      | some (']' :: r) => .ok ([v], r)
      | some (',' :: r) =>
        match skipCommentedLines r.length r with
        | some (']' :: r') => .ok ([v], r')
        | some r' => (items fuel r').map fun (vs, r'') => (v :: vs, r'')
        | none => .error .malformed
      | _ => .error .malformed

/-- The keys and values of an inline table up to its closing bracket. -/
def inlineTable : (fuel : Nat) → List Char → InlineDraft → Reading (Fields × List Char)
  | 0, _, _ => .error .malformed
  | fuel + 1, s, draft =>
    match key s with
    | some (path, '=' :: rest) =>
      match value fuel (skipSpaces rest) with
      | .error trouble => .error trouble
      | .ok (v, rest) =>
        match draft.assign path v with
        | none => .error .malformed
        | some draft =>
          match skipSpaces rest with
          | '\x7d' :: r => .ok (draft.table, r)
          | ',' :: r => inlineTable fuel (skipSpaces r) draft
          | _ => .error .malformed
    | _ => .error .malformed

end

/-! ## Lines -/

/-- A key, an equals sign and a value. -/
def assignment (s : List Char) : Reading ((List String × Value) × List Char) :=
  match key s with
  | some (path, '=' :: rest) =>
    (value (rest.length + 1) (skipSpaces rest)).map fun (v, r) => ((path, v), r)
  | _ => .error .malformed

/-- The heading of a list of tables, after its two opening brackets. -/
def listedHeading (s : List Char) : Option (List String × List Char) :=
  match key (skipSpaces s) with
  | some (path, ']' :: ']' :: rest) => some (path, rest)
  | _ => none

/-- The heading of a table, after its opening bracket. -/
def heading (s : List Char) : Option (List String × List Char) :=
  match key (skipSpaces s) with
  | some (path, ']' :: rest) => some (path, rest)
  | _ => none

/-- What a line says, carried over to the draft, and the text after it. -/
def statement (s : List Char) (draft : Draft) : Reading (Draft × List Char) := do
  match s with
  | '[' :: '[' :: rest =>
    let (path, r) ← wellFormed (listedHeading rest)
    return (← wellFormed (draft.beginListed path), r)
  | '[' :: rest =>
    let (path, r) ← wellFormed (heading rest)
    return (← wellFormed (draft.beginTable path), r)
  | '#' :: _ => return (draft, s)
  | _ =>
    let ((path, v), r) ← assignment s
    return (← wellFormed (draft.assign path v), r)

/-- The lines of a document, each of which takes at least one character. -/
def lines : (fuel : Nat) → List Char → Draft → Reading Draft
  | 0, _, _ => .error .malformed
  | fuel + 1, s, draft =>
    match skipSpaces s with
    | [] => .ok draft
    | '\n' :: rest => lines fuel rest draft
    | s' =>
      match statement s' draft with
      | .error trouble => .error trouble
      | .ok (draft, rest) =>
        match skipComment (skipSpaces rest) with
        | some [] => .ok draft
        | some ('\n' :: r) => lines fuel r draft
        | _ => .error .malformed

/-- The text with every pair of carriage return and newline as one newline. -/
def plainNewlines : List Char → List Char
  | '\x0d' :: '\n' :: rest => '\n' :: plainNewlines rest
  | c :: rest => c :: plainNewlines rest
  | [] => []

/-- The table that a document denotes. -/
def read (text : String) : Reading Fields :=
  let s := plainNewlines text.toList
  (lines (s.length + 1) s .empty).map Draft.root

end DateCalc.Toml
