/-
  Reports as text.

  A report is shown in one of three ways: as JSON, as the bare result, or as lines for a person.
  The first line for a person is always the bare result, so that it can be cut off; the parsed
  expression and the particulars of an error follow it on request.

  The parts of an expression are looked up in the document of the report.  A document from
  elsewhere may lack one of them, or may have a value of another kind in its place, and the first
  such fault is reported.
-/
import DateCalc.Report.Basic
import DateCalc.Text.Wrap
import DateCalc.Value.Json
import DateCalc.Value.Shown

namespace DateCalc

/-- How a report is shown. -/
structure View where
  json : Bool
  quiet : Bool
  verbose : Bool
  showExpression : Bool
  deriving DecidableEq

/-! ## Faults -/

/-- Why a report cannot be shown to a person: a field is missing, or a value of some kind stands
where another is needed. -/
inductive RenderFault where
  | missingField (key : String)
  | nestedOutcomeKind (found : Value.Kind)
  | noExpression (found : Value.Kind)
  | noAnchor (found : Value.Kind)
  | noBase (found : Value.Kind)
  | noOperations (found : Value.Kind)
  | noOperation (found : Value.Kind)
  deriving DecidableEq

/-- The name of a kind of values, as faults have it. -/
def Value.Kind.name : Value.Kind → String
  | null => "NoneType"
  | bool => "bool"
  | int => "int"
  | float => "float"
  | str => "str"
  | moment => "date"
  | list => "list"
  | object => "dict"

namespace RenderFault

/-- The sort of a fault. -/
def sort : RenderFault → String
  | missingField _ => "KeyError"
  | noExpression _ | noAnchor _ => "AttributeError"
  | nestedOutcomeKind _ | noBase _ | noOperations _ | noOperation _ => "TypeError"

/-- What is said about a fault. -/
def message : RenderFault → String
  | missingField key => Text.quoted key
  | nestedOutcomeKind found => "unhashable type: " ++ Text.quoted found.name
  | noExpression found | noAnchor found =>
    Text.quoted found.name ++ " object has no attribute 'get'"
  | noBase found => Text.quoted found.name ++ " object is not a mapping"
  | noOperations found => Text.quoted found.name ++ " object is not iterable"
  | noOperation .str => "string indices must be integers, not 'str'"
  | noOperation .list => "list indices must be integers or slices, not str"
  | noOperation found => Text.quoted found.name ++ " object is not subscriptable"

end RenderFault

/-- Something that is shown, or the first fault in it. -/
abbrev Rendered (α : Type) : Type := Except RenderFault α

/-- The fields of an object, or a fault. -/
def Value.requireFields (v : Value) (fault : Value.Kind → RenderFault) : Rendered Fields :=
  match v with
  | .object fields => .ok fields
  | _ => .error (fault v.kind)

/-- A field that must be there. -/
def Fields.require (fields : Fields) (key : String) : Rendered Value :=
  match fields.get? key with
  | some v => .ok v
  | none => .error (.missingField key)

/-! ## Parts of an expression -/

/-- The number one, in any of the forms that equal it. -/
def Value.isOne : Value → Bool
  | int n => n == 1
  | bool b => b
  | float x => x == 1
  | _ => false

/-- Sign, count and unit of an operation, the unit in the plural unless the count is one. -/
def describeOperation (op : Fields) : Rendered String := do
  let count ← op.require "count"
  let unit ← op.require "unit"
  let sign ← op.require "sign"
  let plural := if count.isOne then "" else "s"
  return sign.shown ++ " " ++ count.shown ++ " " ++ unit.shown ++ plural

/-- The date of an anchor, or its kind. -/
def describeAnchor (anchor : Value) : Rendered String := do
  let fields ← anchor.requireFields .noAnchor
  let kind ← fields.require "kind"
  return ((fields.get? "date").getD kind).shown

/-- A base period as an operation, which adds unless it says otherwise. -/
def baseOperation (base : Fields) : Fields :=
  match base.get? "sign" with
  | some _ => base
  | none => ("sign", .str "+") :: base

/-- One line: a name and a text. -/
def fieldLine (name text : String) : String := "  " ++ name ++ ": " ++ text

/-- One line for each of some fields. -/
def fieldLines (fields : Fields) : List String :=
  fields.map fun (name, v) => fieldLine name v.shown

/-- The values that one goes through: the items of a list, the characters of a text, or the keys of
an object. -/
def Value.elements? : Value → Option (List Value)
  | list vs => some vs
  | str s => some (s.toList.map fun c => .str (String.singleton c))
  | object fields => some (fields.map fun (key, _) => .str key)
  | _ => none

/-- The line of the anchor, if the expression has one. -/
def anchorLines (expression : Fields) : Rendered (List String) :=
  match expression.get? "anchor" with
  | some a => do return [fieldLine "anchor" (← describeAnchor a)]
  | none => .ok []

/-- The line of the base period, if the expression has one. -/
def baseLines (expression : Fields) : Rendered (List String) :=
  match expression.get? "base" with
  | some b => do
    let base ← b.requireFields .noBase
    return [fieldLine "base" (← describeOperation (baseOperation base))]
  | none => .ok []

/-- One line for each operation. -/
def operationLines (expression : Fields) : Rendered (List String) :=
  match expression.get? "operations" with
  | some ops =>
    match ops.elements? with
    | some elements => elements.mapM fun op => do
      let fields ← op.requireFields .noOperation
      return fieldLine "then" (← describeOperation fields)
    | none => .error (.noOperations ops.kind)
  | none => .ok []

/-- One line for each part of an expression. -/
def expressionLines (expression : Fields) : Rendered (List String) := do
  let shape := (expression.get? "shape").getD (.str "?")
  let shapeLine := fieldLine "shape" shape.shown
  match shape with
  | .str "difference" =>
    let start ← describeAnchor (← expression.require "start")
    let finish ← describeAnchor (← expression.require "end")
    return [shapeLine, fieldLine "from" start, fieldLine "to" finish]
  | _ =>
    let anchor ← anchorLines expression
    let base ← baseLines expression
    let operations ← operationLines expression
    return shapeLine :: (anchor ++ base ++ operations)

/-! ## Lines for a person -/

namespace Report

/-- A field of the data as a text, which is empty where there is none. -/
def dataText (r : Report) (key : String) : String :=
  ((r.data.get? key).getD (.str "")).shown

/-- One line for each entry of the part about the report. -/
def aboutLines (r : Report) : List String := fieldLines (r.about.getD [])

/-- What is said where there is no error to speak of. -/
def errorMessage (r : Report) : String := (r.error.map Problem.message).getD "Unknown error"

/-- The lines of an error. -/
def errorLines (r : Report) (verbose : Bool) : List String :=
  let first := "ERROR   " ++ r.op ++ "  — " ++ " " ++ r.errorMessage
  let detail := (r.error.map Problem.detail).getD []
  if verbose && !detail.isEmpty then
    first :: "  detail:" :: detail.map fun (name, v) => "    " ++ name ++ ": " ++ v.shown
  else [first]

/-- The kind of outcome is named, if at all, by a value that is not made of others. -/
def checkOutcomeKind (r : Report) : Rendered Unit :=
  match r.data.get? "kind" with
  | some (.list vs) => .error (.nestedOutcomeKind (Value.list vs).kind)
  | some (.object fields) => .error (.nestedOutcomeKind (Value.object fields).kind)
  | _ => .ok ()

/-- The lines of the expression, if there is one. -/
def partLines (r : Report) : Rendered (List String) :=
  match r.data.get? "expression" with
  | some e =>
    if e.isEmpty then .ok [] else do expressionLines (← e.requireFields .noExpression)
  | none => .ok []

/-- The lines of a calculation. -/
def calculationLines (r : Report) (verbose showExpression : Bool) : Rendered (List String) := do
  r.checkOutcomeKind
  let parts ← if verbose || showExpression then r.partLines else pure []
  let input :=
    if verbose || showExpression then [fieldLine "input" (r.dataText "input")] else []
  let about := if verbose then r.aboutLines else []
  return r.dataText "result" :: (input ++ parts ++ about)

/-- The lines of a clock time. -/
def clockTimeLines (r : Report) (verbose : Bool) : List String :=
  r.dataText "result" :: if verbose then [fieldLine "input" (r.dataText "input")] else []

/-- The lines of any other operation. -/
def otherLines (r : Report) (verbose : Bool) : List String :=
  ("OK   " ++ r.op) :: (fieldLines r.data ++ if verbose then r.aboutLines else [])

/-- The lines of a report, each of which may still be longer than a console is wide. -/
def lines (r : Report) (verbose showExpression : Bool) : Rendered (List String) :=
  if r.ok then
    if r.op = "calculate" then r.calculationLines verbose showExpression
    else if r.op = "parse_time" then .ok (r.clockTimeLines verbose)
    else .ok (r.otherLines verbose)
  else .ok (r.errorLines verbose)

/-- The width of the console. -/
def consoleWidth : Nat := 120

/-- Lines as the console shows them, without the newlines at the very end. -/
def console (lines : List String) : String :=
  let shown := lines.flatMap fun line => Text.consoleText consoleWidth line.toList
  String.ofList (shown.reverse.dropWhile (· == '\n')).reverse

/-! ## The three ways -/

/-- The bare result, or one line for an error. -/
def quiet (r : Report) : String :=
  if r.ok then
    match r.data.get? "result" with
    | none | some .null => "OK: " ++ r.op
    | some v => v.shown
  else "ERROR: " ++ r.op ++ " — " ++ r.errorMessage

/-- A report in a view.  JSON wins over the bare result, and that over lines. -/
def render (r : Report) (view : View) : Rendered String :=
  if view.json then .ok r.value.json
  else if view.quiet then .ok r.quiet
  else do return console (← r.lines view.verbose view.showExpression)

end Report

end DateCalc
