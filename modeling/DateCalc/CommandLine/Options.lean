/-
  Options and words.

  The arguments of a command line are options and words.  A long option has two hyphens, and its
  value follows an equals sign or is the next argument, whatever that is.  Short options share one
  hyphen, and the first of them that takes a value takes the rest of its argument or else the next
  one.  Two hyphens alone end the options; a single hyphen is a word.

  In one manner of reading the options come first, and all of them must be known.  In the other they
  may stand anywhere, and an option that is not known is a word.
-/
import DateCalc.Text.Quoted
import DateCalc.Text.Similar

namespace DateCalc.CommandLine

/-! ## Forms -/

/-- An option: what it is to the program, how it is written, the name of its value if it takes one,
and what is said about it in the help. -/
structure OptionForm (κ : Type) where
  key : κ
  long : String
  short : Option Char
  value : Option String
  help : String

/-- An option in a command line, with its value. -/
structure Given (κ : Type) where
  key : κ
  value : Option String
  deriving DecidableEq

/-- How options and words are told apart. -/
inductive Manner where
  /-- The first word ends the options, and every option must be known. -/
  | optionsFirst
  /-- Options stand anywhere, and one that is not known is a word. -/
  | mixed
  deriving DecidableEq

/-! ## Errors -/

/-- What is wrong with a command line. -/
inductive UsageError where
  | noSuchOption (name : String) (similar : List String)
  | takesNoValue (name : String)
  | needsValue (name : String)
  | noSuchCommand (name : String) (similar : List String)
  | missingArgument (name : String)
  deriving DecidableEq

/-- A question after the names that may have been meant, in the order of the alphabet. -/
def suggestion (similar : List String) : String :=
  match (similar.mergeSort fun a b => decide (a ≤ b)).map Text.quoted with
  | [] => ""
  | [name] => " Did you mean " ++ name ++ "?"
  | names => " (Did you mean one of: " ++ ", ".intercalate names ++ "?)"

/-- The wording of an error. -/
def UsageError.message : UsageError → String
  | noSuchOption name similar =>
    "No such option " ++ Text.quoted name ++ "." ++ suggestion similar
  | takesNoValue name => "Option " ++ Text.quoted name ++ " does not take a value."
  | needsValue name => "Option " ++ Text.quoted name ++ " requires an argument."
  | noSuchCommand name similar =>
    "No such command " ++ Text.quoted name ++ "." ++ suggestion similar
  | missingArgument name => "Missing argument '" ++ name ++ "'."

/-- The usage is shown with the error; a wrong value of an option needs no such reminder. -/
def UsageError.showsUsage : UsageError → Bool
  | takesNoValue _ | needsValue _ => false
  | _ => true

/-! ## One argument -/

/-- What one argument is: the end of the options, a word, options that are complete, or options of
which the last is still without its value. -/
inductive Argument (κ : Type) where
  | ending
  | word
  | options (given : List (Given κ))
  | awaiting (given : List (Given κ)) (name : String) (key : κ)

/-- A name up to its first equals sign, and what follows that sign. -/
def splitEquals (s : List Char) : List Char × Option (List Char) :=
  match s.dropWhile (· != '=') with
  | _ :: value => (s.takeWhile (· != '='), some value)
  | [] => (s, none)

/-- An argument with two hyphens. -/
def readLong {κ : Type} (forms : List (OptionForm κ)) (arg : List Char) :
    Except UsageError (Argument κ) :=
  let (nameChars, value) := splitEquals arg
  let name := String.ofList nameChars
  match forms.find? (·.long == name) with
  | none => .error (.noSuchOption name (Text.similarWords name (forms.map (·.long))))
  | some form =>
    match form.value, value with
    | some _, some v => .ok (.options [⟨form.key, some (String.ofList v)⟩])
    | some _, none => .ok (.awaiting [] name form.key)
    | none, some _ => .error (.takesNoValue name)
    | none, none => .ok (.options [⟨form.key, none⟩])

/-- The letters after a single hyphen. -/
def readShort {κ : Type} (forms : List (OptionForm κ)) : List Char → Except UsageError (Argument κ)
  | [] => .ok (.options [])
  | c :: rest =>
    let name := String.ofList ['-', c]
    match forms.find? (·.short == some c) with
    | none => .error (.noSuchOption name [])
    | some form =>
      if form.value.isSome then
        if rest.isEmpty then .ok (.awaiting [] name form.key)
        else .ok (.options [⟨form.key, some (String.ofList rest)⟩])
      else
        match readShort forms rest with
        | .ok (.options given) => .ok (.options (⟨form.key, none⟩ :: given))
        | .ok (.awaiting given last key) => .ok (.awaiting (⟨form.key, none⟩ :: given) last key)
        | other => other

/-- One argument, before an option that is not known is held against it. -/
def readKnown {κ : Type} (forms : List (OptionForm κ)) (arg : String) :
    Except UsageError (Argument κ) :=
  match arg.toList with
  | ['-', '-'] => .ok .ending
  | '-' :: '-' :: _ => readLong forms arg.toList
  | '-' :: c :: letters => readShort forms (c :: letters)
  | _ => .ok .word

/-- One argument. -/
def readArgument {κ : Type} (manner : Manner) (forms : List (OptionForm κ)) (arg : String) :
    Except UsageError (Argument κ) :=
  match manner, readKnown forms arg with
  | .mixed, .error (.noSuchOption _ _) => .ok .word
  | _, read => read

/-! ## All arguments -/

/-- The options of a command line in the order in which they are given, and its words. -/
structure Parts (κ : Type) where
  options : List (Given κ)
  words : List String
  deriving DecidableEq

namespace Parts

/-- Options before the others. -/
def withOptions {κ : Type} (given : List (Given κ)) (p : Parts κ) : Parts κ :=
  ⟨given ++ p.options, p.words⟩

/-- A word before the others. -/
def withWord {κ : Type} (word : String) (p : Parts κ) : Parts κ := ⟨p.options, word :: p.words⟩

/-- The arguments as options and words, or the first thing that is wrong with them. -/
def ofArguments {κ : Type} (manner : Manner) (forms : List (OptionForm κ)) :
    List String → Except UsageError (Parts κ)
  | [] => .ok ⟨[], []⟩
  | arg :: rest =>
    match readArgument manner forms arg with
    | .error e => .error e
    | .ok .ending => .ok ⟨[], rest⟩
    | .ok .word =>
      match manner with
      | .optionsFirst => .ok ⟨[], arg :: rest⟩
      | .mixed => (ofArguments manner forms rest).map (withWord arg)
    | .ok (.options given) => (ofArguments manner forms rest).map (withOptions given)
    | .ok (.awaiting given name key) =>
      match rest with
      | [] => .error (.needsValue name)
      | value :: more =>
        (ofArguments manner forms more).map (withOptions (given ++ [⟨key, some value⟩]))

/-- An option is given. -/
def gives {κ : Type} [BEq κ] (p : Parts κ) (key : κ) : Bool := p.options.any (·.key == key)

/-- The value of an option; the last one counts. -/
def value? {κ : Type} [BEq κ] (p : Parts κ) (key : κ) : Option String :=
  (p.options.reverse.find? (·.key == key)).bind Given.value

end Parts

example : splitEquals "--today=a=b".toList = ("--today".toList, some "a=b".toList) := by decide
example : splitEquals "--today".toList = ("--today".toList, none) := by decide

end DateCalc.CommandLine
