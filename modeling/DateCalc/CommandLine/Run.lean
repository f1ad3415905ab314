/-
  Running a command line.

  A run prints to the output and to the error stream and ends with a code.  A value goes to the
  output and its warnings to the error stream, so that the output holds nothing but values; a
  refusal goes to the error stream.  Usage errors end with the code 2 and everything else that goes
  wrong with the code 1.

  Options that only ask for information are answered first, in the order in which they are given,
  and need no settings; but every option must be written correctly before any of them is answered.
-/
import DateCalc.CommandLine.Command
import DateCalc.CommandLine.Log
import DateCalc.Config.Settings
import DateCalc.Report.Render
import DateCalc.Text.Styling

namespace DateCalc.CommandLine

/-! ## What a run leaves behind -/

/-- Something that ends a run without a word. -/
inductive Crash where
  | badVariable (cause : Config.BadVariable)
  | invalid (complaints : List Complaint)
  | longNumber (digits : Nat)
  | unshown (fault : RenderFault)
  deriving DecidableEq

/-- The sort of what ended a run. -/
def Crash.sort : Crash → String
  | badVariable _ => "SettingsError"
  | invalid _ => "ValidationError"
  | longNumber _ => "ValueError"
  | unshown fault => fault.sort

/-- How a run ends. -/
inductive Ending where
  | exit (code : Nat)
  | crash (cause : Crash)
  deriving DecidableEq

/-- The code with which a run ends. -/
def Ending.code : Ending → Nat
  | exit code => code
  | crash _ => 1

/-- What a run prints, and how it ends. -/
structure Output where
  out : String
  err : String
  ending : Ending
  deriving DecidableEq

namespace Output

/-- A text as it is printed: without styling, and with a newline after it. -/
def echo (s : String) : String := String.ofList (Text.stripStyling (s.toList ++ ['\n']))

/-- A text is printed, and all is well. -/
def printed (s : String) : Output := ⟨echo s, "", .exit 0⟩

/-- A text is printed to the error stream, and the run ends with a code. -/
def failed (code : Nat) (s : String) : Output := ⟨"", echo s, .exit code⟩

/-- Nothing is printed. -/
def crashed (cause : Crash) : Output := ⟨"", "", .crash cause⟩

/-- Lines go before everything else on the error stream. -/
def logging (lines : List String) (o : Output) : Output :=
  { o with err := String.join (lines.map (· ++ "\n")) ++ o.err }

/-- A usage error of a command. -/
def misused (page : Page) (e : UsageError) : Output := failed 2 (page.errorText e)

/-- A report in a view.  JSON holds the warnings already. -/
def ofReport (view : View) (r : Report) : Output :=
  match r.render view with
  | .error fault => crashed (.unshown fault)
  | .ok text =>
    if r.ok then
      let warnings := if view.json then [] else r.warnings
      ⟨echo text, String.join (warnings.map fun w => echo ("WARNING: " ++ w)), .exit 0⟩
    else failed 1 text

end Output

/-! ## What a run depends on -/

/-- What a run finds around it: files and variables, the day, the time as it stands in the log, and
how trouble with a configuration file is worded. -/
structure Surroundings where
  environment : Config.Environment
  clock : Date
  stamp : String
  detail : Config.FileTrouble → String

/-- The layer of settings that the options of the program make up. -/
def flags (parts : Parts ProgramOption) : Fields :=
  let switch (name : String) (option : ProgramOption) : Fields :=
    if parts.gives option then [(name, .bool true)] else []
  switch "json_output" .json ++ switch "quiet" .quiet ++ switch "verbose" .verbose ++
    switch "log_json" .logJson ++
    ((parts.value? .today).map fun text => ("today", Value.str text)).toList ++
    if parts.gives .strict then [("parse", .object [("strict", .bool true)])] else []

namespace Surroundings

/-- What is printed where there are no settings. -/
def loadFailure (s : Surroundings) : Config.LoadError → Output
  | .badFile _ (.unread (.longNumber digits)) => .crashed (.longNumber digits)
  | .badFile path trouble =>
    .failed 1 ("Error: Invalid config in " ++ path.text ++ ": " ++ s.detail trouble)
  | .badVariable cause => .crashed (.badVariable cause)
  | .invalid complaints => .crashed (.invalid complaints)

/-- What is done under the settings for the options of the program. -/
def withSettings (s : Surroundings) (parts : Parts ProgramOption)
    (act : Config.Settings → Output) : Output :=
  let here := Config.Path.ofText "."
  match Config.Settings.load s.environment (parts.value? .config) here (flags parts) with
  | .error e => s.loadFailure e
  | .ok settings => act settings

/-- The conditions of a calculation under settings. -/
def conditions (s : Surroundings) (settings : Config.Settings) : Conditions :=
  ⟨settings.today, s.clock, settings.strict⟩

end Surroundings

/-- The view that settings ask for. -/
def viewOf (settings : Config.Settings) : View :=
  ⟨settings.json, settings.quiet, settings.verbose, settings.showExpression⟩

/-! ## Commands -/

namespace Command

/-- The report on a text. -/
def report (c : Command) (under : Conditions) (text : List Char) : Report :=
  match c with
  | calculate => under.calculateReport text
  | clockTime => under.clockTimeReport text

/-- The notes on a text. -/
def notes (c : Command) (under : Conditions) (text : List Char) : List Note :=
  match c with
  | calculate => under.calculateNotes text
  | clockTime => under.clockTimeNotes text

/-- What is printed for a text. -/
def answer (c : Command) (s : Surroundings) (settings : Config.Settings) (text : List Char) :
    Output :=
  let under := s.conditions settings
  let log := if settings.verbose then c.notes under text else []
  (Output.ofReport (viewOf settings) (c.report under text)).logging
    (log.map (·.line settings.logJson s.stamp))

/-- A command with its arguments. -/
def run (c : Command) (s : Surroundings) (settings : Config.Settings) (args : List String) :
    Output :=
  match Parts.ofArguments .mixed CommandOption.forms args with
  | .error e => .misused c.page e
  | .ok parts =>
    match parts.options, parts.words with
    | ⟨.examples, _⟩ :: _, _ => .printed c.examplesText
    | ⟨.help, _⟩ :: _, _ => .printed c.page.text
    | [], [] => .misused c.page (.missingArgument c.argument)
    | [], words => c.answer s settings (" ".intercalate words).toList

end Command

/-! ## The program -/

/-- The option asks only for information, and what that is. -/
def ProgramOption.information? : ProgramOption → Option String
  | version => some (programName ++ ", version " ++ programVersion)
  | help => some programPage.text
  | _ => none

/-- The options of the program and what follows them, or what is printed because of the options
alone. -/
def readProgram (args : List String) : Except Output (Parts ProgramOption) :=
  match Parts.ofArguments .optionsFirst ProgramOption.forms args with
  | .error e => .error (.misused programPage e)
  | .ok parts =>
    match parts.options.findSome? (·.key.information?) with
    | some text => .error (.printed text)
    | none => .ok parts

/-- What is said about a name that is no command.  It may be an option set off by two hyphens, and
then it is answered like one. -/
def unknownCommand (name : String) (args : List String) : Output :=
  match readProgram (name :: args) with
  | .error output => output
  | .ok _ =>
    .misused programPage
      (.noSuchCommand name (Text.similarWords name (Command.all.map Command.name)))

/-- What is printed for the arguments of the program. -/
def run (s : Surroundings) (args : List String) : Output :=
  match readProgram args with
  | .error output => output
  | .ok parts =>
    match parts.words with
    | [] => s.withSettings parts fun _ => .printed programPage.text
    | name :: words =>
      match Command.ofName? name with
      | some c => s.withSettings parts fun settings => c.run s settings words
      | none => unknownCommand name words

end DateCalc.CommandLine
