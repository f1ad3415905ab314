/-
  The program and its commands.

  The program has options of its own, which stand before the command; a command reads the rest of
  the line.  An option that a command does not know is a word of it, so that a period may be taken
  away without quoting it.
-/
import DateCalc.CommandLine.Help

namespace DateCalc.CommandLine

/-! ## The program -/

/-- The name of the program. -/
def programName : String := "datemath"

/-- The version of the program. -/
def programVersion : String := "0.1.0"

/-- The options before the command. -/
inductive ProgramOption where
  | version
  | json
  | quiet
  | verbose
  | logJson
  | today
  | strict
  | config
  | help
  deriving DecidableEq

/-- How the options before the command are written. -/
def ProgramOption.forms : List (OptionForm ProgramOption) :=
  [⟨.version, "--version", none, none, "Show the version and exit."⟩,
   ⟨.json, "--json", none, none, "Structured JSON output."⟩,
   ⟨.quiet, "--quiet", some 'q', none, "Print only the result value."⟩,
   ⟨.verbose, "--verbose", some 'v', none, "Show the parsed expression and debug logs."⟩,
   ⟨.logJson, "--log-json", none, none, "Structured JSON log output to stderr."⟩,
   ⟨.today, "--today", none, some "TEXT", "Reference date to use instead of the local date."⟩,
   ⟨.strict, "--strict", none, none, "Reject input with unparsed trailing text."⟩,
   ⟨.config, "--config", some 'c', some "TEXT", "Override config file path."⟩,
   ⟨.help, "--help", none, none, "Show this message and exit."⟩]

/-! ## Commands -/

/-- What the program can be asked to do. -/
inductive Command where
  | calculate
  | clockTime
  deriving DecidableEq

/-- The options of a command. -/
inductive CommandOption where
  | examples
  | help
  deriving DecidableEq

/-- How the options of a command are written. -/
def CommandOption.forms : List (OptionForm CommandOption) :=
  [⟨.examples, "--examples", none, none, "Show usage examples."⟩,
   ⟨.help, "--help", none, none, "Show this message and exit."⟩]

namespace Command

/-- All commands in the order in which the help lists them. -/
def all : List Command := [calculate, clockTime]

/-- The name of a command. -/
def name : Command → String
  | calculate => "calc"
  | clockTime => "time"

/-- The command of a name. -/
def ofName? (name : String) : Option Command := all.find? (·.name == name)

/-- The name of a command after that of the program. -/
def call (c : Command) : String := programName ++ " " ++ c.name

/-- The name of the words of a command. -/
def argument : Command → String
  | calculate => "EXPRESSION..."
  | clockTime => "VALUE..."

/-- What a command does. -/
def summary : Command → String
  | calculate => "Evaluate a date EXPRESSION and print the date or day count."
  | clockTime => "Parse a clock time VALUE and print it as HH:MM:SS."

/-- What else is to be known about a command. -/
def remarks : Command → List String
  | calculate => ["Words are joined with single spaces, so quoting is optional."]
  | clockTime => []

/-- Examples of calling a command. -/
def examples : Command → List String
  | calculate =>
    ["datemath calc today",
     "datemath calc 2022-01-31 -1 day",
     "datemath calc \"Mar 31, 2021 + 15 weeks + 2 days\"",
     "datemath calc 2 weeks and 3 days before July 11, 2022",
     "datemath calc 3 days from now",
     "datemath calc \"2022-01-01 - 2022-01-08\"",
     "datemath --today 2022-01-31 calc 2 weeks and 1 day ago",
     "datemath --json calc tomorrow + 1 month"]
  | clockTime =>
    ["datemath time 3pm",
     "datemath time 1530",
     "datemath time 9:30",
     "datemath time 12:00:30 pm",
     "datemath --json time 7:05am"]

/-- The examples under their heading. -/
def examplesText (c : Command) : String :=
  "\n".intercalate (("Examples for '" ++ c.call ++ "':") :: "" :: c.examples.map ("  " ++ ·))

/-- The help on a command. -/
def page (c : Command) : Page where
  call := c.call
  arguments := "[OPTIONS] " ++ c.argument
  paragraphs := c.summary :: c.remarks
  options := Page.optionRows CommandOption.forms
  commands := []

end Command

/-- The help on the program. -/
def programPage : Page where
  call := programName
  arguments := "[OPTIONS] [COMMAND] [ARGS]..."
  paragraphs := [programName ++ " — evaluate natural-language date arithmetic."]
  options := Page.optionRows ProgramOption.forms
  commands := Command.all.map fun c => (c.name, c.summary)

end DateCalc.CommandLine
