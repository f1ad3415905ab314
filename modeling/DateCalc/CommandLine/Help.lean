/-
  Help.

  A page of help says how a command is called, what it does, which options it has and, for a program
  with commands, what these are.  Options and commands stand in two columns: the second begins two
  places after the longest entry of the first.
-/
import DateCalc.CommandLine.Options

namespace DateCalc.CommandLine

/-! ## Columns -/

/-- A text with blanks after it, up to a width. -/
def padRight (width : Nat) (s : String) : String :=
  s ++ String.ofList (List.replicate (width - s.length) ' ')

/-- Entries with their explanations in two columns. -/
def columns (rows : List (String × String)) : List String :=
  let width := (rows.map fun row => row.1.length).foldl max 0
  rows.map fun (entry, text) => "  " ++ padRight (width + 2) entry ++ text

example : columns [("a", "one"), ("bcd", "two")] = ["  a    one", "  bcd  two"] := by decide

/-! ## Pages -/

/-- How an option is written in its entry. -/
def OptionForm.entry {κ : Type} (form : OptionForm κ) : String :=
  let short := match form.short with
    | some c => String.ofList ['-', c] ++ ", "
    | none => ""
  let value := match form.value with
    | some name => " " ++ name
    | none => ""
  short ++ form.long ++ value

/-- What a page of help says. -/
structure Page where
  /-- The name by which the command is called, and what follows it. -/
  call : String
  arguments : String
  paragraphs : List String
  options : List (String × String)
  commands : List (String × String)

namespace Page

/-- The line on how a command is called. -/
def usage (p : Page) : String := "Usage: " ++ p.call ++ " " ++ p.arguments

/-- The entries of options. -/
def optionRows {κ : Type} (forms : List (OptionForm κ)) : List (String × String) :=
  forms.map fun form => (form.entry, form.help)

/-- A headed part of a page, which is left out where it has no entries. -/
def headed (heading : String) (rows : List (String × String)) : List String :=
  if rows.isEmpty then [] else "" :: heading :: columns rows

/-- The lines of a page. -/
def lines (p : Page) : List String :=
  p.usage :: (p.paragraphs.flatMap fun paragraph => ["", "  " ++ paragraph]) ++
    headed "Options:" p.options ++ headed "Commands:" p.commands

/-- A page. -/
def text (p : Page) : String := "\n".intercalate p.lines

/-- What is said about an error, after a reminder of the usage where that may help. -/
def errorText (p : Page) (e : UsageError) : String :=
  let message := "Error: " ++ e.message
  if e.showsUsage then
    p.usage ++ "\nTry '" ++ p.call ++ " --help' for help.\n\n" ++ message
  else message

end Page

end DateCalc.CommandLine
