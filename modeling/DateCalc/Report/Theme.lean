/-
  The theme of a console.

  Parts of a report have named styles, and a theme says how each of them looks.  The style of a
  result depends on the kind of its outcome.
-/

namespace DateCalc.Theme

/-- How each named style looks. -/
def styles : List (String × String) :=
  [("dm.ok", "bold green"), ("dm.error", "bold red"), ("dm.warning", "bold yellow"),
   ("dm.op", "bold cyan"), ("dm.key", "dim"), ("dm.value", "bold"),
   ("dm.outcome.date", "bold green"), ("dm.outcome.difference", "bold magenta"),
   ("dm.outcome.time", "bold blue")]

/-- The style of each kind of outcome. -/
def outcomeStyles : List (String × String) :=
  [("date", "dm.outcome.date"), ("difference", "dm.outcome.difference"),
   ("time", "dm.outcome.time")]

/-- The style of a result, by the kind of its outcome. -/
def styleOf (kind : String) : String := (outcomeStyles.lookup kind).getD "dm.value"

/-- How a style looks, which is plain if the theme does not name it. -/
def look (style : String) : String := (styles.lookup style).getD ""

/-- Every style of an outcome is one of the theme. -/
example : outcomeStyles.all (fun (_, style) => (styles.lookup style).isSome) = true := by decide

end DateCalc.Theme
