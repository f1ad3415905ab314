/-
  The grammar of anchors: a keyword, or else a literal date.
-/
import DateCalc.Grammar.Date
import DateCalc.Anchor

namespace DateCalc.Grammar

open Rule Token

/-- The keywords; "now" is another word for today. -/
def anchorWords : List (String × Anchor) :=
  [("today", .today), ("now", .today), ("yesterday", .yesterday), ("tomorrow", .tomorrow)]

/-- A keyword, or a literal date. -/
def anchor (reference : Date) : Rule Anchor :=
  (oneOf anchorWords .date).orElse do
    let date ← literal reference
    return .literal date

end DateCalc.Grammar
