/-
  The order-free grammar of expressions.

  Here stands which texts mean which expressions, and nothing else: no alternative comes before
  another, nothing is consumed greedily, no rule looks at what follows it.  `_` stands for blanks
  that may be there, `__` for blanks that must be there:

    quantity    ::=  1 to 4300 digits  |  one | two | … | twelve
    period      ::=  quantity __ (day | week | month | year) s?
    shift       ::=  _ (+ | -) _ period
    sentence    ::=  period
                  |  period __ and __ period
                  |  period , (__ period ,)+ __ and __ period
    date        ::=  YYYY-M-D  |  Month __ D , _ YYYY  |  Month __ D  |  M/D/YYYY
    anchor      ::=  today | now | yesterday | tomorrow  |  _ date
    expression  ::=  anchor shift+  |  anchor _ - _ anchor
                  |  sentence " ago"  |  sentence (" from " | " after " | " before ") anchor
                  |  anchor  |  period shift*

  A date names a day of the calendar, and a date without a year is one of the reference year.
-/
import DateCalc.Grammar.Expression
import DateCalc.Proofs.Grammar.Tokens

namespace DateCalc.Grammar

/-! ## Periods and shifts -/

/-- A count, in digits or as a word. -/
inductive QuantityText : Spelling Nat where
  | figures {ds : List Char} :
      Numeral 1 Text.longestNumber ds → QuantityText ds (Text.decimalValue ds)
  | word {word : String} {n : Nat} : (word, n) ∈ quantityWords → QuantityText word.toList n

/-- A unit, with or without an s. -/
inductive UnitText : Spelling CalendarUnit where
  | singular (u : CalendarUnit) : UnitText u.name.toList u
  | plural (u : CalendarUnit) : UnitText (u.name.toList ++ ['s']) u

/-- A count and a unit with a gap between them. -/
inductive PeriodText : Spelling Period where
  | mk {q w v : List Char} {count : Nat} {unit : CalendarUnit} :
      QuantityText q count → Gap w → UnitText v unit → PeriodText (q ++ w ++ v) ⟨unit, count⟩

/-- A sign and a period, with blanks allowed before either. -/
inductive ShiftText : Spelling Shift where
  | mk {w w' p : List Char} {period : Period} (sign : Sign) :
      Text.allBlank w = true → Text.allBlank w' = true → PeriodText p period →
      ShiftText (w ++ [sign.symbol] ++ w' ++ p) ⟨sign, period⟩

/-! ## Sentences -/

/-- A further period of a list: a gap, the period and a comma. -/
inductive ListedText : Spelling Period where
  | mk {w p : List Char} {period : Period} :
      Gap w → PeriodText p period → ListedText (w ++ p ++ [',']) period

/-- The word "and" between gaps. -/
inductive AndText : List Char → Prop where
  | mk {w w' : List Char} : Gap w → Gap w' → AndText (w ++ "and".toList ++ w')

/-- The periods of a sentence, in the order in which they are written. -/
inductive SentenceText : Spelling Sentence where
  | single {p : List Char} {a : Period} : PeriodText p a → SentenceText p ⟨a, []⟩
  | pair {p w q : List Char} {a b : Period} :
      PeriodText p a → AndText w → PeriodText q b → SentenceText (p ++ w ++ q) ⟨a, [b]⟩
  | list {p ps w q : List Char} {a b : Period} {as : List Period} :
      PeriodText p a → Each ListedText ps as → as ≠ [] → AndText w → PeriodText q b →
      SentenceText (p ++ [','] ++ ps ++ w ++ q) ⟨a, as ++ [b]⟩

/-! ## Dates and anchors -/

/-- The name of a month, or its abbreviation, in any letter case. -/
def IsMonthName (name : List Char) (month : Nat) : Prop :=
  ∃ word, (word, month) ∈ monthNames ∧ name.map Char.toLower = word.toList

/-- Four digits. -/
abbrev IsYear (ds : List Char) : Prop := Numeral 4 4 ds

/-- One or two digits. -/
abbrev IsPart (ds : List Char) : Prop := Numeral 1 2 ds

/-- Year, month and day with hyphens between them. -/
inductive IsoText : Spelling DateFields where
  | mk {y m d : List Char} :
      IsYear y → IsPart m → IsPart d →
      IsoText (y ++ ['-'] ++ m ++ ['-'] ++ d)
        ⟨Text.decimalValue y, Text.decimalValue m, Text.decimalValue d⟩

/-- The other forms of a date; the year is that of a date without one. -/
inductive WholeText (year : Nat) : Spelling DateFields where
  | named {name w d w' y : List Char} {month : Nat} :
      IsMonthName name month → Gap w → IsPart d → Text.allBlank w' = true → IsYear y →
      WholeText year (name ++ w ++ d ++ [','] ++ w' ++ y)
        ⟨Text.decimalValue y, month, Text.decimalValue d⟩
  | yearless {name w d : List Char} {month : Nat} :
      IsMonthName name month → Gap w → IsPart d →
      WholeText year (name ++ w ++ d) ⟨year, month, Text.decimalValue d⟩
  | slashed {m d y : List Char} :
      IsPart m → IsPart d → IsYear y →
      WholeText year (m ++ ['/'] ++ d ++ ['/'] ++ y)
        ⟨Text.decimalValue y, Text.decimalValue m, Text.decimalValue d⟩

/-- A literal date, without blanks around it: one of the forms, naming a day. -/
inductive DateText (reference : Date) : Spelling Date where
  | iso {p : List Char} {f : DateFields} {date : Date} :
      IsoText p f → f.date? = some date → DateText reference p date
  | whole {p : List Char} {f : DateFields} {date : Date} :
      WholeText reference.year p f → f.date? = some date → DateText reference p date

/-- An anchor: a keyword, or a date after blanks. -/
inductive AnchorText (reference : Date) : Spelling Anchor where
  | today : AnchorText reference "today".toList .today
  | now : AnchorText reference "now".toList .today
  | yesterday : AnchorText reference "yesterday".toList .yesterday
  | tomorrow : AnchorText reference "tomorrow".toList .tomorrow
  | literal {w p : List Char} {date : Date} :
      Text.allBlank w = true → DateText reference p date →
      AnchorText reference (w ++ p) (.literal date)

/-! ## Expressions -/

/-- The shifts that a sentence stands for, from an anchor in one direction. -/
def Sentence.shiftedFrom (list : Sentence) (direction : Sign) (start : Anchor) : Expression :=
  .shifted start ⟨direction, list.first⟩ (list.more.map fun p => ⟨direction, p⟩)

/-- **The grammar**: which texts mean which expressions. -/
inductive ExpressionText (reference : Date) : Spelling Expression where
  | shifted {p q qs : List Char} {a : Anchor} {first : Shift} {more : List Shift} :
      AnchorText reference p a → ShiftText q first → Each ShiftText qs more →
      ExpressionText reference (p ++ q ++ qs) (.shifted a first more)
  | difference {p w w' q : List Char} {a b : Anchor} :
      AnchorText reference p a → Text.allBlank w = true → Text.allBlank w' = true →
      AnchorText reference q b →
      ExpressionText reference (p ++ w ++ ['-'] ++ w' ++ q) (.difference a b)
  | ago {p : List Char} {list : Sentence} :
      SentenceText p list →
      ExpressionText reference (p ++ " ago".toList) (list.shiftedFrom .minus .today)
  | fromAnchor {p q : List Char} {list : Sentence} {a : Anchor} :
      SentenceText p list → AnchorText reference q a →
      ExpressionText reference (p ++ " from ".toList ++ q) (list.shiftedFrom .plus a)
  | afterAnchor {p q : List Char} {list : Sentence} {a : Anchor} :
      SentenceText p list → AnchorText reference q a →
      ExpressionText reference (p ++ " after ".toList ++ q) (list.shiftedFrom .plus a)
  | beforeAnchor {p q : List Char} {list : Sentence} {a : Anchor} :
      SentenceText p list → AnchorText reference q a →
      ExpressionText reference (p ++ " before ".toList ++ q) (list.shiftedFrom .minus a)
  | anchor {p : List Char} {a : Anchor} :
      AnchorText reference p a → ExpressionText reference p (.anchor a)
  | chain {p qs : List Char} {base : Period} {shifts : List Shift} :
      PeriodText p base → Each ShiftText qs shifts →
      ExpressionText reference (p ++ qs) (.chain base shifts)

end DateCalc.Grammar
