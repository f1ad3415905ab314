/-
  Keys and single values of TOML.

  A key is bare or quoted.  A single value is a string in one of four notations, a number in one
  of four bases, a floating-point number, a truth value, or a date and time.  Every function reads
  from the front of a text and gives what is left, or nothing when the text is not well formed.

  A number in base ten that has more digits than a number may have is well formed, and yet it is
  not read.  Nothing after it is looked at.
-/
import DateCalc.Calendar.Date
import DateCalc.Value.Reader

namespace DateCalc.Toml

/-! ## Readings -/

/-- Why a text is not read. -/
inductive Trouble where
  | malformed
  | longNumber (digits : Nat)
  deriving DecidableEq

/-- What is read, or why nothing is. -/
abbrev Reading (α : Type) : Type := Except Trouble α

/-- What is read of a text that may only be wrong in its form. -/
def wellFormed {α : Type} : Option α → Reading α
  | some a => .ok a
  | none => .error .malformed

/-! ## Characters -/

/-- A space or a tab. -/
def isSpace (c : Char) : Bool := c == ' ' || c == '\t'

/-- A space, a tab or a newline. -/
def isSpaceOrLine (c : Char) : Bool := isSpace c || c == '\n'

/-- A control character other than the tab. -/
def isControl (c : Char) : Bool := (c.toNat < 0x20 || c.toNat == 0x7F) && c != '\t'

/-- A character of a bare key. -/
def isBareKey (c : Char) : Bool := c.isAlphanum || c == '-' || c == '_'

/-- A text without the spaces and tabs at its front. -/
def skipSpaces (s : List Char) : List Char := s.dropWhile isSpace

/-- A text without the spaces, tabs and newlines at its front. -/
def skipLines (s : List Char) : List Char := s.dropWhile isSpaceOrLine

/-! ## Strings -/

/-- The rest of a string in which nothing is escaped, after its opening mark. -/
def literalString (s : List Char) : Option (String × List Char) :=
  let body := s.takeWhile (· != '\x27')
  match s.dropWhile (· != '\x27') with
  | _ :: rest => if body.any isControl then none else some (String.ofList body, rest)
  | [] => none

/-- The character with a number, if there is one. -/
def scalar? (n : Nat) : Option Char :=
  if n < 0xD800 || (0xE000 ≤ n && n < 0x110000) then some (Char.ofNat n) else none

/-- The character that a letter stands for after a backslash. -/
def escape? : Char → Option Char
  | 'b' => some (Char.ofNat 8)
  | 't' => some '\t'
  | 'n' => some '\n'
  | 'f' => some (Char.ofNat 12)
  | 'r' => some '\r'
  | '"' => some '"'
  | '\\' => some '\\'
  | _ => none

/-- What follows a backslash at the end of a line: the text after the line break and the blanks that
follow it, or nothing when something else stands on the line. -/
def afterLineEnd? (s : List Char) : Option (List Char) :=
  match skipSpaces s with
  | [] => some []
  | '\n' :: rest => some (skipLines rest)
  | _ :: _ => none

theorem length_skipSpaces_le (s : List Char) : (skipSpaces s).length ≤ s.length :=
  (List.dropWhile_sublist _).length_le

theorem length_skipLines_le (s : List Char) : (skipLines s).length ≤ s.length :=
  (List.dropWhile_sublist _).length_le

/-- Behind the end of a line the text is no longer. -/
theorem length_le_of_afterLineEnd? {s rest : List Char} (h : afterLineEnd? s = some rest) :
    rest.length ≤ s.length := by
  have hs := length_skipSpaces_le s
  unfold afterLineEnd? at h
  split at h
  · cases h; simp
  · rename_i r heq
    cases h
    have hr := length_skipLines_le r
    rw [heq] at hs
    simp only [List.length_cons] at hs
    omega
  · cases h

/-- The rest of a string with escapes, after its opening marks; its characters are collected in
reverse.  It ends at one closing mark, or at three if it may span lines. -/
def basicString (multiline : Bool) (s : List Char) (collected : List Char) :
    Option (String × List Char) :=
  match s with
  | [] => none
  | '"' :: '"' :: '"' :: rest =>
    some (String.ofList collected.reverse, if multiline then rest else '"' :: '"' :: rest)
  | '"' :: rest =>
    if multiline then basicString multiline rest ('"' :: collected)
    else some (String.ofList collected.reverse, rest)
  | ['\\'] => none
  | '\\' :: c :: rest =>
    if multiline && isSpaceOrLine c then
      match _hend : afterLineEnd? (c :: rest) with
      | some r => basicString multiline r collected
      | none => none
    else if c = 'u' then
      match (Value.hexValue? (rest.take 4)).bind scalar? with
      | some e =>
        if rest.length < 4 then none else basicString multiline (rest.drop 4) (e :: collected)
      | none => none
    else if c = 'U' then
      match (Value.hexValue? (rest.take 8)).bind scalar? with
      | some e =>
        if rest.length < 8 then none else basicString multiline (rest.drop 8) (e :: collected)
      | none => none
    else
      match escape? c with
      | some e => basicString multiline rest (e :: collected)
      | none => none
  | c :: rest =>
    if isControl c && !(multiline && c == '\n') then none
    else basicString multiline rest (c :: collected)
termination_by s.length
decreasing_by
  all_goals simp only [List.length_cons, List.length_drop]
  all_goals try omega
  have hle := length_le_of_afterLineEnd? _hend
  simp only [List.length_cons] at hle
  omega

/-- The place of the first three marks in a text: what stands before them and after them. -/
def untilThree (mark : Char) : List Char → Option (List Char × List Char)
  | a :: b :: c :: rest =>
    if a = mark && b = mark && c = mark then some ([], rest)
    else (untilThree mark (b :: c :: rest)).map fun (body, r) => (a :: body, r)
  | _ => none

/-- Up to two further marks at the end of a string belong to it. -/
def withFinalMarks (mark : Char) : String × List Char → String × List Char
  | (text, c :: d :: rest) =>
    if c = mark && d = mark then (text.push mark |>.push mark, rest)
    else if c = mark then (text.push mark, d :: rest)
    else (text, c :: d :: rest)
  | (text, [c]) => if c = mark then (text.push mark, []) else (text, [c])
  | (text, []) => (text, [])

/-- A text without one newline at its front. -/
def skipOneLine : List Char → List Char
  | '\n' :: rest => rest
  | s => s

/-- A string that may span lines and in which nothing is escaped, after its opening marks. -/
def multilineLiteral (s : List Char) : Option (String × List Char) :=
  match untilThree '\x27' (skipOneLine s) with
  | some (body, rest) =>
    if body.any fun c => isControl c && c != '\n' then none
    else some (withFinalMarks '\x27' (String.ofList body, rest))
  | none => none

/-- A string that may span lines, with escapes, after its opening marks. -/
def multilineBasic (s : List Char) : Option (String × List Char) :=
  (basicString true (skipOneLine s) []).map (withFinalMarks '"')

/-- A string in any notation. -/
def readString? (s : List Char) : Option (String × List Char) :=
  match s with
  | '"' :: '"' :: '"' :: rest => multilineBasic rest
  | '"' :: rest => basicString false rest []
  | '\x27' :: '\x27' :: '\x27' :: rest => multilineLiteral rest
  | '\x27' :: rest => literalString rest
  | _ => none

/-! ## Keys -/

/-- One part of a key. -/
def keyPart (s : List Char) : Option (String × List Char) :=
  match s with
  | '"' :: rest => basicString false rest []
  | '\x27' :: rest => literalString rest
  | _ =>
    let part := s.takeWhile isBareKey
    if part.isEmpty then none else some (String.ofList part, s.dropWhile isBareKey)

/-- The parts of a key, with dots between them, and the text after the spaces that follow.  Every
part takes at least one character. -/
def keyParts : (fuel : Nat) → List Char → Option (List String × List Char)
  | 0, _ => none
  | fuel + 1, s =>
    match keyPart s with
    | none => none
    | some (part, rest) =>
      match skipSpaces rest with
      | '.' :: r => (keyParts fuel (skipSpaces r)).map fun (parts, r') => (part :: parts, r')
      | r => some ([part], r)

/-- A key, dotted or not. -/
def key (s : List Char) : Option (List String × List Char) := keyParts (s.length + 1) s

/-! ## Numbers -/

/-- Digits after the first, each with an underscore before it or not. -/
def moreDigits (isDig : Char → Bool) : List Char → List Char × List Char
  | '_' :: c :: rest =>
    if isDig c then
      let (ds, r) := moreDigits isDig rest
      (c :: ds, r)
    else ([], '_' :: c :: rest)
  | c :: rest =>
    if isDig c then
      let (ds, r) := moreDigits isDig rest
      (c :: ds, r)
    else ([], c :: rest)
  | [] => ([], [])

/-- One digit or more, with single underscores allowed between them. -/
def digitRun (isDig : Char → Bool) (s : List Char) : Option (List Char × List Char) :=
  match s with
  | c :: rest =>
    if isDig c then
      let (ds, r) := moreDigits isDig rest
      some (c :: ds, r)
    else none
  | [] => none

/-- The value of digits in a base up to sixteen. -/
def valueIn (base : Nat) (ds : List Char) : Nat :=
  ds.foldl (fun n c => base * n + (Value.hexDigit? c).getD 0) 0

/-- A number in base sixteen, eight or two. -/
def basedNumber (s : List Char) : Option (Value × List Char) :=
  let within (base : Nat) (c : Char) : Bool := (Value.hexDigit? c).any (· < base)
  let read (base : Nat) (rest : List Char) : Option (Value × List Char) :=
    (digitRun (within base) rest).map fun (ds, r) => (.nat (valueIn base ds), r)
  match s with
  | '0' :: 'x' :: rest => read 16 rest
  | '0' :: 'o' :: rest => read 8 rest
  | '0' :: 'b' :: rest => read 2 rest
  | _ => none

/-- The digits before the point: a zero alone, or digits that do not begin with one. -/
def wholePart (s : List Char) : Option (List Char × List Char) :=
  match s with
  | '0' :: rest => some (['0'], rest)
  | _ => digitRun Char.isDigit s

/-- The digits after a point, if there are any. -/
def fractionPart (s : List Char) : Option (List Char × List Char) :=
  match s with
  | '.' :: rest => digitRun Char.isDigit rest
  | _ => none

/-- The power of ten after an exponent mark, if there is one. -/
def exponentPart (s : List Char) : Option (Int × List Char) :=
  let read (negative : Bool) (rest : List Char) : Option (Int × List Char) :=
    (digitRun Char.isDigit rest).map fun (ds, r) =>
      let n : Int := Text.decimalValue ds
      (if negative then -n else n, r)
  let unsigned (rest : List Char) : Option (Int × List Char) :=
    match rest with
    | '-' :: r => read true r
    | '+' :: r => read false r
    | r => read false r
  match s with
  | 'e' :: rest => unsigned rest
  | 'E' :: rest => unsigned rest
  | _ => none

/-- A number in base ten after its sign.  The option says whether there is one. -/
def decimalNumber (negative : Bool) (s : List Char) : Option (Reading (Value × List Char)) :=
  (wholePart s).map fun (whole, afterWhole) =>
    let (fraction, afterFraction) := (fractionPart afterWhole).getD ([], afterWhole)
    let number (power : Int) : Value :=
      .float (Value.floatOfDigits negative (whole ++ fraction) (power - fraction.length))
    match exponentPart afterFraction with
    | some (power, rest) => .ok (number power, rest)
    | none =>
      if !fraction.isEmpty then .ok (number 0, afterFraction)
      else if Text.longestNumber < whole.length then .error (.longNumber whole.length)
      else
        let n : Int := Text.decimalValue whole
        .ok (.int (if negative then -n else n), afterFraction)

/-- A floating-point number that is not finite, after its sign. -/
def specialFloat (negative : Bool) (s : List Char) : Option (Value × List Char) :=
  match s with
  | 'i' :: 'n' :: 'f' :: rest =>
    some (.float (if negative then -(1.0 / 0.0) else 1.0 / 0.0), rest)
  | 'n' :: 'a' :: 'n' :: rest => some (.float (0.0 / 0.0), rest)
  | _ => none

/-- A number in any notation. -/
def number (s : List Char) : Reading (Value × List Char) :=
  let signed (negative : Bool) (rest : List Char) : Reading (Value × List Char) :=
    (decimalNumber negative rest).getD (wellFormed (specialFloat negative rest))
  match s with
  | '-' :: rest => signed true rest
  | '+' :: rest => signed false rest
  | _ =>
    match basedNumber s with
    | some result => .ok result
    | none => signed false s

/-! ## Dates and times -/

/-- Exactly so many digits that denote a number between two bounds. -/
def fixedNumber (count low high : Nat) (s : List Char) : Option (Nat × List Char) :=
  let ds := s.take count
  let n := Text.decimalValue ds
  if ds.length = count && ds.all Char.isDigit && low ≤ n && n ≤ high then some (n, s.drop count)
  else none

/-- This character. -/
def mark (c : Char) (s : List Char) : Option (List Char) :=
  match s with
  | d :: rest => if c = d then some rest else none
  | [] => none

/-- Year, month and day with hyphens between them, the month and the day in their widest ranges. -/
def dateToken (s : List Char) : Option ((Nat × Nat × Nat) × List Char) := do
  let (year, s) ← fixedNumber 4 0 9999 s
  let s ← mark '-' s
  let (month, s) ← fixedNumber 2 1 12 s
  let s ← mark '-' s
  let (day, s) ← fixedNumber 2 1 31 s
  return ((year, month, day), s)

/-- A point and digits, if they are there. -/
def skipFraction (s : List Char) : List Char :=
  match s with
  | '.' :: c :: rest => if c.isDigit then rest.dropWhile Char.isDigit else s
  | _ => s

/-- What follows hour, minute and second with colons between them and an optional fraction. -/
def afterTime (s : List Char) : Option (List Char) := do
  let (_, s) ← fixedNumber 2 0 23 s
  let s ← mark ':' s
  let (_, s) ← fixedNumber 2 0 59 s
  let s ← mark ':' s
  let (_, s) ← fixedNumber 2 0 59 s
  return skipFraction s

/-- What follows an offset from universal time, if there is one. -/
def skipOffset (s : List Char) : List Char :=
  let read (rest : List Char) : Option (List Char) := do
    let (_, r) ← fixedNumber 2 0 23 rest
    let r ← mark ':' r
    let (_, r) ← fixedNumber 2 0 59 r
    return r
  match s with
  | 'Z' :: rest | 'z' :: rest => rest
  | '+' :: rest | '-' :: rest => (read rest).getD s
  | _ => s

/-- What follows a time that belongs to a date, if there is one. -/
def skipTimeOfDate (s : List Char) : List Char :=
  match s with
  | 'T' :: rest | 't' :: rest | ' ' :: rest => ((afterTime rest).map skipOffset).getD s
  | _ => s

/-- The text in front of a rest. -/
def consumed (s rest : List Char) : String := String.ofList (s.take (s.length - rest.length))

/-- A date, with a time or without, or a time.  The outer option says whether there is one, the
inner whether it is a day of the calendar. -/
def moment? (s : List Char) : Option (Option (Value × List Char)) :=
  match dateToken s with
  | some ((year, month, day), rest) =>
    let rest := skipTimeOfDate rest
    some ((Date.make? year month day).map fun _ => (.moment (consumed s rest), rest))
  | none => (afterTime s).map fun rest => some (.moment (consumed s rest), rest)

end DateCalc.Toml
