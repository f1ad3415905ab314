/-
  Values from JSON text.

  Numbers with a fraction or an exponent are floating-point numbers and all others integers, which
  may not be longer than a number may be; three words stand for the infinite numbers and for the
  result of an undefined operation.  Of two fields of one name the later value counts, in the
  place of the earlier.  A code unit of a surrogate pair that lacks its partner is read as the
  replacement character.

  Every value and every element takes at least one character, so the length of the text bounds the
  depth of the reading; that bound is the fuel of the functions below.
-/
import DateCalc.Value.Basic

namespace DateCalc.Value

/-! ## Blanks and literals -/

/-- The blanks that may stand between the parts of a text. -/
def isJsonBlank (c : Char) : Bool := c == ' ' || c == '\t' || c == '\n' || c == '\r'

/-- A text without its leading blanks. -/
def skipJsonBlanks (s : List Char) : List Char := s.dropWhile isJsonBlank

/-- What follows a word at the front of a text. -/
def afterJsonWord? : (word s : List Char) → Option (List Char)
  | [], s => some s
  | _ :: _, [] => none
  | w :: word, c :: s => if w = c then afterJsonWord? word s else none

/-! ## Strings -/

/-- The value of a hexadecimal digit. -/
def hexDigit? (c : Char) : Option Nat :=
  if c.isDigit then some (c.toNat - '0'.toNat)
  else if 'a' ≤ c && c ≤ 'f' then some (c.toNat - 'a'.toNat + 10)
  else if 'A' ≤ c && c ≤ 'F' then some (c.toNat - 'A'.toNat + 10)
  else none

/-- The value of hexadecimal digits, most significant first. -/
def hexValue? (ds : List Char) : Option Nat :=
  ds.foldlM (fun n c => (hexDigit? c).map fun d => 16 * n + d) 0

/-- The first half of a surrogate pair. -/
def isHighSurrogate (n : Nat) : Bool := 0xD800 ≤ n && n < 0xDC00

/-- The second half of a surrogate pair. -/
def isLowSurrogate (n : Nat) : Bool := 0xDC00 ≤ n && n < 0xE000

/-- The character of a code unit that stands alone. -/
def unitChar (n : Nat) : Char :=
  if isHighSurrogate n || isLowSurrogate n then Char.ofNat 0xFFFD else Char.ofNat n

/-- The characters of a run of code units, where a surrogate pair makes one character. -/
def joinUnits : List Nat → List Char
  | high :: low :: rest =>
    if isHighSurrogate high && isLowSurrogate low then
      Char.ofNat (0x10000 + (high - 0xD800) * 0x400 + (low - 0xDC00)) :: joinUnits rest
    else
      unitChar high :: joinUnits (low :: rest)
  | [n] => [unitChar n]
  | [] => []

/-- The character that a letter stands for after a backslash. -/
def simpleEscape? : Char → Option Char
  | '"' => some '"'
  | '\\' => some '\\'
  | '/' => some '/'
  | 'b' => some (Char.ofNat 8)
  | 'f' => some (Char.ofNat 12)
  | 'n' => some '\n'
  | 'r' => some '\r'
  | 't' => some '\t'
  | _ => none

/-- The rest of a string after its opening quote; its code units are collected in reverse. -/
def readString : (s : List Char) → (units : List Nat) → Option (String × List Char)
  | [], _ => none
  | '"' :: rest, units => some (String.ofList (joinUnits units.reverse), rest)
  | '\\' :: 'u' :: a :: b :: c :: d :: rest, units =>
    match hexValue? [a, b, c, d] with
    | some n => readString rest (n :: units)
    | none => none
  | '\\' :: c :: rest, units =>
    match simpleEscape? c with
    | some e => readString rest (e.toNat :: units)
    | none => none
  | c :: rest, units => if c.toNat < 0x20 then none else readString rest (c.toNat :: units)

/-! ## Numbers -/

/-- Digits at the front of a text, at least one. -/
def someDigits? (s : List Char) : Option (List Char × List Char) :=
  let ds := s.takeWhile Char.isDigit
  if ds.isEmpty then none else some (ds, s.dropWhile Char.isDigit)

/-- An infinite number. -/
def infinity : Float := 1.0 / 0.0

/-- The power of ten from which on every number is infinite, and below whose inverse every number is
zero. -/
def widestPower : Int := 400

/-- Mantissa digits shifted by a power of ten, as the nearest floating-point number. -/
def floatOfDigits (negative : Bool) (ds : List Char) (power : Int) : Float :=
  let significant := ds.dropWhile (· == '0')
  let top := (significant.length : Int) + power
  let x :=
    if significant.isEmpty || top < -widestPower then 0.0
    else if widestPower < top then infinity
    else Float.ofScientific (Text.decimalValue significant) (power < 0) power.natAbs
  if negative then -x else x

/-- The power of ten that an exponent adds, and what follows it. -/
def readExponent (s : List Char) : Option (Int × List Char) :=
  match s with
  | '-' :: rest => (someDigits? rest).map fun (ds, r) => (-(Text.decimalValue ds : Int), r)
  | '+' :: rest => (someDigits? rest).map fun (ds, r) => ((Text.decimalValue ds : Int), r)
  | rest => (someDigits? rest).map fun (ds, r) => ((Text.decimalValue ds : Int), r)

/-- The digits after a point and what follows them, nothing being read where there is no digit. -/
def readFraction (s : List Char) : List Char × List Char :=
  match s with
  | '.' :: rest => (someDigits? rest).getD ([], s)
  | _ => ([], s)

/-- A number after its sign. -/
def readNumber (negative : Bool) (s : List Char) : Option (Value × List Char) :=
  match someDigits? s with
  | none => none
  | some (ds, afterDigits) =>
    let (whole, rest) := if ds.head? = some '0' then (['0'], s.drop 1) else (ds, afterDigits)
    let (fraction, rest) := readFraction rest
    let exponent := match rest with
      | 'e' :: r | 'E' :: r => readExponent r
      | _ => none
    match exponent with
    | some (power, rest') =>
      some (float (floatOfDigits negative (whole ++ fraction) (power - fraction.length)), rest')
    | none =>
      if fraction.isEmpty && Text.longestNumber < whole.length then none
      else if fraction.isEmpty then
        let n : Int := Text.decimalValue whole
        some (int (if negative then -n else n), rest)
      else
        some (float (floatOfDigits negative (whole ++ fraction) (-(fraction.length : Int))), rest)

/-! ## Values -/

mutual

/-- A value after its leading blanks. -/
def readValue : (fuel : Nat) → List Char → Option (Value × List Char)
  | 0, _ => none
  | fuel + 1, s =>
    match s with
    | '"' :: rest => (readString rest []).map fun (text, r) => (str text, r)
    | '[' :: rest =>
      match skipJsonBlanks rest with
      | ']' :: r => some (list [], r)
      | r => (readItems fuel r).map fun (items, r') => (list items, r')
    | '\x7b' :: rest =>
      match skipJsonBlanks rest with
      | '\x7d' :: r => some (object [], r)
      | r => (readFields fuel r []).map fun (fields, r') => (object fields, r')
    | '-' :: 'I' :: rest =>
      (afterJsonWord? "nfinity".toList rest).map fun r => (float (-infinity), r)
    | 'I' :: rest => (afterJsonWord? "nfinity".toList rest).map fun r => (float infinity, r)
    | 'N' :: rest => (afterJsonWord? "aN".toList rest).map fun r => (float (0.0 / 0.0), r)
    | '-' :: rest => readNumber true rest
    | 'n' :: rest => (afterJsonWord? "ull".toList rest).map fun r => (null, r)
    | 't' :: rest => (afterJsonWord? "rue".toList rest).map fun r => (bool true, r)
    | 'f' :: rest => (afterJsonWord? "alse".toList rest).map fun r => (bool false, r)
    | _ => readNumber false s

/-- The items of a list up to its closing bracket. -/
def readItems : (fuel : Nat) → List Char → Option (List Value × List Char)
  | 0, _ => none
  | fuel + 1, s =>
    match readValue fuel s with
    | none => none
    | some (v, rest) =>
      match skipJsonBlanks rest with
      | ']' :: r => some ([v], r)
      | ',' :: r => (readItems fuel (skipJsonBlanks r)).map fun (items, r') => (v :: items, r')
      | _ => none

/-- The fields of an object up to its closing bracket, added to those already read. -/
def readFields : (fuel : Nat) → List Char → Fields → Option (Fields × List Char)
  | 0, _, _ => none
  | fuel + 1, s, fields =>
    match s with
    | '"' :: rest =>
      match readString rest [] with
      | none => none
      | some (key, rest) =>
        match skipJsonBlanks rest with
        | ':' :: rest =>
          match readValue fuel (skipJsonBlanks rest) with
          | none => none
          | some (v, rest) =>
            let fields := fields.set key v
            match skipJsonBlanks rest with
            | '\x7d' :: r => some (fields, r)
            | ',' :: r => readFields fuel (skipJsonBlanks r) fields
            | _ => none
        | _ => none
    | _ => none

end

/-- The value that a whole text denotes, blanks around it aside. -/
def ofJson? (text : String) : Option Value :=
  let s := skipJsonBlanks text.toList
  match readValue (s.length + 1) s with
  | some (v, rest) => if (skipJsonBlanks rest).isEmpty then some v else none
  | none => none

end DateCalc.Value
