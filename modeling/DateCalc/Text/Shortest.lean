/-
  The shortest decimal of a binary number.

  A number of 64 bits stands for an interval: every real that rounds to it.  Its shortest decimal is
  the one with the fewest digits inside that interval, and of several such the one nearest to the
  number.  For each count of digits in turn only the two neighbours of the number on the grid of
  that count need be looked at, because a point of the grid inside the interval implies that one of
  those two is inside.  All of it is exact arithmetic on natural numbers.

  How such digits are laid out, with a point or with an exponent, is a matter of the format that
  writes them; the layout is a record of that format's decisions.
-/
import DateCalc.Text.Decimal

namespace DateCalc.Text

/-! ## Digits -/

/-- Digits with a decimal point: the number is zero, a point and the digits, times ten to the given
power. -/
structure DecimalDigits where
  digits : List Char
  point : Int

/-- A positive ratio of two naturals. -/
structure Ratio where
  num : Nat
  den : Nat

/-- A natural times a power of a base, as a ratio. -/
def Ratio.scaled (base : Nat) (n : Nat) : (exponent : Int) → Ratio
  | .ofNat e => ⟨n * Nat.pow base e, 1⟩
  | .negSucc e => ⟨n, Nat.pow base (e + 1)⟩

/-- Whether the first ratio is at most the second. -/
def Ratio.le (a b : Ratio) : Bool := a.num * b.den ≤ b.num * a.den

/-- Whether the first ratio is below the second. -/
def Ratio.lt (a b : Ratio) : Bool := a.num * b.den < b.num * a.den

/-- A finite positive number of 64 bits: a mantissa times a power of two. -/
structure Binary where
  mantissa : Nat
  exponent : Int

/-- The number of fractions, and the bit that every mantissa but the smallest has: two to the power
of 52. -/
def hiddenBit : Nat := 0x10000000000000

/-- The bit of the sign: two to the power of 63. -/
def signBit : Nat := 0x8000000000000000

/-- The exponent of numbers that are not finite. -/
def lastExponent : Nat := 2047

/-- Mantissa and exponent from the bits below the sign. -/
def Binary.ofBits (bits : Nat) : Binary :=
  let fraction : Nat := bits % hiddenBit
  let biased : Nat := bits / hiddenBit % (lastExponent + 1)
  if biased = 0 then ⟨fraction, -1074⟩ else ⟨hiddenBit + fraction, (biased : Int) - 1075⟩

/-- The ratio is nearer to this number than to either of its neighbours; at half way it is if the
mantissa is even. -/
def Binary.rounds (b : Binary) (r : Ratio) : Bool :=
  let below := if b.mantissa = hiddenBit && -1074 < b.exponent then 1 else 2
  let low := Ratio.scaled 2 (4 * b.mantissa - below) (b.exponent - 2)
  let high := Ratio.scaled 2 (4 * b.mantissa + 2) (b.exponent - 2)
  if b.mantissa % 2 = 0 then low.le r && r.le high else low.lt r && r.lt high

/-- The power of ten that is the leading place of the number, searched downwards. -/
def leadingPlace (value : Ratio) : (fuel : Nat) → Int → Int
  | 0, place => place
  | fuel + 1, place =>
    if (Ratio.scaled 10 1 place).le value then place else leadingPlace value fuel (place - 1)

/-- The better of the two neighbours of the number on the grid of a place, if one is inside. -/
def nearestOnGrid (b : Binary) (value : Ratio) (place : Int) : Option Nat :=
  let unit := Ratio.scaled 10 1 place
  let lower := value.num * unit.den / (value.den * unit.num)
  let twice := 2 * value.num * unit.den
  let middle := (2 * lower + 1) * value.den * unit.num
  let lowerIn := 0 < lower && b.rounds (Ratio.scaled 10 lower place)
  let upperIn := b.rounds (Ratio.scaled 10 (lower + 1) place)
  let preferUpper := middle < twice || (middle == twice && lower % 2 == 1)
  if lowerIn && upperIn then some (if preferUpper then lower + 1 else lower)
  else if lowerIn then some lower
  else if upperIn then some (lower + 1)
  else none

/-- The first hit on the grids of ever smaller places. -/
def shortestFrom (b : Binary) (value : Ratio) : (fuel : Nat) → Int → Nat × Int
  | 0, place => (0, place)
  | fuel + 1, place =>
    match nearestOnGrid b value place with
    | some n => (n, place)
    | none => shortestFrom b value fuel (place - 1)

/-- The shortest decimal of a finite positive number. -/
def shortest (b : Binary) : DecimalDigits :=
  let value := Ratio.scaled 2 b.mantissa b.exponent
  let (n, place) := shortestFrom b value 18 (leadingPlace value 640 309)
  let ds := decimal n
  let kept := (ds.reverse.dropWhile (· == '0')).reverse
  ⟨kept, place + ds.length⟩

/-! ## Layout -/

/-- The decisions of a format that writes numbers. -/
structure FloatLayout where
  lowestPoint : Int
  highestPoint : Int
  exponentWidth : Nat
  plusSign : Bool
  infinite : String
  negativeInfinite : String
  undefined : String

/-- Digits with the point among them, or with zeros up to it. -/
def positional (d : DecimalDigits) : List Char :=
  match d.point with
  | .ofNat p =>
    if p = 0 then '0' :: '.' :: d.digits
    else if d.digits.length ≤ p then
      d.digits ++ List.replicate (p - d.digits.length) '0' ++ ['.', '0']
    else d.digits.take p ++ '.' :: d.digits.drop p
  | .negSucc p => '0' :: '.' :: (List.replicate (p + 1) '0' ++ d.digits)

/-- The first digit, a point and the other digits if there are any, and the power of ten. -/
def exponential (l : FloatLayout) (d : DecimalDigits) : List Char :=
  let power := d.point - 1
  let fraction := match d.digits.drop 1 with
    | [] => []
    | more => '.' :: more
  let sign := if power < 0 then ['-'] else if l.plusSign then ['+'] else []
  d.digits.take 1 ++ fraction ++ 'e' :: sign ++ paddedDecimal l.exponentWidth power.natAbs

/-- A number in a layout. -/
def floatText (l : FloatLayout) (x : Float) : String :=
  let bits := x.toBits.toNat
  let negative := signBit ≤ bits
  let magnitude := bits % signBit
  if magnitude = lastExponent * hiddenBit then
    (if negative then l.negativeInfinite else l.infinite)
  else if lastExponent * hiddenBit < magnitude then l.undefined
  else
    let body :=
      if magnitude = 0 then "0.0".toList
      else
        let d := shortest (Binary.ofBits magnitude)
        if l.lowestPoint ≤ d.point && d.point ≤ l.highestPoint then positional d
        else exponential l d
    String.ofList (if negative then '-' :: body else body)

end DateCalc.Text
