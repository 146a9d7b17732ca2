import KafkaHandles.Number.Binary64
import KafkaHandles.Text.Digits

/-!
# Shortest decimal text

The decimal text of a binary64 number with the fewest digits that read back as the number, and of
these the nearest to it. Numbers from `1e-4` up to `1e16` are written positionally, the others with
an exponent.
-/

namespace KafkaHandles.Number

/-- The exponent of the greatest power of ten up to `num / den`, for a positive quotient. -/
def decimalExponent (num den : Nat) : Int :=
  let below (k : Int) : Bool :=
    den * (power 10 k).1 ≤ num * (power 10 k).2
  let guess : Int := ((Nat.log2 num : Int) - Nat.log2 den) * 30103 / 100000 - 2
  let guess := if below (guess + 4) then guess + 4
    else if below (guess + 3) then guess + 3
    else if below (guess + 2) then guess + 2
    else if below (guess + 1) then guess + 1
    else guess
  guess

/-- A quotient with one half of the gap to each neighbour of a binary64 number: the numbers between
`low` and `high`, over the denominator `den`, round to the number; the ends do if `closed`. -/
structure Interval where
  low : Nat
  value : Nat
  high : Nat
  den : Nat
  closed : Bool

/-- The interval of the quotients that round to a finite number. -/
def Interval.ofBinary64 (x : Binary64) : Interval :=
  let m := x.significand
  let narrow := x.fractionField == 0 && 1 < x.exponentField
  let low := if narrow then 4 * m - 1 else 4 * m - 2
  let e := x.exponent - 2
  let (up, den) := power 2 e
  ⟨low * up, 4 * m * up, (4 * m + 2) * up, den, m % 2 == 0⟩

/-- Whether `n / d` lies in the interval. -/
def Interval.holds (i : Interval) (n d : Nat) : Bool :=
  let a := i.low * d
  let b := n * i.den
  let c := i.high * d
  (a < b || (i.closed && a == b)) && (b < c || (i.closed && b == c))

/-- The neighbour of the value on the grid of the multiples of a power of ten that lies in the
interval, the nearer one if both do. -/
def Interval.onGrid? (i : Interval) (unit : Int) : Option Nat :=
  let (div, mul) := power 10 unit
  let below := i.value * mul / (i.den * div)
  let inside (n : Nat) : Bool := i.holds (n * div) mul
  match inside below, inside (below + 1) with
  | true, true => some (nearest (i.value * mul) (i.den * div))
  | true, false => some below
  | false, true => some (below + 1)
  | false, false => none

/-- Decimal digits and the exponent of the first of them. -/
structure Scientific where
  digits : List Char
  exponent : Int

/-- Digits without the zeros at their end; one digit stays. -/
def dropZeros (ds : List Char) : List Char :=
  match (ds.reverse.dropWhile (· == '0')).reverse with
  | [] => ['0']
  | ds => ds

/-- Looks on the grids of `count`, `count + 1`, … digits for the first one that has a neighbour of
the value in its interval. -/
def shortestFrom (i : Interval) (top : Int) : Nat → Nat → Scientific
  | 0, _ => ⟨['0'], 0⟩
  | fuel + 1, count =>
    let unit := top - (count - 1 : Nat)
    match i.onGrid? unit with
    | some n =>
      let ds := Nat.toDigits 10 n
      ⟨dropZeros ds, unit + (ds.length - 1 : Nat)⟩
    | none => shortestFrom i top fuel (count + 1)

/-- The fewest digits that read back as a finite number other than zero. -/
def shortest (x : Binary64) : Scientific :=
  let i := Interval.ofBinary64 x
  shortestFrom i (decimalExponent i.value i.den) 17 1

/-- Where positional notation ends, and how many digits an exponent has at least. -/
structure DecimalStyle where
  lowest : Int
  highest : Int
  exponentDigits : Nat

/-- Numbers are written positionally if their first digit stands for a power of ten from the fourth
below the units up to the fifteenth above them, and an exponent has at least two digits. -/
def plainStyle : DecimalStyle := ⟨-4, 15, 2⟩

/-- An exponent with its sign. -/
def exponentText (width : Nat) (e : Int) : List Char :=
  'e' :: (if e < 0 then '-' else '+') :: Text.padZeros width (Nat.toDigits 10 e.natAbs)

/-- Digits in positional notation, with a point and at least one digit on each side of it. -/
def positional (s : Scientific) : List Char :=
  if s.exponent < 0 then
    '0' :: '.' :: (List.replicate (-s.exponent - 1).toNat '0' ++ s.digits)
  else
    let whole := s.exponent.toNat + 1
    let padded := s.digits ++ List.replicate (whole + 1 - s.digits.length) '0'
    padded.take whole ++ '.' :: padded.drop whole

/-- Digits with an exponent; the point is left out if there is only one digit. -/
def withExponent (style : DecimalStyle) (s : Scientific) : List Char :=
  let mantissa := match s.digits with
    | [] => []
    | [d] => [d]
    | d :: ds => d :: '.' :: ds
  mantissa ++ exponentText style.exponentDigits s.exponent

/-- The digits in the notation of a style. -/
def DecimalStyle.write (style : DecimalStyle) (s : Scientific) : List Char :=
  if style.lowest ≤ s.exponent && s.exponent ≤ style.highest then positional s
  else withExponent style s

/-- The text of a binary64 number. -/
def floatText (x : Binary64) : String :=
  if x.isNaN then "nan"
  else
    let sign := if x.negative then "-" else ""
    if x.isInfinite then sign ++ "inf"
    else if x.significand = 0 then sign ++ "0.0"
    else sign ++ String.ofList (plainStyle.write (shortest x))

end KafkaHandles.Number
