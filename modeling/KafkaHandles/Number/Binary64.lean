import KafkaHandles.Number.Quotient

/-!
# Binary64 numbers

The numbers of the binary64 format, as their 64 bits, with exact arithmetic on natural numbers and
integers. A finite number is its significand times a power of two, behind a sign. `ofRatio` is the
number nearest to a quotient, and comparisons with integers are exact.
-/

namespace KafkaHandles

/-- A binary64 number, given by its bits. -/
structure Binary64 where
  bits : UInt64
  deriving DecidableEq, Repr

namespace Binary64

/-! ## Fields -/

/-- The unit of the sign bit. -/
def signUnit : Nat := 0x8000000000000000

/-- The unit of the exponent field, which is also the leading bit of a normal significand. -/
def exponentUnit : Nat := 0x10000000000000

/-- Whether the sign bit is set. -/
def negative (x : Binary64) : Bool :=
  x.bits.toNat / signUnit == 1

/-- The eleven bits of the exponent. -/
def exponentField (x : Binary64) : Nat :=
  x.bits.toNat / exponentUnit % 2048

/-- The fifty-two bits of the fraction. -/
def fractionField (x : Binary64) : Nat :=
  x.bits.toNat % exponentUnit

/-- The bits stand for no number. -/
def isNaN (x : Binary64) : Bool :=
  x.exponentField == 2047 && x.fractionField != 0

/-- The bits stand for one of the two infinities. -/
def isInfinite (x : Binary64) : Bool :=
  x.exponentField == 2047 && x.fractionField == 0

/-- The bits stand for a finite number. -/
def isFinite (x : Binary64) : Bool :=
  x.exponentField != 2047

/-- The integer significand of a finite number. -/
def significand (x : Binary64) : Nat :=
  if x.exponentField = 0 then x.fractionField else exponentUnit + x.fractionField

/-- The power of two that the significand of a finite number is multiplied by. -/
def exponent (x : Binary64) : Int :=
  (max 1 x.exponentField : Nat) - 1075

/-- The quotient of natural numbers that is the magnitude of a finite number. -/
def magnitude (x : Binary64) : Nat × Nat :=
  let (up, down) := Number.power 2 x.exponent
  (x.significand * up, down)

/-! ## Making numbers -/

/-- The number with a sign and a magnitude given by its lower 63 bits. -/
def ofMagnitudeBits (negative : Bool) (bits : Nat) : Binary64 :=
  ⟨UInt64.ofNat (if negative then signUnit + bits else bits)⟩

/-- The magnitude bits of the infinities. -/
def infinityBits : Nat := 2047 * exponentUnit

/-- Positive infinity. -/
def infinity : Binary64 := ofMagnitudeBits false infinityBits

/-- The number written for every undefined one. -/
def nan : Binary64 := ⟨0x7ff8000000000000⟩

/-- The magnitude bits of the number nearest to `num / den`, a half going to the even significand;
from halfway beyond the largest finite number on, those of infinity. -/
def roundedBits (num den : Nat) : Nat :=
  if num = 0 then 0
  else
    let scale (e : Int) : Nat × Nat :=
      (num * (Number.power 2 e).2, den * (Number.power 2 e).1)
    let guess : Int := max (-1074) ((Nat.log2 num : Int) - Nat.log2 den - 53)
    let e := if (scale guess).1 / (scale guess).2 < 2 * exponentUnit then guess else guess + 1
    let m := Number.nearest (scale e).1 (scale e).2
    min infinityBits ((e + 1074).toNat * exponentUnit + m)

/-- The number nearest to the quotient of two natural numbers. -/
def ofRatio (num den : Nat) : Binary64 :=
  ofMagnitudeBits false (roundedBits num den)

/-- The number nearest to an integer, unless it lies beyond the finite numbers. -/
def ofInt? (n : Int) : Option Binary64 :=
  let bits := roundedBits n.natAbs 1
  if bits < infinityBits then some (ofMagnitudeBits (n < 0) bits) else none

/-- The number nearest to the quotient of a finite number and a natural number. -/
def divNat (x : Binary64) (d : Nat) : Binary64 :=
  ofMagnitudeBits x.negative (roundedBits x.magnitude.1 (x.magnitude.2 * d))

/-! ## Order -/

/-- Compares a finite number with an integer; `none` if the bits stand for no number. -/
def compareInt? (x : Binary64) (n : Int) : Option Ordering :=
  if x.isNaN then none
  else if x.isInfinite then some (if x.negative then .lt else .gt)
  else
    let num : Int := if x.negative then -x.magnitude.1 else x.magnitude.1
    some (compare num (n * x.magnitude.2))

/-- The number is less than an integer. -/
def ltInt (x : Binary64) (n : Int) : Bool :=
  x.compareInt? n == some .lt

/-- The number equals an integer. -/
def eqInt (x : Binary64) (n : Int) : Bool :=
  x.compareInt? n == some .eq

/-- The number is greater than an integer. -/
def gtInt (x : Binary64) (n : Int) : Bool :=
  x.compareInt? n == some .gt

/-- Two numbers are equal: the zeros are, and a NaN equals nothing. -/
def same (x y : Binary64) : Bool :=
  !x.isNaN && !y.isNaN &&
    (x == y || (x.bits.toNat % signUnit == 0 && y.bits.toNat % signUnit == 0))

/-- The integer part of a finite number. -/
def truncate (x : Binary64) : Int :=
  let n := x.magnitude.1 / x.magnitude.2
  if x.negative then -n else n

end Binary64

end KafkaHandles
