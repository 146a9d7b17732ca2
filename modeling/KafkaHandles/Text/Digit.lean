import KafkaHandles.Text.Blank
import KafkaHandles.Text.Digits

/-!
# Decimal digits

The decimal digits of all scripts come in runs of ten, from zero to nine. `digit?` gives the value
of a digit character, and `integer?` reads an integer: blanks around it are ignored, except for the
four ASCII separators, a sign may stand in front, single underscores may stand between digits, and
there is a most number of digits.
-/

namespace KafkaHandles.Text

/-- The zeros of the runs of decimal digits. -/
def digitZeros : List Nat := [
  0x30, 0x660, 0x6f0, 0x7c0, 0x966, 0x9e6, 0xa66, 0xae6, 0xb66, 0xbe6, 0xc66, 0xce6, 0xd66, 0xde6,
  0xe50, 0xed0, 0xf20, 0x1040, 0x1090, 0x17e0, 0x1810, 0x1946, 0x19d0, 0x1a80, 0x1a90, 0x1b50,
  0x1bb0, 0x1c40, 0x1c50, 0xa620, 0xa8d0, 0xa900, 0xa9d0, 0xa9f0, 0xaa50, 0xabf0, 0xff10, 0x104a0,
  0x10d30, 0x11066, 0x110f0, 0x11136, 0x111d0, 0x112f0, 0x11450, 0x114d0, 0x11650, 0x116c0, 0x11730,
  0x118e0, 0x11950, 0x11c50, 0x11d50, 0x11da0, 0x16a60, 0x16ac0, 0x16b50, 0x1d7ce, 0x1d7d8, 0x1d7e2,
  0x1d7ec, 0x1d7f6, 0x1e140, 0x1e2f0, 0x1e950, 0x1fbf0]

/-- The value of a decimal digit. -/
def digit? (c : Char) : Option Nat :=
  (digitZeros.find? fun z => z ≤ c.toNat && c.toNat < z + 10).map (c.toNat - ·)

/-- Reads digits, where `afterDigit` tells whether an underscore may come next. -/
def digitsFrom? (value : Nat) (afterDigit : Bool) : List Char → Option Nat
  | [] => if afterDigit then some value else none
  | c :: cs =>
    if c = '_' then if afterDigit then digitsFrom? value false cs else none
    else (digit? c).bind fun d => digitsFrom? (10 * value + d) true cs

/-- Reads a natural number written in decimal digits. -/
def natural? (cs : List Char) : Option Nat :=
  if (cs.filter (· != '_')).length ≤ maxDigits then digitsFrom? 0 false cs else none

/-- The blanks that may stand around a number: all but the four ASCII separators. -/
def isMargin (c : Char) : Bool :=
  isBlank c && !(0x1c ≤ c.toNat && c.toNat ≤ 0x1f)

/-- The characters without the blanks that may stand around a number. -/
def withoutMargins (cs : List Char) : List Char :=
  ((cs.dropWhile isMargin).reverse.dropWhile isMargin).reverse

/-- Reads an integer written in decimal digits. -/
def integer? (s : String) : Option Int :=
  match withoutMargins s.toList with
  | '-' :: cs => (natural? cs).map fun n => -(n : Int)
  | '+' :: cs => (natural? cs).map Int.ofNat
  | cs => (natural? cs).map Int.ofNat

end KafkaHandles.Text
