/-!
# Numbers in digits

Natural numbers and integers written in a base, in as many digits as they need or with zeros in
front.
-/

namespace KafkaHandles.Text

/-- The digits with zeros in front of them up to `width` places. -/
def padZeros (width : Nat) (ds : List Char) : List Char :=
  List.replicate (width - ds.length) '0' ++ ds

/-- A natural number in base sixteen, in at least `width` places. -/
def hex (width n : Nat) : String :=
  String.ofList (padZeros width (Nat.toDigits 16 n))

/-- A natural number in decimal digits. -/
def decimal (n : Nat) : String :=
  String.ofList (Nat.toDigits 10 n)

/-- The most decimal digits that an integer is read from or written in. -/
def maxDigits : Nat := 4300

/-- The least natural number that has more digits. -/
def digitBound : Nat := Nat.pow 10 maxDigits

/-- An integer in decimal digits, behind a minus sign if it is negative. -/
def integer (n : Int) : String :=
  if n < 0 then "-" ++ decimal n.natAbs else decimal n.natAbs

end KafkaHandles.Text
