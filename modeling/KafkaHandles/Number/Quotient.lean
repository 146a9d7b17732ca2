/-!
# Quotients

Quotients of natural numbers: the natural number nearest to one, a half going to the even neighbour,
and powers with exponents of either sign.
-/

namespace KafkaHandles.Number

/-- The natural number nearest to `num / den`; halfway between two, the even one. -/
def nearest (num den : Nat) : Nat :=
  let q := num / den
  let r := num % den
  if 2 * r < den then q
  else if den < 2 * r then q + 1
  else if q % 2 = 0 then q else q + 1

/-- The power of a base with an exponent that may be negative, as a quotient. -/
def power (base : Nat) (e : Int) : Nat × Nat :=
  (base.pow e.toNat, base.pow (-e).toNat)

end KafkaHandles.Number
