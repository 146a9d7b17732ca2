/-!
# Words

The integers that fit into words of 32 and of 64 bits.
-/

namespace KafkaHandles.Number

/-- The first integer above those of 32 bits. -/
def int32Bound : Nat := 0x80000000

/-- The first integer above those of 64 bits. -/
def int64Bound : Nat := 0x8000000000000000

/-- Whether an integer fits into a word, by the first integer above those that do. -/
def fits (bound : Nat) (n : Int) : Bool :=
  -(bound : Int) ≤ n && n < bound

end KafkaHandles.Number
