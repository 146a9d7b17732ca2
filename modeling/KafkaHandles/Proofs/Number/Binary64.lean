import KafkaHandles.Number.Binary64
import Mathlib.Algebra.Group.Nat.Defs

/-!
# Binary64 numbers near zero and near the top

Numbers that are made without a sign are not below zero, and they are numbers. An integer has a
nearest binary64 number up to a bound, which is halfway between the largest finite number and the
power of two after it.
-/

namespace KafkaHandles

/-! ## The nearest natural number -/

namespace Number

variable {a d k : Nat}

theorem div_le_nearest (a d : Nat) : a / d ≤ nearest a d ∧ nearest a d ≤ a / d + 1 := by
  unfold nearest
  dsimp only
  split
  · omega
  · split
    · omega
    · split <;> omega

theorem le_nearest (hd : 0 < d) (h : k * d ≤ a) : k ≤ nearest a d :=
  Nat.le_trans ((Nat.le_div_iff_mul_le hd).mpr h) (div_le_nearest a d).1

theorem nearest_le (hd : 0 < d) (h : a < k * d) : nearest a d ≤ k :=
  Nat.le_trans (div_le_nearest a d).2 ((Nat.div_lt_iff_lt_mul hd).mpr h)

/-- Halfway below an even number, that number is the nearest. -/
theorem nearest_lt_iff (hd : 0 < d) (hk : k % 2 = 0) :
    nearest a d < k ↔ 2 * a + d < 2 * (k * d) := by
  have ha := Nat.div_add_mod a d
  have hr := Nat.mod_lt a hd
  have hnear := div_le_nearest a d
  rcases Nat.lt_trichotomy (a / d + 1) k with h | h | h
  · have hmul : (a / d + 2) * d ≤ k * d := Nat.mul_le_mul_right d h
    rw [Nat.add_mul, Nat.mul_comm] at hmul
    omega
  · have hmul : k * d = d * (a / d) + d := by rw [← h, Nat.add_mul, Nat.mul_comm, Nat.one_mul]
    have hodd : ¬a / d % 2 = 0 := by omega
    unfold nearest
    simp only [hodd, if_false]
    split
    · omega
    · split <;> omega
  · have hmul : k * d ≤ a / d * d := Nat.mul_le_mul_right d (by omega)
    rw [Nat.mul_comm (a / d)] at hmul
    omega

theorem two_pow_mul_le {i j l p : Nat} (hp : p = 2 ^ j) (h : i + j ≤ l) : 2 ^ i * p ≤ 2 ^ l := by
  rw [hp, ← Nat.pow_add]
  exact Nat.pow_le_pow_right (by decide) h

theorem two_pow_le_mul {i j l p : Nat} (hp : p = 2 ^ j) (h : l ≤ i + j) : 2 ^ l ≤ 2 ^ i * p := by
  rw [hp, ← Nat.pow_add]
  exact Nat.pow_le_pow_right (by decide) h

/-- Half a unit in the last place of the largest finite numbers. -/
@[irreducible] def topUnit : Nat := 2 ^ 970

theorem topUnit_eq : topUnit = 2 ^ 970 := by
  unfold topUnit
  rfl

/-- The first integer above those that have a nearest binary64 number. -/
def floatBound : Nat := (2 ^ 54 - 1) * topUnit

end Number

namespace Binary64

/-! ## Numbers without a sign -/

theorem roundedBits_le (num den : Nat) : roundedBits num den ≤ infinityBits := by
  unfold roundedBits
  split
  · exact Nat.zero_le _
  · exact Nat.min_le_left _ _

section Magnitude

variable {bits : Nat} (h : bits ≤ infinityBits)
include h

theorem bits_ofMagnitudeBits : (ofMagnitudeBits false bits).bits.toNat = bits :=
  UInt64.toNat_ofNat_of_lt (Nat.lt_of_le_of_lt h (by decide))

theorem negative_ofMagnitudeBits : (ofMagnitudeBits false bits).negative = false := by
  have hbits : bits < signUnit := Nat.lt_of_le_of_lt h (by decide)
  simp only [negative, bits_ofMagnitudeBits h, Nat.div_eq_of_lt hbits]
  rfl

theorem isNaN_ofMagnitudeBits : (ofMagnitudeBits false bits).isNaN = false := by
  simp only [isNaN, exponentField, fractionField, bits_ofMagnitudeBits h]
  simp only [infinityBits, exponentUnit] at h ⊢
  by_cases htop : bits / 0x10000000000000 % 2048 = 2047
  · have : bits % 0x10000000000000 = 0 := by omega
    simp [this]
  · simp [htop]

end Magnitude

theorem negative_divNat {x : Binary64} (h : x.negative = false) (d : Nat) :
    (x.divNat d).negative = false := by
  rw [divNat, h]
  exact negative_ofMagnitudeBits (roundedBits_le _ _)

theorem isNaN_divNat {x : Binary64} (h : x.negative = false) (d : Nat) :
    (x.divNat d).isNaN = false := by
  rw [divNat, h]
  exact isNaN_ofMagnitudeBits (roundedBits_le _ _)

theorem ltInt_zero {x : Binary64} (h : x.negative = false) : x.ltInt 0 = false := by
  unfold ltInt compareInt?
  split
  · rfl
  · split
    · rw [h]
      rfl
    · have hnum : ¬(x.magnitude.1 : Int) < 0 := Int.not_lt.mpr (Int.natCast_nonneg _)
      have hcompare : compare (x.magnitude.1 : Int) 0 ≠ .lt := by
        rwa [Ne, Int.compare_eq_lt]
      simpa [h] using hcompare

/-- The number is an integer or greater than it. -/
def geInt (x : Binary64) (n : Int) : Bool :=
  x.gtInt n || x.eqInt n

/-- A number is below an integer or not; what is no number is neither. -/
theorem geInt_iff {x : Binary64} {n : Int} : x.geInt n ↔ x.isNaN = false ∧ x.ltInt n = false := by
  cases hx : x.isNaN with
  | true => simp [geInt, gtInt, eqInt, compareInt?, hx]
  | false =>
    obtain ⟨o, ho⟩ : ∃ o, x.compareInt? n = some o := by
      simp only [compareInt?, hx, Bool.false_eq_true, if_false]
      split <;> exact ⟨_, rfl⟩
    simp only [geInt, gtInt, eqInt, ltInt, ho]
    cases o <;> simp

/-! ## Integers -/

theorem roundedBits_one {n : Nat} (hn : n ≠ 0) : roundedBits n 1 = min infinityBits
    ((n.log2 + 1022) * exponentUnit +
      Number.nearest (n * 2 ^ (52 - n.log2)) (2 ^ (n.log2 - 52))) := by
  have hlow := Nat.log2_self_le hn
  have hone : Nat.log2 1 = 0 := by decide
  have hguess : max (-1074) ((n.log2 : Int) - Nat.log2 1 - 53) = n.log2 - 53 := by
    rw [hone]
    omega
  have hbig : ¬n * 2 ^ (53 - n.log2) / 2 ^ (n.log2 - 53) < 2 * exponentUnit := by
    rw [Nat.not_lt, Nat.le_div_iff_mul_le (Nat.two_pow_pos _)]
    have hunit : 2 * exponentUnit = 2 ^ 53 := rfl
    calc 2 * exponentUnit * 2 ^ (n.log2 - 53) = 2 ^ (53 + (n.log2 - 53)) := by
          rw [hunit, Nat.pow_add]
      _ = 2 ^ (n.log2 + (53 - n.log2)) := congrArg _ (by omega)
      _ = 2 ^ n.log2 * 2 ^ (53 - n.log2) := Nat.pow_add ..
      _ ≤ n * 2 ^ (53 - n.log2) := Nat.mul_le_mul_right _ hlow
  have hup : ((n.log2 : Int) - 53).toNat = n.log2 - 53 := by omega
  have hdown : (-((n.log2 : Int) - 53)).toNat = 53 - n.log2 := by omega
  have hup' : ((n.log2 : Int) - 53 + 1).toNat = n.log2 - 52 := by omega
  have hdown' : (-((n.log2 : Int) - 53 + 1)).toNat = 52 - n.log2 := by omega
  have hexponent : ((n.log2 : Int) - 53 + 1 + 1074).toNat = n.log2 + 1022 := by omega
  simp only [roundedBits, hn, if_false, Number.power, Nat.pow_eq, hguess, hup, hdown, Nat.one_mul,
    hbig, hup', hdown', hexponent]

/-- From the bound on, the number nearest to an integer is infinity. -/
theorem roundedBits_lt_iff {n : Nat} : roundedBits n 1 < infinityBits ↔ n < Number.floatBound := by
  have htop := Number.topUnit_eq
  have hpositive : 2 ^ 0 ≤ 2 ^ 0 * Number.topUnit := Number.two_pow_le_mul htop (Nat.zero_le _)
  have hinfinity : infinityBits = 2047 * 4503599627370496 := rfl
  have hunit : exponentUnit = 4503599627370496 := rfl
  rw [Number.floatBound, hinfinity]
  rcases Nat.eq_zero_or_pos n with rfl | hpos
  · simp only [roundedBits, if_true]
    omega
  have hn : n ≠ 0 := Nat.ne_of_gt hpos
  have hlow := Nat.log2_self_le hn
  have hhigh := Nat.lt_log2_self (n := n)
  rw [roundedBits_one hn, hinfinity, hunit]
  generalize n.log2 = l at *
  have hD : 0 < 2 ^ (l - 52) := Nat.two_pow_pos _
  -- the significand has 53 bits before it is rounded, and at most one more unit after that
  have hleast : 2 ^ 52 ≤ Number.nearest (n * 2 ^ (52 - l)) (2 ^ (l - 52)) := by
    apply Number.le_nearest hD
    calc 2 ^ 52 * 2 ^ (l - 52) = 2 ^ l * 2 ^ (52 - l) := by
          rw [← Nat.pow_add, ← Nat.pow_add]
          exact congrArg _ (by omega)
      _ ≤ n * 2 ^ (52 - l) := Nat.mul_le_mul_right _ hlow
  have hmost : Number.nearest (n * 2 ^ (52 - l)) (2 ^ (l - 52)) ≤ 2 ^ 53 := by
    apply Number.nearest_le hD
    calc n * 2 ^ (52 - l) < 2 ^ (l + 1) * 2 ^ (52 - l) :=
          Nat.mul_lt_mul_of_pos_right hhigh (Nat.two_pow_pos _)
      _ = 2 ^ 53 * 2 ^ (l - 52) := by
          rw [← Nat.pow_add, ← Nat.pow_add]
          exact congrArg _ (by omega)
  rcases Nat.lt_trichotomy l 1023 with hl | hl | hl
  · have hpower : 2 ^ (l + 1) ≤ 2 ^ 53 * Number.topUnit := Number.two_pow_le_mul htop hl
    omega
  · have hscale : n * 2 ^ (52 - l) = n := by
      rw [hl]
      exact Nat.mul_one n
    have hdouble : 2 ^ (l - 52) = 2 ^ 1 * Number.topUnit :=
      Nat.le_antisymm (Number.two_pow_le_mul htop (by omega))
        (Number.two_pow_mul_le htop (by omega))
    have hhalf := Number.nearest_lt_iff (a := n) (k := 2 ^ 53) hD (by decide)
    rw [hscale] at hleast hmost ⊢
    rw [hdouble] at hhalf hleast hmost ⊢
    omega
  · have hpower : 2 ^ 54 * Number.topUnit ≤ 2 ^ l := Number.two_pow_mul_le htop hl
    omega

theorem ofInt?_eq_none_iff {n : Int} : ofInt? n = none ↔ Number.floatBound ≤ n.natAbs := by
  rw [← Nat.not_lt, ← roundedBits_lt_iff]
  dsimp only [ofInt?]
  split <;> simp_all

theorem ofInt?_nonneg {n : Int} {x : Binary64} (hn : 0 ≤ n) (h : ofInt? n = some x) :
    x.negative = false ∧ x.isNaN = false := by
  dsimp only [ofInt?] at h
  split at h <;> cases h
  rw [decide_eq_false (Int.not_lt.mpr hn)]
  exact ⟨negative_ofMagnitudeBits (roundedBits_le _ _), isNaN_ofMagnitudeBits (roundedBits_le _ _)⟩

end Binary64

end KafkaHandles
