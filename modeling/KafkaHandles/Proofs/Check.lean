import KafkaHandles.Client.Library
import KafkaHandles.OffsetPolicy
import KafkaHandles.Proofs.Number.Binary64

/-!
# What passes the checks

Which arguments each check lets through, and in which form. What the checks of this library do not
let through they refuse; the client library's own checks of a partition end in other faults.
-/

namespace KafkaHandles

/-- Whether every fault in which a check may end is a refusal. -/
def Check.Refuses {α : Type} (e : Except Fault α) : Prop :=
  ∀ f, e = .error f → ∃ r, f = .refused r

namespace Check

/-- A sequence lets through what both of its parts let through. -/
theorem bind_ok {α β : Type} {a : Except Fault α} {next : α → Except Fault β} {v : β} :
    (a >>= next) = .ok v ↔ ∃ u, a = .ok u ∧ next u = .ok v := by
  cases a with
  | error f => simp [bind, Except.bind]
  | ok u => simp [bind, Except.bind]

/-- A sequence ends in a fault of one of its parts. -/
theorem bind_error {α β : Type} {a : Except Fault α} {next : α → Except Fault β} {f : Fault}
    (h : (a >>= next) = .error f) : a = .error f ∨ ∃ v, a = .ok v ∧ next v = .error f := by
  cases a with
  | error e =>
    cases h
    exact Or.inl rfl
  | ok v => exact Or.inr ⟨v, rfl, h⟩

variable {v : Value} {parameter : String}

theorem text_ok {s : String} :
    text v parameter = .ok s ↔ v = .text s ∧ ¬(Text.strip s).isEmpty := by
  constructor
  · intro h
    unfold text at h
    split at h
    · split at h
      · cases h
      · rename_i hs
        cases h
        exact ⟨rfl, hs⟩
    · cases h
  · rintro ⟨rfl, hs⟩
    simp only [text, if_neg hs]

theorem text_refuses : Refuses (text v parameter) := by
  intro f h
  unfold text at h
  split at h
  · split at h
    · cases h
      exact ⟨_, rfl⟩
    · cases h
  · cases h
    exact ⟨_, rfl⟩

theorem integer_ok {n : Int} : integer v parameter = .ok n ↔ v = .int n := by
  constructor
  · intro h
    unfold integer at h
    split at h <;> cases h
    rfl
  · rintro rfl
    rfl

theorem integer_refuses : Refuses (integer v parameter) := by
  intro f h
  unfold integer at h
  split at h <;> cases h
  exact ⟨_, rfl⟩

theorem natural_ok {n : Int} : natural v parameter = .ok n ↔ v = .int n ∧ 0 ≤ n := by
  constructor
  · intro h
    unfold natural at h
    split at h
    · split at h
      · cases h
      · rename_i hn
        cases h
        exact ⟨rfl, Int.not_lt.mp hn⟩
    · cases h
  · rintro ⟨rfl, hn⟩
    simp only [natural, if_neg (Int.not_lt.mpr hn)]

theorem natural_refuses : Refuses (natural v parameter) := by
  intro f h
  unfold natural at h
  split at h
  · split at h
    · cases h
      exact ⟨_, rfl⟩
    · cases h
  · cases h
    exact ⟨_, rfl⟩

theorem int32_ok {n m : Int} :
    int32 n = .ok m ↔ m = n ∧ -(Number.int32Bound : Int) ≤ n ∧ n < Number.int32Bound := by
  have hbounds : (Number.int32Bound : Int) ≤ Number.int64Bound := by decide
  constructor
  · intro h
    unfold int32 at h
    split at h
    · cases h
    · split at h
      · cases h
      · split at h
        · cases h
        · cases h
          omega
  · rintro ⟨rfl, hlower, hupper⟩
    have hfits : Number.fits Number.int64Bound m = true := by
      simp only [Number.fits, Bool.and_eq_true, decide_eq_true_eq]
      omega
    simp only [int32, hfits, Bool.not_true, Bool.false_eq_true, if_false]
    rw [if_neg (by omega), if_neg (by omega)]

end Check

/-- A timeout that was given in milliseconds passes as one in seconds. -/
theorem Check.timeout_of_milliseconds {v : Value} {x : Binary64} (h : milliseconds v = .ok x)
    (parameter : String) : timeout (.float x) parameter = .ok (some x) := by
  obtain ⟨n, -, h⟩ := bind_ok.mp h
  split at h
  · cases h
  · rename_i hn
    obtain ⟨y, hy, hx⟩ := bind_ok.mp h
    cases hx
    have hpositive : y.negative = false := by
      unfold toFloat at hy
      split at hy <;> cases hy
      rename_i hof
      dsimp only [Binary64.ofInt?] at hof
      split at hof <;> cases hof
      rw [decide_eq_false hn]
      exact Binary64.negative_ofMagnitudeBits (Binary64.roundedBits_le _ _)
    have hsign : (y.divNat 1000).ltInt 0 = false :=
      Binary64.ltInt_zero (Binary64.negative_divNat hpositive 1000)
    simp [timeout, hsign]

theorem TopicPartition.make_ok {topic : String} {partition offset : Int} {p : TopicPartition} :
    TopicPartition.make topic partition offset = .ok p ↔ p = ⟨topic, partition, offset⟩ ∧
      Char.ofNat 0 ∉ topic.toList ∧
      (-(Number.int32Bound : Int) ≤ partition ∧ partition < Number.int32Bound) ∧
      (-(Number.int64Bound : Int) ≤ offset ∧ offset < Number.int64Bound) := by
  have hfits : Number.fits Number.int64Bound offset = true ↔
      -(Number.int64Bound : Int) ≤ offset ∧ offset < Number.int64Bound := by
    simp only [Number.fits, Bool.and_eq_true, decide_eq_true_eq]
  constructor
  · intro h
    unfold make at h
    split at h
    · cases h
    · rename_i hnul
      split at h
      · cases h
      · rename_i n hn
        obtain ⟨rfl, hpartition⟩ := Check.int32_ok.mp hn
        split at h
        · rename_i hoffset
          cases h
          exact ⟨rfl, by simpa using hnul, hpartition, hfits.mp hoffset⟩
        · cases h
  · rintro ⟨rfl, hnul, hpartition, hoffset⟩
    have hint : Check.int32 partition = .ok partition := Check.int32_ok.mpr ⟨rfl, hpartition⟩
    simp only [make, hint, hfits.mpr hoffset, List.contains_iff_mem, hnul, if_true, if_false]

end KafkaHandles
