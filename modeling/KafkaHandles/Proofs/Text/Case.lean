import KafkaHandles.Text.Case
import Mathlib

/-!
# Lower case and ASCII letters

Lower-casing takes the capital letters of ASCII to its small ones and leaves the rest of ASCII as it
is. From outside ASCII only the Kelvin sign has a small letter of ASCII for its whole lower case. So
a word of other letters is the lower case of those texts alone that differ from it in the case of
ASCII letters.
-/

namespace KafkaHandles.Text

variable {c : Char}

theorem isLower_iff : c.isLower = true ↔ 97 ≤ c.toNat ∧ c.toNat ≤ 122 := by
  simp [Char.isLower, UInt32.le_iff_toNat_le, ← Char.toNat_val]

theorem lt_of_isAlpha (h : c.isAlpha = true) : c.toNat < 128 := by
  have hupper : c.isUpper = true → c.toNat ≤ 90 := by
    simp [Char.isUpper, UInt32.le_iff_toNat_le, ← Char.toNat_val]
  rcases Bool.or_eq_true_iff.mp h with h | h
  · exact Nat.lt_of_le_of_lt (hupper h) (by decide)
  · exact Nat.lt_of_le_of_lt (isLower_iff.mp h).2 (by decide)

/-! ## Characters -/

theorem lowerChar_ascii (h : c.toNat < 128) : lowerChar c = [c.toLower] := by
  have hall : ∀ n < 128, lowerChar (Char.ofNat n) = [(Char.ofNat n).toLower] := by decide +kernel
  rw [← Char.ofNat_toNat c]
  exact hall c.toNat h

/-- A row begins and ends within ASCII, or is that of the Kelvin sign, or has all its lower cases
above the small letters of ASCII. -/
theorem caseRows_above : ∀ r ∈ caseRows,
    r.last < 128 ∨ (r.first = 0x212a ∧ r.last = 0x212a ∧ r.shift = -8383) ∨
      123 ≤ (r.first : Int) + r.shift := by
  decide +kernel

theorem not_isLower_of_above {n : Nat} (h : 123 ≤ n) : (Char.ofNat n).isLower = false := by
  rw [Bool.eq_false_iff, ne_eq, isLower_iff, Char.toNat_ofNat]
  split <;> omega

/-- The lower case of a character outside ASCII holds something else than a small letter of ASCII,
unless it is that of the Kelvin sign. -/
theorem lowerChar_strange (h : 128 ≤ c.toNat) : ∃ d ∈ lowerChar c, d.isLower = false ∨ d = 'k' := by
  unfold lowerChar
  split
  · exact ⟨Char.ofNat 0x307, by simp, Or.inl (by decide)⟩
  split
  · rename_i r hr
    have hcovers := List.find?_some hr
    simp only [CaseRow.covers, Bool.and_eq_true, decide_eq_true_eq] at hcovers
    refine ⟨_, List.mem_singleton_self _, ?_⟩
    rcases caseRows_above r (List.mem_of_find?_eq_some hr) with hascii | ⟨hfirst, hlast, hshift⟩ | habove
    · omega
    · have hkelvin : c.toNat = 0x212a := by omega
      rw [hkelvin, hshift]
      exact Or.inr rfl
    · exact Or.inl (not_isLower_of_above (by omega))
  · refine ⟨c, List.mem_singleton_self c, Or.inl ?_⟩
    rw [Bool.eq_false_iff, ne_eq, isLower_iff]
    omega

/-! ## Words -/

/-- A word of small letters of ASCII without a `k`. -/
theorem lowerChars_eq_iff {cs word : List Char} (hword : ∀ d ∈ word, d.isLower = true ∧ d ≠ 'k') :
    lowerChars cs = word ↔ cs.map Char.toLower = word := by
  induction cs generalizing word with
  | nil => rfl
  | cons c cs ih =>
    have hcons : lowerChars (c :: cs) = lowerChar c ++ lowerChars cs := List.flatMap_cons
    rw [hcons, List.map_cons]
    constructor
    · rintro rfl
      have hascii : c.toNat < 128 := by
        by_contra hbeyond
        obtain ⟨d, hd, hstrange⟩ := lowerChar_strange (Nat.le_of_not_lt hbeyond)
        obtain ⟨hlower, hk⟩ := hword d (List.mem_append_left _ hd)
        rcases hstrange with hnot | rfl
        · rw [hnot] at hlower
          cases hlower
        · exact hk rfl
      have hrest := (ih fun d hd => hword d (List.mem_append_right _ hd)).mp rfl
      rw [lowerChar_ascii hascii, hrest]
      rfl
    · rintro rfl
      have hfirst := (hword c.toLower (List.mem_cons_self ..)).1
      rw [Char.isLower_toLower_eq_isAlpha] at hfirst
      have hrest := (ih fun d hd => hword d (List.mem_cons_of_mem _ hd)).mpr rfl
      rw [lowerChar_ascii (lt_of_isAlpha hfirst), hrest]
      rfl

end KafkaHandles.Text
