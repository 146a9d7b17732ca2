import KafkaHandles.Text.Utf8
import Mathlib.Tactic.SplitIfs

/-!
# UTF-8 is read as it is written

Writing a character gives the bytes that the standard library gives it, and reading takes a
character off exactly such bytes: the lead byte fixes how many bytes follow and between which bounds
the first of them lies, and within those bounds every sequence is the only form of its code point.
-/

namespace KafkaHandles.Utf8

/-! ## Code points -/

theorem toNat_lt (c : Char) : c.toNat < 0x110000 := by
  rcases c.valid with h | h
  · exact Nat.lt_trans h (by decide)
  · exact h.2

theorem not_surrogate (c : Char) : c.toNat < 0xd800 ∨ 0xdfff < c.toNat := by
  rcases c.valid with h | h
  · exact Or.inl h
  · exact Or.inr h.1

theorem toNat_ofNat {n : Nat} (hscalar : n < 0xd800 ∨ 0xdfff < n) (hlast : n < 0x110000) :
    (Char.ofNat n).toNat = n := by
  have hvalid : n.isValidChar := by
    rcases hscalar with h | h
    · exact Or.inl h
    · exact Or.inr ⟨h, hlast⟩
  rw [Char.ofNat, dif_pos hvalid]
  rfl

/-! ## Single bytes -/

theorem leadByte_eq {lead n : Nat} {b : UInt8} : b.toNat = lead + n → leadByte lead n = b := by
  intro h
  rw [leadByte, ← h, UInt8.ofNat_toNat]

theorem trailByte_eq {n : Nat} {b : UInt8} : b.toNat = 0x80 + n % 64 → trailByte n = b := by
  intro h
  rw [trailByte, ← h, UInt8.ofNat_toNat]

theorem toNat_leadByte (lead n : Nat) (h : lead + n < 256) :
    (leadByte lead n).toNat = lead + n := by
  rw [leadByte, UInt8.toNat_ofNat', Nat.mod_eq_of_lt h]

theorem toNat_trailByte (n : Nat) : (trailByte n).toNat = 0x80 + n % 64 := by
  rw [trailByte, UInt8.toNat_ofNat', Nat.mod_eq_of_lt (by omega)]

/-! ## Lead bytes, by the number of bytes that follow -/

section Leads

variable {b : UInt8}

theorem lead?_one (h : b.toNat < 0x80) : lead? b = some ⟨0, b.toNat, 0, 0⟩ :=
  if_pos h

theorem lead?_two (hlow : 0xc2 ≤ b.toNat) (hhigh : b.toNat < 0xe0) :
    lead? b = some ⟨1, b.toNat - 0xc0, 0x80, 0xbf⟩ := by
  unfold lead?
  rw [if_neg (by omega), if_neg (by omega), if_pos hhigh]

theorem lead?_three (hlow : 0xe0 ≤ b.toNat) (hhigh : b.toNat < 0xf0) :
    lead? b = some ⟨2, b.toNat - 0xe0, if b.toNat = 0xe0 then 0xa0 else 0x80,
      if b.toNat = 0xed then 0x9f else 0xbf⟩ := by
  unfold lead?
  rw [if_neg (by omega), if_neg (by omega), if_neg (by omega)]
  by_cases he0 : b.toNat = 0xe0
  · simp [he0]
  by_cases hed : b.toNat = 0xed
  · simp [hed]
  simp [he0, hed, hhigh]

theorem lead?_four (hlow : 0xf0 ≤ b.toNat) (hhigh : b.toNat < 0xf5) :
    lead? b = some ⟨3, b.toNat - 0xf0, if b.toNat = 0xf0 then 0x90 else 0x80,
      if b.toNat = 0xf4 then 0x8f else 0xbf⟩ := by
  unfold lead?
  rw [if_neg (by omega), if_neg (by omega), if_neg (by omega), if_neg (by omega),
    if_neg (by omega), if_neg (by omega)]
  by_cases hf0 : b.toNat = 0xf0
  · simp [hf0]
  by_cases hf4 : b.toNat = 0xf4
  · simp [hf4]
  have hbetween : b.toNat < 0xf4 := by omega
  simp [hf0, hf4, hbetween]

theorem lead?_cases {l : Lead} (h : lead? b = some l) :
    b.toNat < 0x80 ∨ (0xc2 ≤ b.toNat ∧ b.toNat < 0xe0) ∨ (0xe0 ≤ b.toNat ∧ b.toNat < 0xf0) ∨
      (0xf0 ≤ b.toNat ∧ b.toNat < 0xf5) := by
  unfold lead? at h
  dsimp only at h
  split_ifs at h <;> omega

end Leads

/-! ## Bytes that follow -/

theorem trailFrom_succ {read value low high trail n : Nat} {bs : Bytes} :
    trailFrom read value low high (trail + 1) bs = .ok n ↔
      ∃ b rest, bs = b :: rest ∧ (low ≤ b.toNat ∧ b.toNat ≤ high) ∧
        trailFrom (read + 1) (64 * value + (b.toNat - 0x80)) 0x80 0xbf trail rest = .ok n := by
  cases bs with
  | nil => simp [trailFrom]
  | cons b rest =>
    simp only [trailFrom, Bool.and_eq_true, decide_eq_true_eq]
    constructor
    · intro h
      split at h
      · rename_i hb
        exact ⟨b, rest, rfl, hb, h⟩
      · cases h
    · rintro ⟨_, _, ⟨⟩, hb, h⟩
      rwa [if_pos hb]

theorem trailFrom_zero {read value low high n : Nat} {bs : Bytes} :
    trailFrom read value low high 0 bs = .ok n ↔ n = value := by
  simp [trailFrom, eq_comm]

/-! ## Characters -/

section Forms

variable {c : Char}

theorem encodeChar_one (h : c.toNat < 0x80) : encodeChar c = [UInt8.ofNat c.toNat] :=
  if_pos h

theorem encodeChar_two (hlow : 0x80 ≤ c.toNat) (hhigh : c.toNat < 0x800) :
    encodeChar c = [leadByte 0xc0 (c.toNat / 64), trailByte c.toNat] := by
  rw [encodeChar, if_neg (by omega), if_pos hhigh]

theorem encodeChar_three (hlow : 0x800 ≤ c.toNat) (hhigh : c.toNat < 0x10000) :
    encodeChar c =
      [leadByte 0xe0 (c.toNat / 64 / 64), trailByte (c.toNat / 64), trailByte c.toNat] := by
  rw [encodeChar, if_neg (by omega), if_neg (by omega), if_pos hhigh]

theorem encodeChar_four (hlow : 0x10000 ≤ c.toNat) :
    encodeChar c = [leadByte 0xf0 (c.toNat / 64 / 64 / 64), trailByte (c.toNat / 64 / 64),
      trailByte (c.toNat / 64), trailByte c.toNat] := by
  rw [encodeChar, if_neg (by omega), if_neg (by omega), if_neg (by omega)]

end Forms

/-- The bytes of a character are those that the standard library gives it. -/
theorem encodeChar_eq (c : Char) : encodeChar c = String.utf8EncodeChar c := by
  have hlast := toNat_lt c
  have hval : c.val.toNat = c.toNat := rfl
  have hbyte {m n : Nat} (h : m % 256 = n % 256) : UInt8.ofNat m = UInt8.ofNat n := by
    rw [← UInt8.toNat_inj, UInt8.toNat_ofNat', UInt8.toNat_ofNat']
    exact h
  unfold String.utf8EncodeChar
  dsimp only
  rw [hval]
  split_ifs with hone htwo hthree
  · exact encodeChar_one (by omega)
  · rw [encodeChar_two (by omega) (by omega)]
    simp only [leadByte, trailByte, List.cons.injEq, and_true]
    exact ⟨hbyte (by omega), hbyte (by omega)⟩
  · rw [encodeChar_three (by omega) (by omega)]
    simp only [leadByte, trailByte, List.cons.injEq, and_true]
    exact ⟨hbyte (by omega), hbyte (by omega), hbyte (by omega)⟩
  · rw [encodeChar_four (by omega)]
    simp only [leadByte, trailByte, List.cons.injEq, and_true]
    exact ⟨hbyte (by omega), hbyte (by omega), hbyte (by omega), hbyte (by omega)⟩

/-- What reading takes off as a character is the bytes of that character. -/
theorem encodeChar_of_decodeChar {position : Nat} {b : UInt8} {bs : Bytes} {c : Char} {k : Nat}
    (h : decodeChar position b bs = .ok (c, k)) :
    ∃ trail rest, bs = trail ++ rest ∧ trail.length = k ∧ encodeChar c = b :: trail := by
  unfold decodeChar at h
  cases hlead : lead? b with
  | none => simp [hlead] at h
  | some l =>
    simp only [hlead] at h
    cases htrail : trailFrom 1 l.bits l.low l.high l.trail bs with
    | error e => simp [htrail] at h
    | ok n =>
      simp only [htrail] at h
      obtain ⟨rfl, rfl⟩ := Prod.mk.inj (Except.ok.inj h)
      rcases lead?_cases hlead with hb | ⟨hlow, hhigh⟩ | ⟨hlow, hhigh⟩ | ⟨hlow, hhigh⟩
      · rw [lead?_one hb] at hlead
        cases hlead
        obtain rfl := trailFrom_zero.mp htrail
        have hn : (Char.ofNat b.toNat).toNat = b.toNat := toNat_ofNat (by omega) (by omega)
        refine ⟨[], bs, rfl, rfl, ?_⟩
        dsimp only
        rw [encodeChar_one (by omega), hn, UInt8.ofNat_toNat]
      · rw [lead?_two hlow hhigh] at hlead
        cases hlead
        obtain ⟨x, rest, rfl, hx, htrail⟩ := trailFrom_succ.mp htrail
        have hvalue := trailFrom_zero.mp htrail
        dsimp only at hx hvalue
        have hn : (Char.ofNat n).toNat = n := toNat_ofNat (by omega) (by omega)
        refine ⟨[x], rest, rfl, rfl, ?_⟩
        rw [encodeChar_two (by omega) (by omega), hn, leadByte_eq (b := b) (by omega),
          trailByte_eq (b := x) (by omega)]
      · rw [lead?_three hlow hhigh] at hlead
        cases hlead
        obtain ⟨x, rest, rfl, hx, htrail⟩ := trailFrom_succ.mp htrail
        obtain ⟨y, rest, rfl, hy, htrail⟩ := trailFrom_succ.mp htrail
        have hvalue := trailFrom_zero.mp htrail
        dsimp only at hx hvalue
        have hform : 0x800 ≤ n ∧ (n < 0xd800 ∨ 0xdfff < n) := by split_ifs at hx <;> omega
        have hx : 0x80 ≤ x.toNat ∧ x.toNat ≤ 0xbf := by split_ifs at hx <;> omega
        have hn : (Char.ofNat n).toNat = n := toNat_ofNat hform.2 (by omega)
        refine ⟨[x, y], rest, rfl, rfl, ?_⟩
        rw [encodeChar_three (by omega) (by omega), hn, leadByte_eq (b := b) (by omega),
          trailByte_eq (b := x) (by omega), trailByte_eq (b := y) (by omega)]
      · rw [lead?_four hlow hhigh] at hlead
        cases hlead
        obtain ⟨x, rest, rfl, hx, htrail⟩ := trailFrom_succ.mp htrail
        obtain ⟨y, rest, rfl, hy, htrail⟩ := trailFrom_succ.mp htrail
        obtain ⟨z, rest, rfl, hz, htrail⟩ := trailFrom_succ.mp htrail
        have hvalue := trailFrom_zero.mp htrail
        dsimp only at hx hvalue
        have hform : 0x10000 ≤ n ∧ n < 0x110000 := by split_ifs at hx <;> omega
        have hx : 0x80 ≤ x.toNat ∧ x.toNat ≤ 0xbf := by split_ifs at hx <;> omega
        have hn : (Char.ofNat n).toNat = n := toNat_ofNat (by omega) hform.2
        refine ⟨[x, y, z], rest, rfl, rfl, ?_⟩
        rw [encodeChar_four (by omega), hn, leadByte_eq (b := b) (by omega),
          trailByte_eq (b := x) (by omega), trailByte_eq (b := y) (by omega),
          trailByte_eq (b := z) (by omega)]

theorem encodeChar_ne_nil (c : Char) : encodeChar c ≠ [] := by
  rw [encodeChar_eq]
  exact String.utf8EncodeChar_ne_nil

/-- Reading takes a character off the bytes of that character, whatever follows. -/
theorem decodeChar_of_encodeChar {position : Nat} {b : UInt8} {trail : Bytes} {c : Char}
    (h : encodeChar c = b :: trail) (rest : Bytes) :
    decodeChar position b (trail ++ rest) = .ok (c, trail.length) := by
  have hlast := toNat_lt c
  have hscalar := not_surrogate c
  suffices hread : ∃ l, lead? b = some l ∧ l.trail = trail.length ∧
      trailFrom 1 l.bits l.low l.high l.trail (trail ++ rest) = .ok c.toNat by
    obtain ⟨l, hlead, hlength, htrail⟩ := hread
    rw [decodeChar, hlead]
    dsimp only
    rw [htrail, hlength]
    exact congrArg (fun x => Except.ok (x, trail.length)) (Char.ofNat_toNat c)
  by_cases hone : c.toNat < 0x80
  · rw [encodeChar_one hone] at h
    obtain ⟨rfl, rfl⟩ := List.cons.inj h
    have hb : (UInt8.ofNat c.toNat).toNat = c.toNat := by
      rw [UInt8.toNat_ofNat', Nat.mod_eq_of_lt (by omega)]
    exact ⟨_, lead?_one (by omega), rfl, trailFrom_zero.mpr hb.symm⟩
  by_cases htwo : c.toNat < 0x800
  · rw [encodeChar_two (by omega) htwo] at h
    obtain ⟨rfl, rfl⟩ := List.cons.inj h
    have hb := toNat_leadByte 0xc0 (c.toNat / 64) (by omega)
    have hx := toNat_trailByte c.toNat
    refine ⟨_, lead?_two (by omega) (by omega), rfl, ?_⟩
    refine trailFrom_succ.mpr ⟨_, _, rfl, by dsimp only; omega, ?_⟩
    exact trailFrom_zero.mpr (by dsimp only; omega)
  by_cases hthree : c.toNat < 0x10000
  · rw [encodeChar_three (by omega) hthree] at h
    obtain ⟨rfl, rfl⟩ := List.cons.inj h
    have hb := toNat_leadByte 0xe0 (c.toNat / 64 / 64) (by omega)
    have hx := toNat_trailByte (c.toNat / 64)
    have hy := toNat_trailByte c.toNat
    refine ⟨_, lead?_three (by omega) (by omega), rfl, ?_⟩
    refine trailFrom_succ.mpr ⟨_, _, rfl, by dsimp only; split_ifs <;> omega, ?_⟩
    exact trailFrom_succ.mpr ⟨_, _, rfl, by omega, trailFrom_zero.mpr (by dsimp only; omega)⟩
  · rw [encodeChar_four (by omega)] at h
    obtain ⟨rfl, rfl⟩ := List.cons.inj h
    have hb := toNat_leadByte 0xf0 (c.toNat / 64 / 64 / 64) (by omega)
    have hx := toNat_trailByte (c.toNat / 64 / 64)
    have hy := toNat_trailByte (c.toNat / 64)
    have hz := toNat_trailByte c.toNat
    refine ⟨_, lead?_four (by omega) (by omega), rfl, ?_⟩
    refine trailFrom_succ.mpr ⟨_, _, rfl, by dsimp only; split_ifs <;> omega, ?_⟩
    refine trailFrom_succ.mpr ⟨_, _, rfl, by omega, ?_⟩
    exact trailFrom_succ.mpr ⟨_, _, rfl, by omega, trailFrom_zero.mpr (by dsimp only; omega)⟩

/-! ## Texts -/

theorem decodeFrom_skip (position : Nat) (read rest : Bytes) :
    decodeFrom position read.length (read ++ rest) =
      decodeFrom (position + read.length) 0 rest := by
  induction read generalizing position with
  | nil => rfl
  | cons b read ih =>
    rw [List.length_cons, List.cons_append, decodeFrom, ih]
    congr 1
    omega

theorem decodeFrom_encodeChar (position : Nat) (c : Char) (rest : Bytes) :
    decodeFrom position 0 (encodeChar c ++ rest) =
      (decodeFrom (position + (encodeChar c).length) 0 rest).map (c :: ·) := by
  obtain ⟨b, trail, h⟩ := List.exists_cons_of_ne_nil (encodeChar_ne_nil c)
  rw [h, List.cons_append, decodeFrom, decodeChar_of_encodeChar h, List.length_cons]
  dsimp only
  rw [decodeFrom_skip]
  congr 2
  omega

theorem decodeFrom_encode (position : Nat) (cs : List Char) :
    decodeFrom position 0 (encode cs) = .ok cs := by
  induction cs generalizing position with
  | nil => rfl
  | cons c cs ih =>
    rw [encode, List.flatMap_cons, decodeFrom_encodeChar]
    rw [encode] at ih
    rw [ih]
    rfl

theorem encode_of_decodeFrom {position : Nat} {bs : Bytes} {cs : List Char}
    (h : decodeFrom position 0 bs = .ok cs) : encode cs = bs := by
  -- every character that is read makes the text longer by one, so the text bounds the induction
  induction cs generalizing position bs with
  | nil =>
    cases bs with
    | nil => rfl
    | cons b bs =>
      rw [decodeFrom] at h
      split at h
      · cases h
      · rename_i c k _
        rcases hrest : decodeFrom (position + 1) k bs with _ | cs <;> rw [hrest] at h <;> cases h
  | cons c cs ih =>
    cases bs with
    | nil => cases h
    | cons b bs =>
      rw [decodeFrom] at h
      split at h
      · cases h
      · rename_i x k hchar
        obtain ⟨trail, rest, rfl, rfl, hform⟩ := encodeChar_of_decodeChar hchar
        rw [decodeFrom_skip] at h
        rcases hrest : decodeFrom (position + 1 + trail.length) 0 rest with e | ds <;>
          rw [hrest] at h <;> cases h
        rw [encode, List.flatMap_cons, hform]
        exact congrArg (b :: trail ++ ·) (ih hrest)

theorem decode_encode (cs : List Char) : decode (encode cs) = .ok cs :=
  decodeFrom_encode 0 cs

theorem decode_eq_ok {bs : Bytes} {cs : List Char} : decode bs = .ok cs ↔ encode cs = bs := by
  constructor
  · exact encode_of_decodeFrom
  · rintro rfl
    exact decode_encode cs

theorem toText_eq_ok {bs : Bytes} {s : String} : toText bs = .ok s ↔ ofText s = bs := by
  rw [ofText, ← decode_eq_ok, toText]
  cases decode bs with
  | error r => exact ⟨nofun, nofun⟩
  | ok cs =>
    constructor
    · rintro ⟨⟩
      rw [String.toList_ofList]
    · rintro ⟨⟩
      exact congrArg Except.ok String.ofList_toList

/-- The bytes of a text are those that the standard library stores it as. -/
theorem ofText_eq (s : String) : ofText s = s.toUTF8.data.toList := by
  have hchars : encodeChar = String.utf8EncodeChar := funext encodeChar_eq
  rw [String.toUTF8_eq_toByteArray, ← String.utf8Encode_toList, List.utf8Encode,
    List.data_toByteArray, ofText, encode, hchars]

end KafkaHandles.Utf8
