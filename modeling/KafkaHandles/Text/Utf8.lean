/-!
# UTF-8

The bytes of a text and the text of bytes. `encode` writes every character in its only form;
`decode` reads those forms and refuses everything else, naming the first bytes at fault: a byte that
starts no character, a character that the data end in, or a byte that does not continue the
character before it.
-/

namespace KafkaHandles

/-- A sequence of bytes. -/
abbrev Bytes := List UInt8

namespace Utf8

/-- The lead byte `lead` with what is left of `n` above the continuation bytes. -/
def leadByte (lead n : Nat) : UInt8 :=
  UInt8.ofNat (lead + n)

/-- The continuation byte for the lowest six bits of `n`. -/
def trailByte (n : Nat) : UInt8 :=
  UInt8.ofNat (0x80 + n % 64)

/-- The bytes of a character: one to four of them. -/
def encodeChar (c : Char) : Bytes :=
  let n := c.toNat
  if n < 0x80 then [UInt8.ofNat n]
  else if n < 0x800 then [leadByte 0xc0 (n / 64), trailByte n]
  else if n < 0x10000 then [leadByte 0xe0 (n / 64 / 64), trailByte (n / 64), trailByte n]
  else
    [leadByte 0xf0 (n / 64 / 64 / 64), trailByte (n / 64 / 64), trailByte (n / 64), trailByte n]

/-- The bytes of a text. -/
def encode (cs : List Char) : Bytes :=
  cs.flatMap encodeChar

/-- Why bytes are refused. -/
inductive Flaw
  /-- A byte that starts no character. -/
  | start
  /-- The data end within a character. -/
  | ended
  /-- A byte within a character does not continue it. -/
  | continuation
  deriving DecidableEq, Repr

/-- Bytes at fault: the first of them, how many they are, and what is wrong. -/
structure Refused where
  position : Nat
  first : UInt8
  count : Nat
  flaw : Flaw
  deriving DecidableEq, Repr

/-- How a character goes on after its lead byte: how many bytes follow, the bits of the lead byte,
and the range of the first byte that follows. -/
structure Lead where
  trail : Nat
  bits : Nat
  low : Nat
  high : Nat

/-- What a lead byte announces. The ranges shut out overlong forms, surrogates and code points
beyond the last one. -/
def lead? (b : UInt8) : Option Lead :=
  let n := b.toNat
  if n < 0x80 then some ⟨0, n, 0, 0⟩
  else if n < 0xc2 then none
  else if n < 0xe0 then some ⟨1, n - 0xc0, 0x80, 0xbf⟩
  else if n = 0xe0 then some ⟨2, 0, 0xa0, 0xbf⟩
  else if n = 0xed then some ⟨2, 13, 0x80, 0x9f⟩
  else if n < 0xf0 then some ⟨2, n - 0xe0, 0x80, 0xbf⟩
  else if n = 0xf0 then some ⟨3, 0, 0x90, 0xbf⟩
  else if n < 0xf4 then some ⟨3, n - 0xf0, 0x80, 0xbf⟩
  else if n = 0xf4 then some ⟨3, 4, 0x80, 0x8f⟩
  else none

/-- Reads `trail` bytes of a character. The first must lie between `low` and `high`; `read` counts
the bytes of the character so far and `value` holds their bits. The answer is the code point, or the
count of well-formed bytes and the flaw. -/
def trailFrom (read : Nat) (value low high : Nat) : Nat → Bytes → Except (Nat × Flaw) Nat
  | 0, _ => .ok value
  | _ + 1, [] => .error (read, .ended)
  | trail + 1, b :: bs =>
    if low ≤ b.toNat && b.toNat ≤ high then
      trailFrom (read + 1) (64 * value + (b.toNat - 0x80)) 0x80 0xbf trail bs
    else .error (read, .continuation)

/-- Reads the character at the head of the bytes and tells how many of them it takes. -/
def decodeChar (position : Nat) (b : UInt8) (bs : Bytes) : Except Refused (Char × Nat) :=
  match lead? b with
  | none => .error ⟨position, b, 1, .start⟩
  | some l =>
    match trailFrom 1 l.bits l.low l.high l.trail bs with
    | .ok n => .ok (Char.ofNat n, l.trail)
    | .error (count, flaw) => .error ⟨position, b, count, flaw⟩

/-- Reads bytes from a position on; `skip` counts the bytes of a character already read. -/
def decodeFrom (position : Nat) : Nat → Bytes → Except Refused (List Char)
  | _, [] => .ok []
  | skip + 1, _ :: bs => decodeFrom (position + 1) skip bs
  | 0, b :: bs =>
    match decodeChar position b bs with
    | .error r => .error r
    | .ok (c, trail) => (decodeFrom (position + 1) trail bs).map (c :: ·)

/-- The text of bytes. -/
def decode (bs : Bytes) : Except Refused (List Char) :=
  decodeFrom 0 0 bs

/-- The bytes of a text. -/
def ofText (s : String) : Bytes :=
  encode s.toList

/-- The text of bytes, or the bytes at fault. -/
def toText (bs : Bytes) : Except Refused String :=
  (decode bs).map String.ofList

end Utf8

end KafkaHandles
