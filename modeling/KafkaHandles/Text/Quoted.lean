import KafkaHandles.Text.Digits
import KafkaHandles.Text.Printable
import KafkaHandles.Text.Utf8

/-!
# Quoted text and bytes

Text and bytes between quotes. The quote is an apostrophe, unless the content holds an apostrophe
and no double quote. The quote itself, the backslash and what is not printable are escaped.
-/

namespace KafkaHandles.Text.Quoted

/-- The apostrophe. -/
def apostrophe : Char := Char.ofNat 0x27

/-- The double quote. -/
def doubleQuote : Char := Char.ofNat 0x22

/-- The backslash. -/
def backslash : Char := Char.ofNat 0x5c

/-- The quote for some content. -/
def quoteFor (cs : List Char) : Char :=
  if cs.contains apostrophe && !cs.contains doubleQuote then doubleQuote else apostrophe

/-- The escapes that text and bytes share: the quote, the backslash, and three controls by letter.
-/
def commonEscape? (quote c : Char) : Option (List Char) :=
  if c = quote || c = backslash then some [backslash, c]
  else if c = '\t' then some [backslash, 't']
  else if c = '\n' then some [backslash, 'n']
  else if c = '\r' then some [backslash, 'r']
  else none

/-- An escape by number, in as many hexadecimal digits as `mark` stands for. -/
def numericEscape (mark : Char) (width n : Nat) : List Char :=
  backslash :: mark :: padZeros width (Nat.toDigits 16 n)

/-- A character of a quoted text. -/
def escapeChar (quote c : Char) : List Char :=
  match commonEscape? quote c with
  | some e => e
  | none =>
    if isPrintable c then [c]
    else if c.toNat ≤ 0xff then numericEscape 'x' 2 c.toNat
    else if c.toNat ≤ 0xffff then numericEscape 'u' 4 c.toNat
    else numericEscape 'U' 8 c.toNat

/-- A text in quotes. -/
def text (s : String) : String :=
  let quote := quoteFor s.toList
  String.ofList (quote :: s.toList.flatMap (escapeChar quote) ++ [quote])

/-- A byte of quoted bytes: only printable ASCII stands for itself. -/
def escapeByte (quote : Char) (b : UInt8) : List Char :=
  let c := Char.ofNat b.toNat
  match commonEscape? quote c with
  | some e => e
  | none => if 0x20 ≤ b.toNat && b.toNat < 0x7f then [c] else numericEscape 'x' 2 b.toNat

/-- The quote for some bytes. -/
def quoteForBytes (bs : Bytes) : Char :=
  quoteFor (bs.map fun b => Char.ofNat b.toNat)

/-- Bytes in quotes, behind the letter that marks them as bytes. -/
def bytes (bs : Bytes) : String :=
  let quote := quoteForBytes bs
  String.ofList ('b' :: quote :: bs.flatMap (escapeByte quote) ++ [quote])

/-- A buffer of bytes, shown as the call that makes it. Its quote is chosen as for `bytes`, but an
apostrophe is escaped whichever quote stands around it. -/
def buffer (bs : Bytes) : String :=
  let quote := quoteForBytes bs
  let content := bs.flatMap (escapeByte apostrophe)
  "bytearray(" ++ String.ofList ('b' :: quote :: content ++ [quote]) ++ ")"

/-- Quoted text with every character beyond ASCII escaped as well. -/
def ascii (s : String) : String :=
  String.ofList <| s.toList.flatMap fun c =>
    if c.toNat < 0x80 then [c]
    else if c.toNat ≤ 0xff then numericEscape 'x' 2 c.toNat
    else if c.toNat ≤ 0xffff then numericEscape 'u' 4 c.toNat
    else numericEscape 'U' 8 c.toNat

end KafkaHandles.Text.Quoted
