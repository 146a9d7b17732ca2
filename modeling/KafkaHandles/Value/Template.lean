import KafkaHandles.Number.Word
import KafkaHandles.Value.Equality
import KafkaHandles.Value.Text

/-!
# Templates

Log templates: text in which a percent sign begins a conversion of the next argument, and two of
them stand for one. A conversion has an optional key in parentheses, flags, a width, a precision and
a letter. The arguments are a sequence, or a dictionary from which keys select.
-/

namespace KafkaHandles

/-- What is wrong with a template or its arguments. -/
inductive TemplateFlaw
  | tooFewArguments
  | tooManyArguments
  | mappingRequired
  | keyIncomplete
  | keyMissing (key : String)
  | starNotInt
  /-- The argument for a width lies beyond 64 bits. -/
  | starBeyondInt64
  /-- The argument for a precision lies beyond 32 bits. -/
  | starBeyondInt32
  /-- The digits of a width go beyond 64 bits. -/
  | widthTooBig
  /-- The digits of a precision go beyond 32 bits. -/
  | precisionTooBig
  /-- An integer is asked for in more digits than there can be. -/
  | digitsTooMany
  /-- A field is wider than any text can be. -/
  | fieldTooWide
  | conversionIncomplete
  | letterUnknown (letter : Char) (index : Nat)
  | integerRequired (letter : Char) (kind : String)
  | numberRequired (letter : Char) (kind : String)
  | realRequired (kind : String)
  | tooLargeForFloat
  | nanToInteger
  | infinityToInteger
  | characterRequired
  | characterOutOfRange
  /-- The text of an argument cannot be made. -/
  | untold (flaw : TextFlaw)
  deriving DecidableEq, Repr

/-- The wording of a flaw. -/
def TemplateFlaw.message : TemplateFlaw → String
  | .tooFewArguments => "not enough arguments for format string"
  | .tooManyArguments => "not all arguments converted during string formatting"
  | .mappingRequired => "format requires a mapping"
  | .keyIncomplete => "incomplete format key"
  | .keyMissing key => Text.Quoted.text key
  | .starNotInt => "* wants int"
  | .starBeyondInt64 => "Python int too large to convert to C ssize_t"
  | .starBeyondInt32 => "Python int too large to convert to C int"
  | .widthTooBig => "width too big"
  | .precisionTooBig => "precision too big"
  | .digitsTooMany => "precision too large"
  | .fieldTooWide => ""
  | .conversionIncomplete => "incomplete format"
  | .letterUnknown c i =>
    let shown := if 31 < c.toNat && c.toNat < 127 then c else '?'
    "unsupported format character '" ++ String.singleton shown ++ "' (0x" ++ Text.hex 1 c.toNat ++
      ") at index " ++ Text.decimal i
  | .integerRequired c kind =>
    "%" ++ String.singleton c ++ " format: an integer is required, not " ++ kind
  | .numberRequired c kind =>
    "%" ++ String.singleton c ++ " format: a real number is required, not " ++ kind
  | .realRequired kind => "must be real number, not " ++ kind
  | .tooLargeForFloat => "int too large to convert to float"
  | .nanToInteger => "cannot convert float NaN to integer"
  | .infinityToInteger => "cannot convert float infinity to integer"
  | .characterRequired => "%c requires int or char"
  | .characterOutOfRange => "%c arg not in range(0x110000)"
  | .untold flaw => flaw.message

namespace Template

/-! ## Arguments -/

/-- The arguments of a template that are left. -/
inductive Arguments
  /-- The rest of a sequence. -/
  | sequence (vs : List Value)
  /-- A dictionary, with the value to convert next. -/
  | mapping (entries : List (Value × Value)) (next : Option Value)

/-- A single dictionary that is not empty serves as a mapping, everything else as a sequence. -/
def Arguments.ofList : List Value → Arguments
  | [.dict (e :: es)] => .mapping (e :: es) (some (.dict (e :: es)))
  | vs => .sequence vs

/-- Takes the next argument. -/
def Arguments.take : Arguments → Except TemplateFlaw (Value × Arguments)
  | .sequence (v :: vs) => .ok (v, .sequence vs)
  | .mapping es (some v) => .ok (v, .mapping es none)
  | .sequence [] | .mapping _ none => .error .tooFewArguments

/-- Selects the argument with a key. -/
def Arguments.select (key : String) : Arguments → Except TemplateFlaw Arguments
  | .sequence _ => .error .mappingRequired
  | .mapping es _ =>
    match es.find? fun e => e.1.same (.text key) with
    | some e => .ok (.mapping es (some e.2))
    | none => .error (.keyMissing key)

/-- Nothing of a sequence may be left at the end. -/
def Arguments.finish : Arguments → Except TemplateFlaw Unit
  | .sequence (_ :: _) => .error .tooManyArguments
  | _ => .ok ()

/-! ## Conversions -/

/-- What stands between the percent sign of a conversion and its letter. -/
structure Spec where
  left : Bool := false
  plus : Bool := false
  blank : Bool := false
  alternate : Bool := false
  zero : Bool := false
  width : Nat := 0
  precision : Option Nat := none

/-- A flag character added to a specification. -/
def Spec.addFlag? (s : Spec) : Char → Option Spec
  | '-' => some { s with left := true }
  | '+' => some { s with plus := true }
  | ' ' => some { s with blank := true }
  | '#' => some { s with alternate := true }
  | '0' => some { s with zero := true }
  | _ => none

/-- A converted argument: its sign, the mark of its base, its characters, and whether it is a
number. -/
structure Converted where
  sign : List Char := []
  mark : List Char := []
  body : List Char
  number : Bool := false

/-- The most characters that a field may have. -/
def maxWidth : Nat := Number.int32Bound

/-- A converted argument in its field. -/
def Converted.inField (c : Converted) (s : Spec) : List Char :=
  let sign :=
    if c.number && c.sign.isEmpty then if s.plus then ['+'] else if s.blank then [' '] else []
    else c.sign
  let missing := s.width - (sign.length + c.mark.length + c.body.length)
  if s.left then sign ++ c.mark ++ c.body ++ List.replicate missing ' '
  else if c.number && s.zero then sign ++ c.mark ++ List.replicate missing '0' ++ c.body
  else List.replicate missing ' ' ++ sign ++ c.mark ++ c.body

/-- A text cut to the precision. -/
def convertText (s : Spec) (text : String) : Converted :=
  { body := match s.precision with
      | some n => text.toList.take n
      | none => text.toList }

/-- The integer for a conversion to digits; a float loses its fraction, unless the base is not ten.
-/
def integerFor (letter : Char) (v : Value) : Except TemplateFlaw Int :=
  let based := letter == 'o' || letter == 'x' || letter == 'X'
  match v, v.integral? with
  | _, some n => .ok n
  | .float x _, none =>
    if based then .error (.integerRequired letter v.kindName)
    else if x.isNaN then .error .nanToInteger
    else if x.isInfinite then .error .infinityToInteger
    else .ok x.truncate
  | v, none =>
    if based then .error (.integerRequired letter v.kindName)
    else .error (.numberRequired letter v.kindName)

/-- The most digits that an integer may be asked for in: room for a sign and the mark of a base is
left below the bound of 32 bits. -/
def maxDigits : Nat := Number.int32Bound - 4

/-- An integer in the base that the letter stands for. -/
def convertInteger (s : Spec) (letter : Char) (n : Int) : Converted :=
  let base := if letter == 'o' then 8 else if letter == 'x' || letter == 'X' then 16 else 10
  let ds := Text.padZeros (s.precision.getD 0) (Nat.toDigits base n.natAbs)
  { sign := if n < 0 then ['-'] else []
    mark := if s.alternate && base != 10 then ['0', letter] else []
    body := if letter == 'X' then ds.map Char.toUpper else ds
    number := true }

/-- The number for a conversion to a decimal fraction. -/
def floatFor (v : Value) : Except TemplateFlaw Binary64 :=
  match v, v.integral? with
  | .float x _, _ => .ok x
  | _, some n => match Binary64.ofInt? n with
    | some x => .ok x
    | none => .error .tooLargeForFloat
  | v, none => .error (.realRequired v.kindName)

/-- A quotient with a fixed number of places; the point is left out if there are none, unless it is
asked for. -/
def fixedPlaces (point : Bool) (places num den : Nat) : List Char :=
  let units := Number.nearest (num * Nat.pow 10 places) den
  let ds := Text.padZeros (places + 1) (Nat.toDigits 10 units)
  let whole := ds.length - places
  ds.take whole ++ (if places = 0 && !point then [] else ['.']) ++ ds.drop whole

/-- The digits of a quotient, `count` of them, and the exponent of the first. -/
def leadingDigits (count num den : Nat) : List Char × Int :=
  if num = 0 then (List.replicate count '0', 0)
  else
    let e := Number.decimalExponent num den
    let unit := e - (count - 1 : Nat)
    let n := Number.nearest (num * (Number.power 10 unit).2) (den * (Number.power 10 unit).1)
    let ds := Nat.toDigits 10 n
    if ds.length ≤ count then (ds, e) else (ds.take count, e + 1)

/-- A quotient with an exponent and a fixed number of places. -/
def exponentPlaces (point : Bool) (places num den : Nat) : List Char :=
  let (ds, e) := leadingDigits (places + 1) num den
  ds.take 1 ++ (if places = 0 && !point then [] else ['.']) ++ ds.drop 1 ++ Number.exponentText 2 e

/-- The digits without zeros at the end, and without a point that would end them. -/
def dropFraction (ds : List Char) : List Char :=
  if ds.contains '.' then
    ((ds.reverse.dropWhile (· == '0')).dropWhile (· == '.')).reverse
  else ds

/-- A quotient with a number of significant digits, in the notation that suits its size. -/
def generalDigits (alternate : Bool) (precision num den : Nat) : List Char :=
  let count := max 1 precision
  let (ds, e) := leadingDigits count num den
  if e < -4 || (count : Int) ≤ e then
    let mantissa := ds.take 1 ++ (if count = 1 && !alternate then [] else ['.']) ++ ds.drop 1
    (if alternate then mantissa else dropFraction mantissa) ++ Number.exponentText 2 e
  else
    let fixed := fixedPlaces alternate (count - 1 - e).toNat num den
    if alternate then fixed else dropFraction fixed

/-- More significant digits than any finite binary64 number has. -/
def enoughDigits : Nat := 800

/-- The precision that counts for a letter. Digits after the last that a number has are dropped in
the general notation, unless they are asked for; with an exponent there is one more digit than the
precision says, and a precision that leaves no room for it below the bound of 32 bits counts as
none. -/
def effectivePrecision (alternate : Bool) (letter : Char) (precision : Nat) : Nat :=
  if letter == 'g' && !alternate then min precision enoughDigits
  else if letter == 'e' && Number.int32Bound ≤ precision + 1 then 0
  else precision

/-- A binary64 number in the notation that the letter stands for. -/
def convertFloat (s : Spec) (letter : Char) (x : Binary64) : Converted :=
  let precision := effectivePrecision s.alternate letter.toLower (s.precision.getD 6)
  let lower := letter.toLower
  let body :=
    if x.isNaN then ['n', 'a', 'n']
    else if x.isInfinite then ['i', 'n', 'f']
    else
      let (num, den) := x.magnitude
      if lower == 'f' then fixedPlaces s.alternate precision num den
      else if lower == 'e' then exponentPlaces s.alternate precision num den
      else generalDigits s.alternate precision num den
  { sign := if x.negative && !x.isNaN then ['-'] else []
    body := if letter.isUpper then body.map Char.toUpper else body
    number := true }

/-- A single character, given as one or by its code point. -/
def characterFor (v : Value) : Except TemplateFlaw Char :=
  match v, v.integral? with
  | .text t, _ => match t.toList with
    | [c] => .ok c
    | _ => .error .characterRequired
  | _, some n =>
    if n < 0 || 0x10ffff < n then .error .characterOutOfRange else .ok (Char.ofNat n.toNat)
  | _, none => .error .characterRequired

/-- What a conversion writes. -/
inductive Operand
  | text (t : String)
  | integer (n : Int)
  | float (x : Binary64)
  | character (c : Char)

/-- The text of an argument, if it can be made. -/
def told (text : Except TextFlaw String) : Except TemplateFlaw String :=
  text.mapError .untold

/-- An integer that a conversion writes. In base ten it must have a text. -/
def integerOperand (letter : Char) (n : Int) : Except TemplateFlaw Operand := do
  if letter == 'd' || letter == 'i' || letter == 'u' then
    let _ ← told (Value.integerText n)
  .ok (.integer n)

/-- What the conversion with a letter writes for an argument; `index` is the letter's place in the
template. -/
def operandFor (s : Spec) (letter : Char) (index : Nat) (v : Value) :
    Except TemplateFlaw Operand :=
  match letter with
  | 's' => (told v.plain).map .text
  | 'r' => (told v.shown).map .text
  | 'a' => (told v.shown).map fun t => .text (Text.Quoted.ascii t)
  | 'd' | 'i' | 'u' | 'o' | 'x' | 'X' => do
    let n ← integerFor letter v
    if maxDigits < s.precision.getD 0 then .error .digitsTooMany else integerOperand letter n
  | 'e' | 'E' | 'f' | 'F' | 'g' | 'G' => (floatFor v).map .float
  | 'c' => (characterFor v).map .character
  | _ => .error (.letterUnknown letter index)

/-- An operand converted as the letter says. -/
def Operand.convert (s : Spec) (letter : Char) : Operand → Converted
  | .text t => convertText s t
  | .integer n => convertInteger s letter n
  | .float x => convertFloat s letter x
  | .character c => { body := [c] }

/-! ## Reading a template -/

/-- Where the reading of a template stands. -/
inductive Stage
  /-- Between conversions. -/
  | copying
  /-- After a percent sign, where a key or a second percent sign may follow. -/
  | opened
  /-- Within a key: its characters so far, in reverse, and the parentheses open within it. -/
  | key (seen : List Char) (depth : Nat)
  /-- Where flags may follow. -/
  | flags (s : Spec)
  /-- Within the digits of a width. -/
  | width (s : Spec)
  /-- After the width, where a precision may follow. -/
  | widthDone (s : Spec)
  /-- After the point of a precision. -/
  | point (s : Spec)
  /-- Within the digits of a precision. -/
  | precision (s : Spec) (n : Nat)
  /-- After the precision, where a length mark may follow. -/
  | precisionDone (s : Spec)
  /-- Where only the letter may follow. -/
  | letter (s : Spec)

/-- An argument that gives a width or a precision, which must fit into a word. -/
def starArgument (bound : Nat) (flaw : TemplateFlaw) (as : Arguments) :
    Except TemplateFlaw (Int × Arguments) := do
  let (v, as) ← as.take
  match v.integral? with
  | some n => if Number.fits bound n then .ok (n, as) else .error flaw
  | none => .error .starNotInt

/-- The width that an argument gives. A negative one asks for the left end; the least integer of 64
bits has no magnitude among them and gives no width. -/
def starWidth (s : Spec) (n : Int) : Spec :=
  let width := if n.natAbs < Number.int64Bound then n.natAbs else 0
  { s with width, left := s.left || n < 0 }

/-- A number with one more digit, which must stay below a bound. -/
def appendDigit (bound : Nat) (flaw : TemplateFlaw) (n d : Nat) : Except TemplateFlaw Nat :=
  if 10 * n + d < bound then .ok (10 * n + d) else .error flaw

/-- The value of an ASCII digit. -/
def asciiDigit? (c : Char) : Option Nat :=
  if c.isDigit then some (c.toNat - 0x30) else none

/-- Ends a conversion with its letter. -/
def endConversion (s : Spec) (as : Arguments) (index : Nat) (c : Char) :
    Except TemplateFlaw (List Char × Stage × Arguments) := do
  let (v, as) ← as.take
  let operand ← operandFor s c index v
  if maxWidth < s.width then .error .fieldTooWide
  else .ok ((operand.convert s c).inField s, .copying, as)

/-- Reads a letter, or a length mark and then a letter. -/
def afterPrecision (s : Spec) (as : Arguments) (index : Nat) (c : Char) :
    Except TemplateFlaw (List Char × Stage × Arguments) :=
  if c = 'h' || c = 'l' || c = 'L' then .ok ([], .letter s, as) else endConversion s as index c

/-- Reads what may follow a width. -/
def afterWidth (s : Spec) (as : Arguments) (index : Nat) (c : Char) :
    Except TemplateFlaw (List Char × Stage × Arguments) :=
  if c = '.' then .ok ([], .point s, as) else afterPrecision s as index c

/-- Reads what may follow the flags. -/
def afterFlags (s : Spec) (as : Arguments) (index : Nat) (c : Char) :
    Except TemplateFlaw (List Char × Stage × Arguments) :=
  if c = '*' then do
    let (n, as) ← starArgument Number.int64Bound .starBeyondInt64 as
    .ok ([], .widthDone (starWidth s n), as)
  else match asciiDigit? c with
    | some d => .ok ([], .width { s with width := d }, as)
    | none => afterWidth s as index c

/-- Reads one character of a template: what it writes, and where the reading then stands. -/
def readChar (as : Arguments) (index : Nat) (c : Char) :
    Stage → Except TemplateFlaw (List Char × Stage × Arguments)
  | .copying => .ok (if c = '%' then ([], .opened, as) else ([c], .copying, as))
  | .opened =>
    if c = '%' then .ok (['%'], .copying, as)
    else if c = '(' then match as with
      | .sequence _ => .error .mappingRequired
      | .mapping .. => .ok ([], .key [] 0, as)
    else match Spec.addFlag? {} c with
      | some s => .ok ([], .flags s, as)
      | none => afterFlags {} as index c
  | .key seen depth =>
    if c = ')' then match depth with
      | 0 => do
        let as ← as.select (String.ofList seen.reverse)
        .ok ([], .flags {}, as)
      | depth + 1 => .ok ([], .key (c :: seen) depth, as)
    else .ok ([], .key (c :: seen) (if c = '(' then depth + 1 else depth), as)
  | .flags s => match s.addFlag? c with
    | some s => .ok ([], .flags s, as)
    | none => afterFlags s as index c
  | .width s => match asciiDigit? c with
    | some d => do
      let width ← appendDigit Number.int64Bound .widthTooBig s.width d
      .ok ([], .width { s with width }, as)
    | none => afterWidth s as index c
  | .widthDone s => afterWidth s as index c
  | .point s =>
    if c = '*' then do
      let (n, as) ← starArgument Number.int32Bound .starBeyondInt32 as
      .ok ([], .precisionDone { s with precision := some n.toNat }, as)
    else match asciiDigit? c with
      | some d => .ok ([], .precision s d, as)
      | none => afterPrecision { s with precision := some 0 } as index c
  | .precision s n => match asciiDigit? c with
    | some d => do
      let n ← appendDigit Number.int32Bound .precisionTooBig n d
      .ok ([], .precision s n, as)
    | none => afterPrecision { s with precision := some n } as index c
  | .precisionDone s => afterPrecision s as index c
  | .letter s => endConversion s as index c

/-- Reads a template from a place on. -/
def readFrom (as : Arguments) (index : Nat) : Stage → List Char → Except TemplateFlaw (List Char)
  | .copying, [] => as.finish.map fun _ => []
  | .key .., [] => .error .keyIncomplete
  | _, [] => .error .conversionIncomplete
  | stage, c :: cs =>
    match readChar as index c stage with
    | .error e => .error e
    | .ok (out, stage, as) => (readFrom as (index + 1) stage cs).map (out ++ ·)

/-- A template with its arguments filled in. -/
def fill (template : String) (arguments : List Value) : Except TemplateFlaw String :=
  (readFrom (.ofList arguments) 0 .copying template.toList).map String.ofList

end Template

end KafkaHandles
