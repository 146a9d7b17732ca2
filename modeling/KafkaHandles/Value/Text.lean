import KafkaHandles.Number.Shortest
import KafkaHandles.Text.Pieces
import KafkaHandles.Text.Quoted
import KafkaHandles.Value.Basic

/-!
# The text of values

Two texts of a value: `shown`, which quotes text and names constants in full, and `plain`, which
gives text as it is. Neither can be made of a value in which an integer has too many digits, nor of
one whose parts lie deeper than the stack reaches.
-/

namespace KafkaHandles

/-- Why the text of a value cannot be made. -/
inductive TextFlaw
  /-- An integer has more digits than integers are written in. -/
  | digitsTooMany
  /-- The parts of a value lie too deep. -/
  | nestedTooDeep
  deriving DecidableEq, Repr

/-- The wording of a flaw. -/
def TextFlaw.message : TextFlaw → String
  | .digitsTooMany => "Exceeds the limit (" ++ Text.decimal Text.maxDigits ++
      " digits) for integer string conversion; " ++
      "use sys.set_int_max_str_digits() to increase the limit"
  | .nestedTooDeep => "maximum recursion depth exceeded while getting the repr of an object"

namespace Value

/-- The most levels of parts that the text of a value goes through. The stack holds fewer than a
thousand calls, one of them for the value itself; those that are under way when its text is asked
for are not counted. -/
def maxNesting : Nat := 998

/-- The text of an integer. -/
def integerText (n : Int) : Except TextFlaw String :=
  if n.natAbs < Text.digitBound then .ok (Text.integer n) else .error .digitsTooMany

/-- A constant of an enumeration, with the word it stands for. -/
def constantText (kind constant word : String) : String :=
  "<" ++ kind ++ "." ++ constant ++ ": " ++ Text.Quoted.text word ++ ">"

/-- The parts of a tuple between parentheses. A single part is followed by a comma. -/
def tupleText : List String → String
  | [part] => "(" ++ part ++ ",)"
  | parts => "(" ++ Text.join ", " parts ++ ")"

mutual

/-- The text of a value that tells its kind, where its parts may lie `room` levels deep. -/
def shownWithin (room : Nat) : Value → Except TextFlaw String
  | .none => .ok "None"
  | .bool b => .ok (if b then "True" else "False")
  | .int n => integerText n
  | .float x _ => .ok (Number.floatText x)
  | .text s => .ok (Text.Quoted.text s)
  | .bytes bs => .ok (Text.Quoted.bytes bs)
  | .buffer bs => .ok (Text.Quoted.buffer bs)
  | .view _ => .ok "<memory>"
  | .list vs => do
    let parts ← shownEach room vs
    .ok ("[" ++ Text.join ", " parts ++ "]")
  | .tuple vs => do
    let parts ← shownEach room vs
    .ok (tupleText parts)
  | .dict es => do
    let parts ← shownEntries room es
    .ok ("\x7b" ++ Text.join ", " parts ++ "\x7d")
  | .policy p => .ok (constantText "OffsetPolicy" p.constant p.word)
  | .role r => .ok (constantText "Role" r.constant r.word)
  | .error e => .ok e.shown
  | .logSink => .ok "<log sink>"
  | .object _ => .ok "<object>"

/-- The texts of values that are parts of another. -/
def shownEach (room : Nat) : List Value → Except TextFlaw (List String)
  | [] => .ok []
  | v :: vs => match room with
    | 0 => .error .nestedTooDeep
    | room + 1 => do
      let part ← shownWithin room v
      let parts ← shownEach (room + 1) vs
      .ok (part :: parts)

/-- The texts of the entries of a dictionary. -/
def shownEntries (room : Nat) : List (Value × Value) → Except TextFlaw (List String)
  | [] => .ok []
  | (k, v) :: es => match room with
    | 0 => .error .nestedTooDeep
    | room + 1 => do
      let key ← shownWithin room k
      let part ← shownWithin room v
      let parts ← shownEntries (room + 1) es
      .ok ((key ++ ": " ++ part) :: parts)

end

/-- The text of a value that tells its kind. -/
def shown (v : Value) : Except TextFlaw String :=
  v.shownWithin maxNesting

/-- The text of a value, where text stands for itself and constants go by name. -/
def plain : Value → Except TextFlaw String
  | .text s => .ok s
  | .policy p => .ok ("OffsetPolicy." ++ p.constant)
  | .role r => .ok ("Role." ++ r.constant)
  | v => v.shown

end Value

end KafkaHandles
