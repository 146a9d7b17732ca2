import KafkaHandles.ClientError
import KafkaHandles.Number.Binary64
import KafkaHandles.Role
import KafkaHandles.Text.Utf8

/-!
# Values

The dynamic values that callers pass as arguments and configuration properties: every operation
accepts any of them and refuses those it cannot use.
-/

namespace KafkaHandles

/-- A dynamic value. -/
inductive Value
  /-- The absent value. -/
  | none
  | bool (b : Bool)
  | int (n : Int)
  /-- A binary64 number. Its identity counts only for a NaN, which equals nothing but itself. -/
  | float (x : Binary64) (identity : Nat := 0)
  | text (s : String)
  | bytes (bs : Bytes)
  /-- Bytes that their holder may change. -/
  | buffer (bs : Bytes)
  /-- A window on bytes that are held elsewhere. -/
  | view (bs : Bytes)
  | list (vs : List Value)
  | tuple (vs : List Value)
  /-- Keys with values, in the order of insertion. -/
  | dict (entries : List (Value × Value))
  | policy (p : OffsetPolicy)
  | role (r : Role)
  /-- An error of the client library. -/
  | error (e : ClientError)
  /-- The sink of the client library's log lines. -/
  | logSink
  /-- A value of no useful kind, known only by its identity. -/
  | object (identity : Nat)

namespace Value

/-- The name of the kind of a value, as messages about kinds give it. -/
def kindName : Value → String
  | .none => "NoneType"
  | .bool _ => "bool"
  | .int _ => "int"
  | .float .. => "float"
  | .text _ => "str"
  | .bytes _ => "bytes"
  | .buffer _ => "bytearray"
  | .view _ => "memoryview"
  | .list _ => "list"
  | .tuple _ => "tuple"
  | .dict _ => "dict"
  | .policy _ => "OffsetPolicy"
  | .role _ => "Role"
  | .error _ => "cimpl.KafkaError"
  | .logSink => "LibrdkafkaLogger"
  | .object _ => "object"

/-- A text, or the absent value. -/
def ofOption : Option String → Value
  | some s => .text s
  | Option.none => .none

/-- Whether the value is the absent one. -/
def isNone : Value → Bool
  | .none => true
  | _ => false

/-- The integer of a value that counts as one: the truth values count as one and zero. -/
def integral? : Value → Option Int
  | .bool b => some b.toNat
  | .int n => some n
  | _ => Option.none

/-- The content of a value that holds bytes. -/
def bytes? : Value → Option Bytes
  | .bytes bs | .buffer bs | .view bs => some bs
  | _ => Option.none

end Value

end KafkaHandles
