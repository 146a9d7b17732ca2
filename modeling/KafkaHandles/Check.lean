import KafkaHandles.Action
import KafkaHandles.Number.Word
import KafkaHandles.Text.Blank

/-!
# Checks of arguments

The checks that arguments pass before anything else happens. Each gives the argument in the form in
which it is used, or refuses it. The truth values do not pass as numbers.
-/

namespace KafkaHandles.Check

/-- A text that is not blank. -/
def text (v : Value) (parameter : String) : Except Fault String :=
  match v with
  | .text s =>
    if (Text.strip s).isEmpty then .error (.refused (.blank parameter)) else .ok s
  | _ => .error (.refused (.notText parameter))

/-- A text that is not blank, or nothing. -/
def textOrNone (v : Value) (parameter : String) : Except Fault (Option String) :=
  match v with
  | .none => .ok none
  | v => (text v parameter).map some

/-- An integer. -/
def integer (v : Value) (parameter : String) : Except Fault Int :=
  match v with
  | .int n => .ok n
  | _ => .error (.refused (.notInteger parameter))

/-- An integer that is not negative. -/
def natural (v : Value) (parameter : String) : Except Fault Int :=
  match v with
  | .int n => if n < 0 then .error (.refused (.negative parameter)) else .ok n
  | _ => .error (.refused (.notInteger parameter))

/-- An integer of 32 bits. -/
def int32 (n : Int) : Except Fault Int :=
  if !Number.fits Number.int64Bound n then .error .integerBeyondInt64
  else if Number.int32Bound ≤ n then .error .integerAboveInt32
  else if n < -(Number.int32Bound : Int) then .error .integerBelowInt32
  else .ok n

/-- The bytes of a value that holds bytes or text, or nothing. -/
def bytesOrNone (v : Value) (parameter : String) : Except Fault (Option Bytes) :=
  match v with
  | .none => .ok none
  | .text s => .ok (some (Utf8.ofText s))
  | .bytes bs | .buffer bs | .view bs => .ok (some bs)
  | _ => .error (.refused (.notBytes parameter))

/-- The binary64 number nearest to an integer. -/
def toFloat (n : Int) : Except Fault Binary64 :=
  match Binary64.ofInt? n with
  | some x => .ok x
  | none => .error .integerBeyondFloat

/-- A timeout in seconds, or nothing. -/
def timeout (v : Value) (parameter : String) : Except Fault (Option Binary64) :=
  match v with
  | .none => .ok none
  | .int n =>
    if n < 0 then .error (.refused (.negative parameter)) else (toFloat n).map some
  | .float x _ =>
    if x.ltInt 0 then .error (.refused (.negative parameter)) else .ok (some x)
  | _ => .error (.refused (.notNumber parameter))

/-- A timeout in milliseconds, in seconds. -/
def milliseconds (v : Value) : Except Fault Binary64 := do
  let n ← integer v "timeout_ms"
  if n < 0 then .error (.refused (.negative "timeout_ms"))
  else
    let x ← toFloat n
    .ok (x.divNat 1000)

end KafkaHandles.Check
