import KafkaHandles.Config
import KafkaHandles.LogLine
import KafkaHandles.RejectedProperty

/-!
# Direct calls

Functions on single values as callers reach them, with arguments by place. A check takes a second
argument, the name of what it looks at, whose text its refusals show.
-/

namespace KafkaHandles

/-- A function that is called with arguments by place. -/
structure DirectCall (α : Type) where
  signature : Signature
  /-- The result, for the values that the parameters take. -/
  result : (String → Value) → Except Fault α

namespace DirectCall

variable {α : Type}

/-- Calls a function; arguments that do not fit come first. -/
def run (c : DirectCall α) (given : List Value) : Except Fault α := do
  let a ← c.signature.place given
  c.signature.check a
  c.result (c.signature.value a)

/-- A function with one parameter. -/
def single (function parameter : String) (f : Value → Except Fault α) : DirectCall α where
  signature := { function, parameters := [.needed parameter] }
  result given := f (given parameter)

/-- What a check says of what goes by a name. A refusal shows the name, so it cannot be made without
the name's text. -/
def named (f : String → Except Fault α) (name : Value) : Except Fault α :=
  match name.plain with
  | .ok text => f text
  | .error flaw => match f "" with
    | .error (.refused _) => .error (.untold flaw)
    | r => r

/-- A check, which may do without the name of what it looks at if one is preset. -/
def checking (name : String) (preset : Option Value) (f : Value → String → Except Fault α) :
    DirectCall α where
  signature := {
    function := "ValidationUtil." ++ name
    parameters := [.needed "value", ⟨"param", preset⟩] }
  result given := named (f (given "value")) (given "param")

/-! ## Checks -/

def text : DirectCall String := checking "check_non_empty_string" none Check.text

def textOrNone : DirectCall (Option String) :=
  checking "check_optional_non_empty_string" none Check.textOrNone

def natural : DirectCall Int := checking "check_non_negative_int" none Check.natural

def integer : DirectCall Int := checking "check_int" none Check.integer

def bytesOrNone : DirectCall (Option Bytes) := checking "to_bytes" none Check.bytesOrNone

def timeout : DirectCall (Option Binary64) :=
  checking "check_timeout" (some (.text "timeout")) Check.timeout

/-! ## Other functions -/

def milliseconds : DirectCall Binary64 := single "_seconds" "timeout_ms" Check.milliseconds

def rejectedProperty : DirectCall (Option String) :=
  single "_rejected_property" "reason" RejectedProperty.findIn

def isIncremental : DirectCall Bool :=
  single "_is_incremental" "properties" Config.isIncrementalValue

def clampLevel : DirectCall Value := single "map_python_level" "level" LogLevel.clamp

/-- Reading an offset policy, which the kind of policies precedes. -/
def offsetPolicy : DirectCall OffsetPolicy where
  signature := { function := "OffsetPolicy.parse", parameters := [.needed "value"], preceding := 1 }
  result given := OffsetPolicy.parse (given "value")

end DirectCall

end KafkaHandles
