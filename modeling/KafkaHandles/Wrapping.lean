import KafkaHandles.Check
import KafkaHandles.Signature

/-!
# Wrapping client errors

Faults that callers make of arguments of any kind. A client error is made of a code, which must fit
into 32 bits, and of a reason or none; a broker or connection fault wraps a client error that is
given, or one that is made.
-/

namespace KafkaHandles.Wrapping

/-- The code of a client error. -/
def code (v : Value) : Except Fault Int :=
  match v.integral? with
  | some n => Check.int32 n
  | none => .error (.integerNeeded v.kindName)

/-- The reason of a client error. -/
def reason (v : Value) : Except Fault (Option String) :=
  match v with
  | .none => .ok none
  | .text s => if ClientError.isReason s then .ok (some s) else .error .textHoldsNul
  | v => .error (.reasonNeeded v.kindName)

/-- Makes a client error; the code is looked at first. -/
def makeError (c r : Value) : Except Fault ClientError := do
  let c ← code c
  let r ← reason r
  .ok (.ofCode c r)

/-- The client error that is given, or one that is made. A reason counts only beside a code. -/
def givenOrMade (given r : Value) : Except Fault ClientError :=
  match given with
  | .error e => .ok e
  | c => makeError c r

/-- The parameters of a fault that wraps a client error. -/
def errorSignature : Signature where
  function := "_BridgeException.__init__"
  parameters := [.needed "error", .absent "reason"]
  preceding := 1

/-- A fault that wraps a client error. -/
def ofError (wrap : ClientError → Fault) (given : List Value) : Except Fault Fault := do
  let a ← errorSignature.place given
  errorSignature.check a
  let e ← givenOrMade (errorSignature.value a "error") (errorSignature.value a "reason")
  .ok (wrap e)

/-- The parameters of a fault that tells of a rejected property. -/
def propertySignature : Signature where
  function := "ConfigError.__init__"
  parameters := [.needed "prop", .needed "reason"]
  preceding := 1

/-- A fault that tells of a rejected property. -/
def ofProperty (given : List Value) : Except Fault Fault := do
  let a ← propertySignature.place given
  propertySignature.check a
  let e ← makeError (.int ErrorCode.invalidArgument) (propertySignature.value a "reason")
  .ok (.config (propertySignature.value a "prop") e)

end KafkaHandles.Wrapping
