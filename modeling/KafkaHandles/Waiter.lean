import KafkaHandles.Number.Word
import KafkaHandles.Record

/-!
# Waiters

A waiter carries the outcome of one message from the delivery report to the sender that waits for
it. The first report decides; later ones change nothing.
-/

namespace KafkaHandles

/-- What a client reports about a message: an error or none, and where the message is stored, if the
report carries the message. -/
structure DeliveryReport where
  error : Option ClientError
  place : Option Receipt
  deriving DecidableEq, Repr

namespace DeliveryReport

/-- The place that stands for an unknown one. -/
def unknownPlace : Receipt := ⟨-1, -1⟩

/-- What a sender makes of a report: a broker error, or a receipt. -/
def outcome (r : DeliveryReport) : Except Fault Receipt :=
  match r.error with
  | some e =>
    if e.code = ErrorCode.success then .ok (r.place.getD unknownPlace) else .error (.broker e)
  | none => .ok (r.place.getD unknownPlace)

end DeliveryReport

/-- The state of a waiter: nothing is known, or the first report is. -/
structure Waiter where
  report : Option DeliveryReport := none
  deriving DecidableEq, Repr

namespace Waiter

/-- A waiter that has heard nothing. -/
def start : Waiter := {}

/-- Takes a report; only the first has an effect. -/
def resolve (w : Waiter) (r : DeliveryReport) : Waiter :=
  if w.report.isSome then w else ⟨some r⟩

/-- Whether the outcome is known. -/
def isDone (w : Waiter) : Bool :=
  w.report.isSome

/-- The outcome, once it is known. -/
def receipt (w : Waiter) : Except Fault Receipt :=
  match w.report with
  | some r => r.outcome
  | none => .error .outcomePending

/-- How many nanoseconds a second has. -/
def secondUnit : Nat := 1000000000

/-- Refuses a wait of so many seconds if its nanoseconds do not fit into 64 bits. -/
def checkSeconds (n : Int) : Except Fault Unit :=
  if Number.int64Bound ≤ n * secondUnit then .error .waitTooLong else .ok ()

/-- Refuses a wait of so many seconds if its nanoseconds, rounded to a binary64 number, lie beyond
the bound of 64 bits. The bound itself wraps around to a negative number. Around it those numbers
lie 1024 apart below and 2048 above, so all from 512 below to 1024 above are rounded to it. -/
def checkSecondsFloat (x : Binary64) : Except Fault Unit :=
  if x.isNaN || x.negative then .ok ()
  else if x.isInfinite then .error .waitTooLong
  else
    let (num, den) := x.magnitude
    if (Number.int64Bound + 1024) * den < num * secondUnit then .error .waitTooLong
    else if (Number.int64Bound - 512) * den ≤ num * secondUnit then .error .waitNegative
    else .ok ()

/-- Waits for the outcome, where nobody else reports it in the meantime. The answer tells whether it
is known; no answer means that the wait has no end. -/
def wait (w : Waiter) (timeout : Value) : Except Fault (Option Bool) :=
  if w.isDone then .ok (some true)
  else match timeout with
    | .none => .ok none
    | .bool _ => .ok (some false)
    | .int n => (checkSeconds n).map fun _ => some false
    | .float x _ => (checkSecondsFloat x).map fun _ => some false
    | v => .error (.notComparable ">" v.kindName)

/-! ## The first report decides -/

@[simp] theorem isDone_start : start.isDone = false := rfl

@[simp] theorem isDone_resolve (w : Waiter) (r : DeliveryReport) : (w.resolve r).isDone = true := by
  by_cases h : w.report.isSome <;> simp [resolve, isDone, h]

theorem resolve_of_isDone {w : Waiter} (h : w.isDone = true) (r : DeliveryReport) :
    w.resolve r = w :=
  if_pos h

@[simp] theorem resolve_resolve (w : Waiter) (r q : DeliveryReport) :
    (w.resolve r).resolve q = w.resolve r :=
  resolve_of_isDone (isDone_resolve w r) q

@[simp] theorem receipt_resolve_start (r : DeliveryReport) :
    (start.resolve r).receipt = r.outcome := rfl

end Waiter

end KafkaHandles
