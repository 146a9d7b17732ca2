import KafkaHandles.Client.World
import KafkaHandles.Check

/-!
# Sending a message

A message is put into the client's queue, and then the sender polls for delivery reports and looks
at its waiter in turn until the report on its own message has arrived, on whichever thread that was.
`Send` is a sender at some point of this, and `Send.step` takes it one atomic step further, so that
the steps of several senders may come in any order.
-/

namespace KafkaHandles

/-- The arguments of a send. -/
structure SendArguments where
  topic : Value
  value : Value
  key : Value := .none
  partition : Value := .none

/-- Bytes as a value, or the absent one. -/
def bytesOrAbsent (bs : Option Bytes) : Value :=
  match bs with
  | some bs => .bytes bs
  | none => .none

/-- Checks what is to be sent. -/
def Outgoing.check (topic value key partition : Value) : Except Fault Outgoing := do
  let topic ← Check.text topic "topic"
  if value.isNone then .error (.refused .valueMissing)
  else
    let value ← Check.bytesOrNone value "value"
    let key ← Check.bytesOrNone key "key"
    let partition ← match partition with
      | .none => .ok none
      | p => (Check.natural p "partition").map some
    .ok { topic, value := bytesOrAbsent value, key := bytesOrAbsent key, partition }

/-- Where a sender stands. -/
inductive SendStage
  /-- Before its message is put into the queue. -/
  | ready
  /-- While its message is put into the queue, with what still happens during this. -/
  | producing (ticket : Ticket) (pending : List Event)
  /-- Before it polls for reports. -/
  | looping (ticket : Ticket)
  /-- While it polls for reports, with what still happens during this. -/
  | polling (ticket : Ticket) (pending : List Event)
  /-- Before it looks at its waiter. -/
  | waiting (ticket : Ticket)
  /-- Before it takes the outcome out of its waiter. -/
  | collecting (ticket : Ticket)
  /-- At its end. -/
  | finished (outcome : Except Fault Receipt)

/-- A sender: its client, its message, and where it stands. -/
structure Send where
  client : ClientId
  message : Outgoing
  stage : SendStage := .ready

namespace Send

/-- How long a sender polls at a time: a tenth of a second. -/
def pollTick : Binary64 := .ofRatio 1 10

/-- What a fault of putting a message into the queue says to the sender. -/
def produceFault (f : Fault) : Fault :=
  match f with
  | .raised c text =>
    if (FaultClass.general c).isBuffer then .wrapping .broker ErrorCode.queueFull text else f
  | f => match f.clientError? with
    | some e => .broker e
    | none => f

/-- The outcome of a sender at its end. -/
def outcome? (s : Send) : Option (Except Fault Receipt) :=
  match s.stage with
  | .finished r => some r
  | _ => none

/-- The ticket of a sender, from the moment its message is put into the queue. -/
def ticket? (s : Send) : Option Ticket :=
  match s.stage with
  | .producing t _ | .looping t | .polling t _ | .waiting t | .collecting t => some t
  | .ready | .finished _ => none

variable {σ : Type} (L : Library σ)

/-- The call that puts the message into the queue. -/
def produceCall (s : Send) (t : Ticket) : Call :=
  .produce s.message (some t)

/-- The call that polls for reports. -/
def pollCall : Call :=
  .pollReports (.atMost pollTick)

/-- One atomic step of a sender. -/
def step (s : Send) (w : World σ) : Send × World σ :=
  match s.stage with
  | .ready =>
    let (t, w) := w.addWaiter
    let (es, w) := World.begin L s.client (s.produceCall t) w
    ({ s with stage := .producing t es }, w)
  | .producing t (e :: es) =>
    match World.handle L s.client e w with
    | (.ok _, w) => ({ s with stage := .producing t es }, w)
    | (.error f, w) => ({ s with stage := .finished (.error (produceFault f)) }, w)
  | .producing t [] =>
    match World.finish L s.client (s.produceCall t) w with
    | (.ok _, w) => ({ s with stage := .looping t }, w)
    | (.error f, w) => ({ s with stage := .finished (.error (produceFault f)) }, w)
  | .looping t =>
    let (es, w) := World.begin L s.client pollCall w
    ({ s with stage := .polling t es }, w)
  | .polling t (e :: es) =>
    match World.handle L s.client e w with
    | (.ok _, w) => ({ s with stage := .polling t es }, w)
    | (.error f, w) => ({ s with stage := .finished (.error f) }, w)
  | .polling t [] =>
    match World.finish L s.client pollCall w with
    | (.ok _, w) => ({ s with stage := .waiting t }, w)
    | (.error f, w) => ({ s with stage := .finished (.error f) }, w)
  | .waiting t =>
    ({ s with stage := if (w.waiter t).isDone then .collecting t else .looping t }, w)
  | .collecting t => ({ s with stage := .finished (w.waiter t).receipt }, w)
  | .finished _ => (s, w)

/-- Runs a sender alone, for at most `fuel` steps. There is no answer if it has not come to its end
by then. -/
def run : Nat → Send → Action (World σ) (Option Receipt)
  | 0, _ => pure none
  | fuel + 1, s => fun w =>
    match s.stage with
    | .finished (.ok r) => (.ok (some r), w)
    | .finished (.error f) => (.error f, w)
    | _ => match step L s w with
      | (s, w) => run fuel s w

end Send

end KafkaHandles
