import KafkaHandles.Handle
import KafkaHandles.Producer.Send

/-!
# Producers

A producer owns one client until it is destroyed. Sending waits for the delivery report of the
message; flushing waits for all reports; destroying drops what is not reported yet.
-/

namespace KafkaHandles

/-- A producer, with its client until it is destroyed. -/
structure Producer where
  client : Option ClientId
  deriving DecidableEq, Repr

namespace Producer

/-- Whether the producer has been destroyed. -/
def closed (p : Producer) : Bool :=
  p.client.isNone

/-- The text of a producer. -/
def shown (p : Producer) : String :=
  if p.closed then "<Producer closed>" else "<Producer open>"

variable {σ : Type} (L : Library σ)

/-- Makes a producer. -/
def make (given : ConfigArgument) : Action (World σ) Producer := do
  let (id, _) ← Blueprint.producer.make L given
  pure ⟨some id⟩

/-- The client, unless the producer has been destroyed. -/
def native : Action (Producer × World σ) ClientId := do
  Action.lift (openClient .producer (← Action.get).1.client)

/-- Sends a message and waits for its delivery report, for at most `fuel` steps. -/
def send (fuel : Nat) (topic value key partition : Value) :
    Action (Producer × World σ) (Option Receipt) := do
  let id ← native
  let message ← Action.lift (Outgoing.check topic value key partition)
  (Send.run L fuel { client := id, message }).onSecond

/-- Waits for all messages to be reported. It is a broker error if some are left when the time is
up. -/
def flush (timeout : Value) : Action (Producer × World σ) Unit := do
  let id ← native
  let timeout ← Action.lift (Check.timeout timeout "timeout")
  let left : Int ← (World.invoke L id (.flush timeout)).onSecond
  if 0 < left then
    Action.fail (.broker (.ofCode ErrorCode.timedOut
      (some (toString left ++ " message(s) still in queue or transit"))))
  else pure ()

/-- How many messages are not reported yet. -/
def size : Action (Producer × World σ) Nat := do
  let id ← native
  (World.invoke L id .outstanding).onSecond

/-- Lets go of the client and drops the messages that are not reported yet. Their reports are served
before the client is gone. Destroying a producer again does nothing. -/
def destroy : Action (Producer × World σ) Unit := do
  match (← Action.get).1.client with
  | none => pure ()
  | some id => do
    Action.modify fun (p, w) => ({ p with client := none }, w)
    (World.invoke L id (.purge true true false)).onSecond
    let _ ← (World.invoke L id (.pollReports .instant)).onSecond
    (World.say .producer LogLevel.info "Destroyed producer").onSecond

end Producer

end KafkaHandles
