import KafkaHandles.Consumer.Reading
import KafkaHandles.Producer.Basic

/-!
# Functions on handles

The operations as functions for a host program. Each takes the handle it works on, which may be
absent or of the wrong kind, and gives timeouts in milliseconds. The handle is looked at first, then
the timeout, and then whether the handle is still open.
-/

namespace KafkaHandles

/-- A handle of either kind. -/
inductive Handle
  | producer (p : Producer)
  | consumer (c : Consumer)
  deriving DecidableEq, Repr

namespace Handle

/-- Whether the handle has been closed. -/
def closed : Handle → Bool
  | .producer p => p.closed
  | .consumer c => c.closed

/-- The text of a handle. -/
def shown : Handle → String
  | .producer p => p.shown
  | .consumer c => c.shown

/-- The role of a handle. -/
def role : Handle → Role
  | .producer _ => .producer
  | .consumer _ => .consumer

end Handle

namespace Host

variable {σ α : Type} (L : Library σ)

/-- An operation of producers on what is given as a handle; everything else goes to `otherwise`. -/
def onProducer (a : Action (Producer × World σ) α)
    (otherwise : Action (Option Handle × World σ) α) : Action (Option Handle × World σ) α
  | (some (.producer p), w) => match a (p, w) with
    | (r, (p, w)) => (r, (some (.producer p), w))
  | t => otherwise t

/-- An operation of consumers on what is given as a handle; everything else goes to `otherwise`. -/
def onConsumer (a : Action (Consumer × World σ) α)
    (otherwise : Action (Option Handle × World σ) α) : Action (Option Handle × World σ) α
  | (some (.consumer c), w) => match a (c, w) with
    | (r, (c, w)) => (r, (some (.consumer c), w))
  | t => otherwise t

/-- Refuses what is given as a handle. -/
def expected (role : Role) : Action (Option Handle × World σ) α :=
  Action.refuse (.handleExpected role)

/-- Does nothing without a handle, and refuses one of the wrong kind. -/
def expectedOrNone (role : Role) : Action (Option Handle × World σ) Unit := do
  match (← Action.get).1 with
  | none => pure ()
  | some _ => expected role

/-- Sends a message. -/
def send (fuel : Nat) (topic value key partition : Value) :
    Action (Option Handle × World σ) (Option Receipt) :=
  onProducer (Producer.send L fuel topic value key partition) (expected .producer)

/-- Waits for all messages to be reported. -/
def flush (timeoutMs : Value) : Action (Option Handle × World σ) Unit :=
  onProducer (do
    let seconds ← Action.lift (Check.milliseconds timeoutMs)
    Producer.flush L (.float seconds)) (expected .producer)

/-- Destroys a producer, if there is one. -/
def destroy : Action (Option Handle × World σ) Unit :=
  onProducer (Producer.destroy L) (expectedOrNone .producer)

/-- Subscribes to a topic. -/
def subscribeByTopic (topic policy : Value) : Action (Option Handle × World σ) Unit :=
  onConsumer (Consumer.subscribeByTopic L topic policy) (expected .consumer)

/-- Reads a partition from an offset on. -/
def subscribeAtOffset (topic partition offset : Value) : Action (Option Handle × World σ) Unit :=
  onConsumer (Consumer.subscribeAtOffset L topic partition offset) (expected .consumer)

/-- Waits for the next message. -/
def poll (timeoutMs : Value) : Action (Option Handle × World σ) (Option Polled) :=
  onConsumer (do
    let seconds ← Action.lift (Check.milliseconds timeoutMs)
    Consumer.poll L (.float seconds)) (expected .consumer)

/-- Closes a consumer, if there is one. -/
def close : Action (Option Handle × World σ) Unit :=
  onConsumer (Consumer.close L) (expectedOrNone .consumer)

/-- The parameters of a producer that is made by separate arguments. -/
def producerSignature : Signature where
  function := "create_producer"
  parameters := [.needed "bootstrap_servers", .absent "ca_location",
    .absent "certificate_location", .absent "key_location", .absent "properties"]

/-- Makes a producer from separate arguments. -/
def makeProducer (a : Arguments) : Action (World σ) Producer := do
  let s ← Action.lift (Config.Settings.ofArguments producerSignature a)
  let c ← Action.lift (Config.build { s with role := .role .producer })
  Producer.make L (.config c)

/-- The parameters of a consumer that is made by separate arguments. -/
def consumerSignature : Signature where
  function := "create_consumer"
  parameters := [.needed "bootstrap_servers", .needed "group_id", .absent "ca_location",
    .absent "certificate_location", .absent "key_location", .absent "offset_policy",
    .absent "properties"]

/-- Makes a consumer from separate arguments. -/
def makeConsumer (a : Arguments) : Action (World σ) Consumer := do
  let s ← Action.lift (Config.Settings.ofArguments consumerSignature a)
  let c ← Action.lift (Config.build { s with role := .role .consumer })
  Consumer.make L (.config c)

/-- The version of the client library, which reports it as a text and as a number. -/
def version (reported : String × Int) : String :=
  reported.1

end Host

end KafkaHandles
