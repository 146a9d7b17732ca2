import KafkaHandles.Check
import KafkaHandles.Handle

/-!
# Consumers

A consumer owns one client until it is closed. It reads either as a member of a group or a partition
that the caller assigns; the first accepted request of one kind excludes the other. A poll answers
with a message, the end of a partition, or nothing.
-/

namespace KafkaHandles

/-- A consumer: its client until it is closed, the mode it is in, the policy it was made with, and
whether assignments are made step by step. -/
structure Consumer where
  client : Option ClientId
  mode : Option Mode
  policy : OffsetPolicy
  incremental : Bool
  deriving DecidableEq, Repr

/-- What a poll answers with, if it answers with anything. -/
inductive Polled
  | message (m : Message)
  | partitionEnd (e : PartitionEnd)
  deriving DecidableEq, Repr

namespace Consumer

/-- Whether the consumer has been closed. -/
def closed (c : Consumer) : Bool :=
  c.client.isNone

/-- The text of a consumer. -/
def shown (c : Consumer) : String :=
  if c.closed then "<Consumer closed>" else "<Consumer open>"

/-- What a fault of the client says to the caller of a consumer. -/
def brokerFault (f : Fault) : Fault :=
  match f.clientError? with
  | some e => .broker e
  | none => f

/-- What the answer to a poll comes to. -/
def classify (m : Option Fetched) : Except Fault (Option Polled) :=
  match m with
  | none => .ok none
  | some m => match m.error with
    | some e =>
      if e.code = ErrorCode.partitionEnd then
        .ok (some (.partitionEnd ⟨m.topic, m.partition, m.offset⟩))
      else .error (.broker e)
    | none => do
      let key ← Check.bytesOrNone m.key "key"
      let value ← Check.bytesOrNone m.value "value"
      .ok (some (.message ⟨key, value, m.topic, m.partition, m.offset⟩))

variable {σ : Type} (L : Library σ)

/-- Makes a consumer. How it changes assignments is looked up when its client is there already. -/
def make (given : ConfigArgument) : Action (World σ) Consumer := do
  let (id, c) ← Blueprint.consumer.make L given
  let incremental ← Action.lift (Config.isIncremental c.properties)
  pure { client := some id, mode := none, policy := c.policy, incremental }

/-- The client, unless the consumer has been closed. -/
def native : Action (Consumer × World σ) ClientId := do
  Action.lift (openClient .consumer (← Action.get).1.client)

/-- Refuses a request for a mode if the consumer is in the other one. -/
def checkMode (mode : Mode) : Action (Consumer × World σ) Unit := do
  match (← Action.get).1.mode with
  | some taken => if taken = mode then pure () else Action.refuse (.modeTaken taken)
  | none => pure ()

/-- Puts the consumer into a mode. -/
def enterMode (mode : Mode) : Action (Consumer × World σ) Unit :=
  Action.modify fun (c, w) => ({ c with mode := some mode }, w)

/-- The policy of a subscription: the consumer's own if none is given. -/
def effectivePolicy (c : Consumer) (policy : Value) : Except Fault OffsetPolicy :=
  match policy with
  | .none => .ok c.policy
  | v => OffsetPolicy.parse v

/-- The rule for assigned partitions under a policy. The consumer's own policy needs none. -/
def ruleFor (c : Consumer) (policy : OffsetPolicy) : Option StartRule :=
  if policy = c.policy then none else some ⟨policy.startOffset, c.incremental⟩

/-- Joins the group and subscribes to a topic. -/
def subscribeByTopic (topic policy : Value) : Action (Consumer × World σ) Unit := do
  let id ← native
  let topic ← Action.lift (Check.text topic "topic")
  let c := (← Action.get).1
  let policy ← Action.lift (c.effectivePolicy policy)
  checkMode .subscribe
  ((World.subscribe L id [topic] (c.ruleFor policy)).onSecond).mapFault brokerFault
  enterMode .subscribe
  (World.say .consumer LogLevel.info
    ("Subscribed to topic=" ++ topic ++ " with offset policy=" ++ policy.word)).onSecond

/-- Reads a partition from an offset on, without the group. -/
def subscribeAtOffset (topic partition offset : Value) : Action (Consumer × World σ) Unit := do
  let id ← native
  let topic ← Action.lift (Check.text topic "topic")
  let partition ← Action.lift (Check.natural partition "partition")
  let offset ← Action.lift (Check.integer offset "offset")
  checkMode .assign
  let place ← Action.lift (TopicPartition.make topic partition offset)
  ((World.request L id (.assign [place])).onSecond).mapFault brokerFault
  enterMode .assign
  (World.say .consumer LogLevel.info
    ("Assigned topic=" ++ topic ++ " partition=" ++ toString partition ++ " at offset=" ++
      toString offset)).onSecond

/-- The timeout of a poll for which none is given: a second. -/
def defaultTimeout : Value := .float (.ofRatio 1 1)

/-- How long a poll with a timeout waits. -/
def waitFor (timeout : Option Binary64) : Wait :=
  match timeout with
  | some x => .atMost x
  | none => .forever

/-- Waits for the next message. -/
def poll (timeout : Value) : Action (Consumer × World σ) (Option Polled) := do
  let id ← native
  let timeout ← Action.lift (Check.timeout timeout "timeout")
  let fetched : Option Fetched ←
    ((World.invoke L id (.pollMessage (waitFor timeout))).onSecond).mapFault brokerFault
  Action.lift (classify fetched)

/-- Whether closing a consumer goes on after a fault of the client. -/
def isAbsorbed (f : Fault) : Bool :=
  f.cls.isClient || f.cls.isRuntime

/-- Lets go of the client and closes it, which commits offsets and leaves the group. Failures to do
so are logged. Closing a consumer again does nothing. -/
def close : Action (Consumer × World σ) Unit := do
  match (← Action.get).1.client with
  | none => pure ()
  | some id => do
    Action.modify fun (c, w) => ({ c with client := none }, w)
    match ← ((World.invoke L id .close).onSecond).attempt with
    | .ok _ => pure ()
    | .error f =>
      if isAbsorbed f then
        (World.say .consumer LogLevel.warning
          ("Failed to close consumer cleanly: " ++ f.logText)).onSecond
      else Action.fail f
    (World.say .consumer LogLevel.info "Closed consumer").onSecond

end Consumer

end KafkaHandles
