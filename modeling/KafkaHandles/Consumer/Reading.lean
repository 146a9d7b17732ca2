import KafkaHandles.Consumer.Stream

/-!
# Readings

A reading makes a consumer of its own, subscribes it, and yields its messages. The consumer is made
when the first message is asked for, and it is closed when the reading comes to its end, however it
does: by its stop flag, by a fault, or because it is given up.
-/

namespace KafkaHandles

/-- The timeout of the polls of a reading for which none is given, in milliseconds. -/
def Reading.defaultTimeoutMs : Value := .int 1000

/-- What a reading is asked to do. A partition and an offset are given together or not at all. -/
structure ReadingRequest where
  config : ConfigArgument
  topic : Value
  policy : Value := .none
  partition : Value := .none
  offset : Value := .none
  timeoutMs : Value := Reading.defaultTimeoutMs
  stop : Option StopId := none

/-- The parameters of a reading that follow its configuration. -/
def Reading.signature : Signature where
  function := "consume_from"
  parameters := [.needed "topic", .absent "offset_policy", .absent "partition", .absent "offset",
    ⟨"timeout_ms", some Reading.defaultTimeoutMs⟩]
  preceding := 1

/-- What a reading is asked to do, by named arguments. -/
def ReadingRequest.ofArguments (config : ConfigArgument) (a : Arguments) :
    Except Fault ReadingRequest := do
  Reading.signature.check a
  let given := Reading.signature.value a
  .ok {
    config
    topic := given "topic"
    policy := given "offset_policy"
    partition := given "partition"
    offset := given "offset"
    timeoutMs := given "timeout_ms" }

/-- Where a reading stands. -/
inductive ReadingPhase
  /-- Nothing has been asked of it. -/
  | unstarted
  /-- It has yielded a message of its consumer. -/
  | reading (c : Consumer) (s : Stream)
  /-- It has come to its end. -/
  | ended

/-- A reading: what it is asked to do, and where it stands. -/
structure Reading where
  request : ReadingRequest
  phase : ReadingPhase := .unstarted

namespace Reading

variable {σ : Type} (L : Library σ)

/-- Puts a reading into a phase. -/
def enterPhase (phase : ReadingPhase) : Action (Reading × World σ) Unit :=
  Action.modify fun (r, w) => ({ r with phase }, w)

/-- Subscribes the consumer of a reading. -/
def subscribe (q : ReadingRequest) : Action (Consumer × World σ) Unit :=
  if q.partition.isNone then Consumer.subscribeByTopic L q.topic q.policy
  else Consumer.subscribeAtOffset L q.topic q.partition q.offset

/-- Goes on with an open consumer. At an end or a fault the consumer is closed, and a fault of
closing it takes the place of the outcome. -/
def advance (c : Consumer) (s : Stream)
    (body : Action (Stream × Consumer × World σ) (Option Item)) :
    Action (Reading × World σ) (Option Item) := fun (r, w) =>
  match body (s, c, w) with
  | (.ok (some (.message m)), (s, c, w)) =>
    (.ok (some (.message m)), ({ r with phase := .reading c s }, w))
  | (.ok none, (s, c, w)) => (.ok none, ({ r with phase := .reading c s }, w))
  | (outcome, (_, c, w)) =>
    match Consumer.close L (c, w) with
    | (.ok _, (_, w)) => (outcome, ({ r with phase := .ended }, w))
    | (.error f, (_, w)) => (.error f, ({ r with phase := .ended }, w))

/-- Checks the request and makes the consumer. -/
def start (q : ReadingRequest) : Action (World σ) (Consumer × Stream) := do
  if q.partition.isNone != q.offset.isNone then Action.refuse .placeIncomplete
  else
    let timeout ← Action.lift (Check.milliseconds q.timeoutMs)
    let c ← Consumer.make L q.config
    pure (c, { timeout := .float timeout, stop := q.stop })

/-- The next message of a reading. -/
def next (fuel : Nat) : Action (Reading × World σ) (Option Item) := do
  let r := (← Action.get).1
  match r.phase with
  | .ended => pure (some .finished)
  | .unstarted => do
    enterPhase .ended
    let (c, s) ← (start L r.request).onSecond
    advance L c s do
      (subscribe L r.request).onSecond
      Stream.next L fuel
  | .reading c s => advance L c s (Stream.next L fuel)

/-- Gives a reading up. Its consumer is closed if it has one. -/
def giveUp : Action (Reading × World σ) Unit := do
  match (← Action.get).1.phase with
  | .reading c _ => do
    enterPhase .ended
    (Action.startingAt c (Consumer.close L)).onSecond
  | _ => enterPhase .ended

end Reading

end KafkaHandles
