import KafkaHandles.Client.Library

/-!
# The world of clients

The state that handles share: the client library's own state, a journal of everything that was asked
of it, the waiters of the messages that were sent, the start rules that the clients hold, the log,
and the stop flags. A call is entered into the journal before it acts. What happens while it is
under way is dealt with in order, and a fault of that ends the call.
-/

namespace KafkaHandles

/-- An entry of the journal. -/
inductive Entry
  | called (client : ClientId) (c : Call)
  | delivered (client : ClientId) (note : DeliveryNote)

/-- The state that handles share. -/
structure World (σ : Type) where
  library : σ
  journal : List Entry := []
  waiters : List Waiter := []
  /-- For each client that was ever created, the start rule it holds. -/
  rules : List (Option StartRule) := []
  log : List LogRecord := []
  stops : List Bool := []

namespace World

variable {σ : Type}

/-! ## Parts of the world -/

/-- Enters something into the journal. -/
def enter (e : Entry) (w : World σ) : World σ :=
  { w with journal := w.journal ++ [e] }

/-- Writes a record into the log. -/
def record (r : LogRecord) (w : World σ) : World σ :=
  { w with log := w.log ++ [r] }

/-- Adds a waiter. -/
def addWaiter (w : World σ) : Ticket × World σ :=
  (w.waiters.length, { w with waiters := w.waiters ++ [.start] })

/-- Gives a report to the waiter with a ticket. -/
def resolve (t : Ticket) (r : DeliveryReport) (w : World σ) : World σ :=
  { w with waiters := w.waiters.modify t (·.resolve r) }

/-- The waiter with a ticket. -/
def waiter (w : World σ) (t : Ticket) : Waiter :=
  w.waiters.getD t .start

/-- Adds a stop flag. -/
def addStop (w : World σ) : StopId × World σ :=
  (w.stops.length, { w with stops := w.stops ++ [false] })

/-- Sets one stop flag, or all of them. -/
def setStop (flag : Option StopId) (w : World σ) : World σ :=
  match flag with
  | some i => { w with stops := w.stops.set i true }
  | none => { w with stops := w.stops.map fun _ => true }

/-- Whether a stop flag is set. -/
def isStopped (w : World σ) (flag : StopId) : Bool :=
  w.stops.getD flag false

/-- The start rule that a client holds. -/
def rule? (w : World σ) (id : ClientId) : Option StartRule :=
  (w.rules[id]?).join

/-! ## The log -/

/-- Writes a text into the log. -/
def say (logger : Logger) (level : Int) (text : String) : Action (World σ) Unit :=
  Action.modify (record { logger := logger.name, level, text := .ok text })

/-- Writes a line of the client library into the log. -/
def forward (l : LogLine) : Action (World σ) Unit := do
  let r ← Action.lift (l.record Logger.client.name)
  Action.modify (record r)

/-! ## Calls -/

variable (L : Library σ)

/-- Begins a call. The answer is what happens while it is under way. -/
def begin (id : ClientId) (c : Call) (w : World σ) : List Event × World σ :=
  let w := w.enter (.called id c)
  match L.serve id c w.library with
  | (es, library) => (es, { w with library })

/-- Ends a call with its answer. -/
def finish (id : ClientId) (c : Call) : Action (World σ) c.Answer := fun w =>
  match L.answer id c w.library with
  | (.ok v, library) => (.ok v, { w with library })
  | (.error f, library) => (.error (.ofClient f), { w with library })

/-- Makes a call during which nothing happens. -/
def request (id : ClientId) (c : Call) : Action (World σ) c.Answer := do
  Action.modify (enter (.called id c))
  finish L id c

/-- The longest a look-up of committed offsets may take, in seconds. -/
def lookupTimeout : Binary64 := .ofRatio 10 1

/-- The partitions with the offsets at which they start: the given one if an offset is committed,
and the rule's otherwise. -/
def place (rule : StartRule) (committed ps : List TopicPartition) : List TopicPartition :=
  ps.map fun p =>
    if (TopicPartition.offsetIn? committed p).getD (-1) < 0 then { p with offset := rule.start }
    else p

/-- Follows a start rule for assigned partitions. The answer is the partitions as they were
assigned. -/
def follow (id : ClientId) (rule : StartRule) (ps : List TopicPartition) :
    Action (World σ) (List TopicPartition) :=
  if ps.isEmpty then pure ps
  else do
    let committed ← request L id (.committed ps lookupTimeout)
    let placed := place rule committed ps
    if rule.incremental then request L id (.incrementalAssign placed)
    else request L id (.assign placed)
    say .consumer LogLevel.debug ("Assigned " ++ TopicPartition.shownAll placed)
    pure placed

/-- Assigns partitions to a client, which follows the rule it holds. -/
def rebalance (id : ClientId) (ps : List TopicPartition) :
    Action (World σ) (List TopicPartition) := do
  match (← Action.get).rule? id with
  | some rule => follow L id rule ps
  | none => pure ps

/-- Deals with what happens while a call of a client is under way. -/
def handle (id : ClientId) : Event → Action (World σ) Unit
  | .delivered note => Action.modify (enter (.delivered id note))
  | .report t r => Action.modify (resolve t r)
  | .rebalance ps => do
    let _ ← rebalance L id ps
    pure ()
  | .line l => forward l
  | .stop flag => Action.modify (setStop flag)

/-- Deals with events in order, up to the first fault. -/
def handleAll (id : ClientId) : List Event → Action (World σ) Unit
  | [] => pure ()
  | e :: es => do
    handle L id e
    handleAll id es

/-- Makes a call and deals with what happens during it. -/
def invoke (id : ClientId) (c : Call) : Action (World σ) c.Answer := fun w =>
  match begin L id c w with
  | (es, w) => (handleAll L id es).andThen (fun _ => finish L id c) w

/-- Creates a client. -/
def create (role : Role) (properties : Dict) : Action (World σ) ClientId := do
  let id := (← Action.get).rules.length
  Action.modify fun w => { w with rules := w.rules ++ [none] }
  request L id (.create role properties)
  pure id

/-- Subscribes a client to topics. If the client accepts, the rule takes the place of the one it
held; if it does not, that one stays. -/
def subscribe (id : ClientId) (topics : List String) (rule : Option StartRule) :
    Action (World σ) Unit := do
  request L id (.subscribe topics rule)
  Action.modify fun w => { w with rules := w.rules.set id rule }

end World

end KafkaHandles
