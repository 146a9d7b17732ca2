import KafkaHandles.Host

/-!
# Operations on handles

All that can be asked of a handle once it is made, as data: a run of a handle is a list of
operations with their arguments. An operation is performed on the handle itself, which may lack it,
or by the host function of its name.
-/

namespace KafkaHandles

/-- An operation on a handle. -/
inductive Operation
  | send (a : SendArguments)
  | subscribeByTopic (topic policy : Value)
  | subscribeAtOffset (topic partition offset : Value)
  | flush (timeout : Value)
  | poll (timeout : Value)
  | destroy
  | close
  /-- How many messages are not reported yet. -/
  | size
  /-- Whether there is a handle at all. -/
  | truth
  /-- The text of the handle. -/
  | text
  /-- Enters a scope that the handle guards. -/
  | enter
  /-- Leaves that scope, which closes the handle. -/
  | leave
  /-- An operation of the handles of a role, with arguments that do not fit it. -/
  | misapplied (role : Role) (name : String) (f : Fault)

/-- What an operation answers. -/
inductive Reply
  | value (v : Value)
  | handle (text : String)
  | polled (p : Polled)
  | receipt (r : Receipt)
  | partitions (ps : List TopicPartition)
  /-- A generator has no more messages. -/
  | finished
  /-- Something of no useful kind. -/
  | object
  /-- The operation has not come to its end within the steps allowed to it. -/
  | unfinished

namespace Reply

/-- A reply without content. -/
def nothing : Reply := .value .none

/-- The reply for a receipt that may not have come. -/
def ofReceipt : Option Receipt → Reply
  | some r => .receipt r
  | none => .unfinished

/-- The reply for the answer to a poll. -/
def ofPolled : Option Polled → Reply
  | some p => .polled p
  | none => nothing

/-- The reply for an item that may not have come. -/
def ofItem : Option Item → Reply
  | some (.message m) => .polled (.message m)
  | some .finished => .finished
  | none => .unfinished

end Reply

/-- The name of the kind of what is given as a handle. -/
def Handle.kindName : Option Handle → String
  | some h => h.role.title
  | none => Value.none.kindName

namespace Operation

/-! ## Operations by name -/

/-- The parameters of an operation: of the host function of its name, or of the handles' own. -/
def signature (byHost : Bool) (role : Role) (name : String) (parameters : List Parameter) :
    Signature where
  function := if byHost then name else role.title ++ "." ++ name
  parameters := parameters

/-- An operation by its arguments, unless they do not fit it. -/
def bind (byHost : Bool) (role : Role) (name : String) (parameters : List Parameter)
    (a : Arguments) (op : (String → Value) → Operation) : Operation :=
  let s := signature byHost role name parameters
  match s.check a with
  | .ok _ => op (s.value a)
  | .error f => .misapplied role name f

/-- Sending, by its arguments. -/
def sendBy (byHost : Bool) (a : Arguments) : Operation :=
  bind byHost .producer "send"
    [.needed "topic", .needed "value", .absent "key", .absent "partition"] a
    fun given => .send ⟨given "topic", given "value", given "key", given "partition"⟩

/-- Flushing, by its arguments. The host function needs a timeout. -/
def flushBy (byHost : Bool) (a : Arguments) : Operation :=
  if byHost then
    bind true .producer "flush" [.needed "timeout_ms"] a fun given => .flush (given "timeout_ms")
  else bind false .producer "flush" [.absent "timeout"] a fun given => .flush (given "timeout")

/-- Subscribing to a topic, by its arguments. -/
def subscribeByTopicBy (byHost : Bool) (a : Arguments) : Operation :=
  bind byHost .consumer "subscribe_by_topic" [.needed "topic", .absent "offset_policy"] a
    fun given => .subscribeByTopic (given "topic") (given "offset_policy")

/-- Reading a partition from an offset on, by its arguments. -/
def subscribeAtOffsetBy (byHost : Bool) (a : Arguments) : Operation :=
  bind byHost .consumer "subscribe_at_offset"
    [.needed "topic", .needed "partition", .needed "offset"] a
    fun given => .subscribeAtOffset (given "topic") (given "partition") (given "offset")

/-- Polling, by its arguments. The host function needs a timeout. -/
def pollBy (byHost : Bool) (a : Arguments) : Operation :=
  if byHost then
    bind true .consumer "poll" [.needed "timeout_ms"] a fun given => .poll (given "timeout_ms")
  else
    bind false .consumer "poll" [⟨"timeout", some Consumer.defaultTimeout⟩] a
      fun given => .poll (given "timeout")

/-! ## Performing operations -/

variable {σ : Type}

/-- What is given as a handle lacks an operation. -/
def lacking {α : Type} (name : String) : Action (Option Handle × World σ) α := do
  Action.fail (.attributeMissing (Handle.kindName (← Action.get).1) name)

/-- What is given as a handle has no length. -/
def lengthLacking {α : Type} : Action (Option Handle × World σ) α := do
  Action.fail (.lengthMissing (Handle.kindName (← Action.get).1))

variable (L : Library σ) (fuel : Nat)

/-- Performs an operation on what is given as a handle. -/
def perform : Operation → Action (Option Handle × World σ) Reply
  | send a => do
    let r ← Host.onProducer (Producer.send L fuel a.topic a.value a.key a.partition)
      (lacking "send")
    pure (Reply.ofReceipt r)
  | subscribeByTopic topic policy => do
    Host.onConsumer (Consumer.subscribeByTopic L topic policy) (lacking "subscribe_by_topic")
    pure Reply.nothing
  | subscribeAtOffset topic partition offset => do
    Host.onConsumer (Consumer.subscribeAtOffset L topic partition offset)
      (lacking "subscribe_at_offset")
    pure Reply.nothing
  | flush timeout => do
    Host.onProducer (Producer.flush L timeout) (lacking "flush")
    pure Reply.nothing
  | poll timeout => do
    let p ← Host.onConsumer (Consumer.poll L timeout) (lacking "poll")
    pure (Reply.ofPolled p)
  | destroy => do
    Host.onProducer (Producer.destroy L) (lacking "destroy")
    pure Reply.nothing
  | close => do
    Host.onConsumer (Consumer.close L) (lacking "close")
    pure Reply.nothing
  | size => do
    let n : Nat ← Host.onProducer (Producer.size L) lengthLacking
    pure (.value (.int n))
  | truth => do
    let given : Option Handle := (← Action.get).1
    pure (.value (.bool given.isSome))
  | text => do
    match (← Action.get).1 with
    | some h => pure (.value (.text h.shown))
    | none => pure (.value (.text "None"))
  | enter => do
    match (← Action.get).1 with
    | some _ => pure (.value (.bool true))
    | none => lacking "__enter__"
  | leave => do
    Host.onProducer (Producer.destroy L) (Host.onConsumer (Consumer.close L) (lacking "__exit__"))
    pure Reply.nothing
  | misapplied .producer name f => Host.onProducer (Action.fail f) (lacking name)
  | misapplied .consumer name f => Host.onConsumer (Action.fail f) (lacking name)

/-- Performs an operation by the host function of its name, if there is one. -/
def performByHost : Operation → Action (Option Handle × World σ) Reply
  | send a => do
    let r ← Host.send L fuel a.topic a.value a.key a.partition
    pure (Reply.ofReceipt r)
  | subscribeByTopic topic policy => do
    Host.subscribeByTopic L topic policy
    pure Reply.nothing
  | subscribeAtOffset topic partition offset => do
    Host.subscribeAtOffset L topic partition offset
    pure Reply.nothing
  | flush timeout => do
    Host.flush L timeout
    pure Reply.nothing
  | poll timeout => do
    let p ← Host.poll L timeout
    pure (Reply.ofPolled p)
  | destroy => do
    Host.destroy L
    pure Reply.nothing
  | close => do
    Host.close L
    pure Reply.nothing
  | misapplied _ _ f => Action.fail f
  | op => perform L fuel op

end Operation

end KafkaHandles
