import KafkaHandles.LogLine
import KafkaHandles.Waiter

/-!
# Client libraries

What this library needs of a client library: the calls that are made on its clients, what each call
answers, and what may happen while a call is under way. A client library is any state with a way to
serve and to answer calls; nothing is assumed of how it does either.
-/

namespace KafkaHandles

/-- The number of a client, counted from zero in the order of creation. -/
abbrev ClientId := Nat

/-- The number of a waiter, which marks the message it waits for. -/
abbrev Ticket := Nat

/-- The number of a stop flag. -/
abbrev StopId := Nat

/-- A partition of a topic with an offset. -/
structure TopicPartition where
  topic : String
  partition : Int
  offset : Int
  deriving DecidableEq, Repr

namespace TopicPartition

/-- A partition as clients take it: the topic holds no NUL, the partition fits into 32 bits and the
offset into 64. -/
def make (topic : String) (partition offset : Int) : Except Fault TopicPartition :=
  if topic.toList.contains (Char.ofNat 0) then .error .textHoldsNul
  else
    match Check.int32 partition with
    | .error f => .error f
    | .ok partition =>
      if Number.fits Number.int64Bound offset then .ok ⟨topic, partition, offset⟩
      else .error .offsetBeyondInt64

/-- A partition as a log line shows it. -/
def shown (p : TopicPartition) : String :=
  "TopicPartition\x7btopic=" ++ p.topic ++ ",partition=" ++ toString p.partition ++ ",offset=" ++
    toString p.offset ++ ",leader_epoch=None,error=None\x7d"

/-- Partitions as a log line shows them. -/
def shownAll (ps : List TopicPartition) : String :=
  "[" ++ Text.join ", " (ps.map shown) ++ "]"

/-- The offset that a list gives for the partition of `p`; the last entry counts. -/
def offsetIn? (ps : List TopicPartition) (p : TopicPartition) : Option Int :=
  (ps.reverse.find? fun q => q.topic == p.topic && q.partition == p.partition).map (·.offset)

end TopicPartition

/-- A message to produce. What handles send has bytes for its value, and bytes or nothing for its
key. -/
structure Outgoing where
  topic : String
  value : Value
  key : Value
  partition : Option Int

/-- A message as a client hands it over: its key and value may be of any kind, and it may stand for
an error. -/
structure Fetched where
  topic : String
  partition : Int
  offset : Int
  key : Value
  value : Value
  error : Option ClientError

/-- What to do when partitions are assigned to a member of a group: those without a committed offset
start at `start`, and the assignment is made step by step if it is `incremental`. -/
structure StartRule where
  start : Int
  incremental : Bool
  deriving DecidableEq, Repr

/-- How long a call may wait. -/
inductive Wait
  | forever
  | atMost (seconds : Binary64)
  /-- Not at all. -/
  | instant
  deriving DecidableEq, Repr

/-- A call on a client. -/
inductive Call
  /-- Creates the client, with its properties. -/
  | create (role : Role) (properties : Dict)
  /-- Puts a message into the queue; the ticket tells whom to report to. -/
  | produce (m : Outgoing) (ticket : Option Ticket)
  /-- Serves delivery reports. -/
  | pollReports (wait : Wait)
  /-- Waits for all messages to be reported. -/
  | flush (timeout : Option Binary64)
  /-- Drops messages that are not reported. -/
  | purge (inQueue inFlight blocking : Bool)
  /-- Counts the messages that are not reported. -/
  | outstanding
  /-- Joins the group for topics, with a rule for assigned partitions or none. -/
  | subscribe (topics : List String) (rule : Option StartRule)
  /-- Assigns partitions in place of those assigned before. -/
  | assign (ps : List TopicPartition)
  /-- Assigns partitions in addition to those assigned before. -/
  | incrementalAssign (ps : List TopicPartition)
  /-- Looks up the committed offsets of partitions. -/
  | committed (ps : List TopicPartition) (timeout : Binary64)
  /-- Fetches a message. -/
  | pollMessage (wait : Wait)
  /-- Commits offsets, leaves the group and closes the client. -/
  | close

/-- What a call answers. -/
abbrev Call.Answer : Call → Type
  | .pollReports _ => Nat
  | .flush _ => Int
  | .outstanding => Nat
  | .committed .. => List TopicPartition
  | .pollMessage _ => Option Fetched
  | _ => Unit

/-- The delivery of a message as the client tells it: where it went, or the code of an error. -/
structure DeliveryNote where
  topic : String
  partition : Int
  offset : Int
  code : Option Int
  deriving DecidableEq, Repr

/-- What may happen while a call is under way. -/
inductive Event
  /-- The client notes a delivery. -/
  | delivered (note : DeliveryNote)
  /-- The client reports on the message with a ticket. -/
  | report (ticket : Ticket) (r : DeliveryReport)
  /-- Partitions are assigned to the client. -/
  | rebalance (ps : List TopicPartition)
  /-- The client hands over a log line. -/
  | line (l : LogLine)
  /-- Somebody sets one stop flag, or all of them. -/
  | stop (flag : Option StopId)

/-- A client library with states in `σ`. Serving a call says what happens while it is under way;
answering it, after all of this has happened, ends it. -/
structure Library (σ : Type) where
  serve : ClientId → Call → σ → List Event × σ
  answer : ClientId → (c : Call) → σ → Except ClientFault c.Answer × σ

end KafkaHandles
