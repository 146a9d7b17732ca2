import KafkaHandles.Consumer.Basic

/-!
# Streams

A stream yields the messages of a consumer one at a time. Between two messages it polls as often as
it takes, passing over empty polls and ends of partitions, until its stop flag is seen set at the
head of a round. It counts its polls and messages and tells the log about every message and after
every tenth poll.
-/

namespace KafkaHandles

/-- Where a stream stands. -/
inductive StreamStatus
  /-- Nothing has been asked of it, or its last message has been yielded. -/
  | suspended
  /-- It has come to its end, by its stop flag, by a fault, or because it was given up. -/
  | ended
  deriving DecidableEq, Repr

/-- A stream: the timeout of its polls, its stop flag if it has one, its counters, and where it
stands. -/
structure Stream where
  timeout : Value
  stop : Option StopId
  polls : Nat := 0
  messages : Nat := 0
  status : StreamStatus := .suspended

/-- What asking for the next message gives. -/
inductive Item
  | message (m : Message)
  /-- There are no more messages. -/
  | finished
  deriving DecidableEq, Repr

namespace Stream

/-- The log line about a message. -/
def messageText (number : Nat) (m : Message) : String :=
  "Polled message #" ++ toString number ++ ": topic=" ++ m.topic ++ ", partition=" ++
    toString m.partition ++ ", offset=" ++ toString m.offset

/-- The log line about progress. -/
def progressText (polls messages : Nat) : String :=
  "Polled " ++ toString polls ++ " times, received " ++ toString messages ++ " messages"

/-- The log line about the end. -/
def stoppedText (polls messages : Nat) : String :=
  "Consumer stream stopped: polled " ++ toString polls ++ " times, received " ++
    toString messages ++ " messages"

variable {σ : Type} (L : Library σ)

/-- Whether the stop flag is set. -/
def isStopped (s : Stream) (w : World σ) : Bool :=
  match s.stop with
  | some flag => w.isStopped flag
  | none => false

/-- Writes a text of a stream into the log. -/
def say (level : Int) (text : String) : Action (Stream × Consumer × World σ) Unit :=
  ((World.say .consumer level text).onSecond).onSecond

/-- What a round makes of the answer to its poll: an item for a message, and nothing otherwise. -/
def received (polled : Option Polled) : Action (Stream × Consumer × World σ) (Option Item) := do
  Action.modify fun (s, rest) => ({ s with polls := s.polls + 1 }, rest)
  match polled with
  | some (.message m) => do
    Action.modify fun (s, rest) => ({ s with messages := s.messages + 1 }, rest)
    say LogLevel.debug (messageText (← Action.get).1.messages m)
    pure (some (.message m))
  | _ => do
    let s := (← Action.get).1
    if s.polls % 10 = 0 then say LogLevel.debug (progressText s.polls s.messages) else pure ()
    pure none

/-- One round: a look at the stop flag, and a poll unless it is set. -/
def round : Action (Stream × Consumer × World σ) (Option Item) := do
  let (s, _, w) ← Action.get
  if s.isStopped w then
    say LogLevel.info (stoppedText s.polls s.messages)
    pure (some .finished)
  else
    received (← (Consumer.poll L s.timeout).onSecond)

/-- Rounds until one has an item, at most `fuel` of them. -/
def rounds : Nat → Action (Stream × Consumer × World σ) (Option Item)
  | 0 => pure none
  | fuel + 1 => do
    match ← round L with
    | some item => pure (some item)
    | none => rounds fuel

/-- Ends a stream. -/
def finish (s : Stream) : Stream :=
  { s with status := .ended }

/-- The next message of a stream. Once the stream has come to its end there is none. There is no
answer if none has come within `fuel` rounds. -/
def next (fuel : Nat) : Action (Stream × Consumer × World σ) (Option Item) := fun t =>
  match t.1.status with
  | .ended => (.ok (some .finished), t)
  | .suspended =>
    match rounds L fuel t with
    | (.ok (some .finished), (s, rest)) => (.ok (some .finished), (s.finish, rest))
    | (.ok r, t) => (.ok r, t)
    | (.error f, (s, rest)) => (.error f, (s.finish, rest))

end Stream

end KafkaHandles
