import KafkaHandles.Client.Library

/-!
# Scripts

What a scripted client is to do, as queues that its calls take from: faults by method, plans for the
delivery of messages, answers to flushing, outcomes of polls, and the offsets that are committed.
-/

namespace KafkaHandles

/-- The methods that a script can give faults to. -/
inductive Method
  | create
  | produce
  | poll
  | flush
  | purge
  | subscribe
  | assign
  | incrementalAssign
  | committed
  | close
  deriving DecidableEq, Repr

/-- The method of a call, if a script can give it faults. -/
def Call.method? : Call → Option Method
  | .create .. => some .create
  | .produce .. => some .produce
  | .pollReports _ | .pollMessage _ => some .poll
  | .flush _ => some .flush
  | .purge .. => some .purge
  | .outstanding => none
  | .subscribe .. => some .subscribe
  | .assign _ => some .assign
  | .incrementalAssign _ => some .incrementalAssign
  | .committed .. => some .committed
  | .close => some .close

/-- How a message is delivered: after how many polls that pass it over, with which partition, offset
and error, whether reports carry the message, and which reports follow the first. -/
structure DeliveryPlan where
  polls : Nat := 0
  partition : Option Int := none
  offset : Option Int := none
  error : Option ClientError := none
  withoutMessage : Bool := false
  again : List DeliveryReport := []

/-- What a poll of a consumer comes to: first the stop flags, then a log line, then a rebalance,
then a fault, and last a message. -/
structure PollPlan where
  stop : Bool := false
  line : Option LogLine := none
  rebalance : Option (List (String × Int × Int)) := none
  fault : Option ClientFault := none
  message : Option Fetched := none

/-- A script. Messages for which no plan is left follow the standing one, and fail with the errors
of their topics. -/
structure Script where
  faults : List (Method × Option ClientFault) := []
  plans : List DeliveryPlan := []
  standing : DeliveryPlan := {}
  failing : List (String × ClientError) := []
  flushes : List Int := []
  polls : List PollPlan := []
  committed : List TopicPartition := []
  omitted : List (String × Int) := []

namespace Script

/-- A script with the queues of another one added at the end of its own. -/
def append (a b : Script) : Script :=
  { a with
    faults := a.faults ++ b.faults
    plans := a.plans ++ b.plans
    flushes := a.flushes ++ b.flushes
    polls := a.polls ++ b.polls
    committed := a.committed ++ b.committed
    omitted := a.omitted ++ b.omitted }

/-- The plan for the next message, which goes to a topic. -/
def planFor (topic : String) (s : Script) : DeliveryPlan :=
  match s.plans with
  | p :: _ => p
  | [] => match s.failing.find? fun e => e.1 == topic with
    | some e => { s.standing with error := some e.2 }
    | none => s.standing

/-- Takes the next fault of a method out of a queue. An entry without a fault lets one call pass. -/
def takeFrom (m : Method) : List (Method × Option ClientFault) →
    Option ClientFault × List (Method × Option ClientFault)
  | [] => (none, [])
  | e :: es =>
    if e.1 = m then (e.2, es)
    else match takeFrom m es with
      | (f, es) => (f, e :: es)

/-- Takes the next fault of a method. -/
def takeFault (m : Method) (s : Script) : Option ClientFault × Script :=
  match takeFrom m s.faults with
  | (f, faults) => (f, { s with faults })

end Script

end KafkaHandles
