import KafkaHandles.Scripted.Script

/-!
# Scripted clients

Clients that follow a script. A producer keeps the messages that are not reported yet, each with the
number of polls that still pass it over, and numbers the messages of every partition. A consumer
answers polls from its script, and for a while with nothing once the script has run out.
-/

namespace KafkaHandles

/-- A message that is not reported yet. -/
structure PendingMessage where
  topic : String
  partition : Int
  ticket : Option Ticket
  plan : DeliveryPlan
  countdown : Nat

/-- How a call that has been served is going to be answered. -/
inductive Verdict
  | nothing
  | fault (f : ClientFault)
  | count (n : Nat)
  | left (n : Int)
  | fetched (m : Option Fetched)

/-- A scripted client. -/
structure ScriptedClient where
  label : String
  role : Role
  script : Script
  pending : List PendingMessage := []
  /-- The next offset of each partition that has one. -/
  offsets : List ((String × Int) × Int) := []
  /-- How many polls have come after the end of the script. -/
  idlePolls : Nat := 0
  verdict : Verdict := .nothing

namespace ScriptedClient

/-! ## Producing -/

/-- The partition that a key selects: the first without a key, and by the sum of its bytes with one.
Other keys than bytes have no sum, unless they hold nothing. -/
def keyPartition (key : Value) : Except ClientFault Int :=
  match key with
  | .none => .ok 0
  | .bytes bs | .buffer bs | .view bs => .ok (bs.foldl (fun n b => n + b.toNat) 0 % 3 : Nat)
  | .text s =>
    if s.isEmpty then .ok 0
    else .error (.raised .type "unsupported operand type(s) for +: 'int' and 'str'")
  | v => .error (.raised .type ("'" ++ v.kindName ++ "' object is not iterable"))

/-- Takes a message into the queue. -/
def produce (m : Outgoing) (ticket : Option Ticket) (c : ScriptedClient) : ScriptedClient :=
  let plan := c.script.planFor m.topic
  let c := { c with script := { c.script with plans := c.script.plans.tail } }
  let partition : Except ClientFault Int := match plan.partition.orElse fun _ => m.partition with
    | some p => .ok p
    | none => keyPartition m.key
  match partition with
  | .ok p => { c with pending := c.pending ++ [⟨m.topic, p, ticket, plan, plan.polls⟩] }
  | .error f => { c with verdict := .fault f }

/-- The offset of a message that is delivered now: the planned one, or the next of its partition. -/
def takeOffset (p : PendingMessage) (c : ScriptedClient) : Int × ScriptedClient :=
  match p.plan.offset with
  | some o => (o, c)
  | none =>
    let key := (p.topic, p.partition)
    let o := ((c.offsets.find? fun e => e.1 == key).map (·.2)).getD 0
    (o, { c with offsets := (key, o + 1) :: c.offsets.filter fun e => e.1 != key })

/-- Delivers a message: the client notes it, and then reports it to whoever waits for it, with the
planned error or another one. -/
def deliver (error : Option ClientError) (p : PendingMessage) (c : ScriptedClient) :
    List Event × ScriptedClient :=
  let (offset, c) := takeOffset p c
  let note := Event.delivered ⟨p.topic, p.partition, offset, error.map (·.code)⟩
  let first : DeliveryReport :=
    ⟨error, if p.plan.withoutMessage then none else some ⟨p.partition, offset⟩⟩
  let reports := match p.ticket with
    | some t => (first :: p.plan.again).map (Event.report t)
    | none => []
  (note :: reports, c)

/-- Delivers messages in order, each with the error that `errorOf` gives. -/
def deliverAll (errorOf : PendingMessage → Option ClientError) :
    List PendingMessage → ScriptedClient → List Event × ScriptedClient
  | [], c => ([], c)
  | p :: ps, c =>
    let (es, c) := deliver (errorOf p) p c
    let (fs, c) := deliverAll errorOf ps c
    (es ++ fs, c)

/-- The messages that are due, and the others with one poll less to go. -/
def splitDue (ps : List PendingMessage) : List PendingMessage × List PendingMessage :=
  (ps.filter (·.countdown == 0),
    (ps.filter (·.countdown != 0)).map fun p => { p with countdown := p.countdown - 1 })

/-- Serves the messages that are due. -/
def serveDue (c : ScriptedClient) : List Event × Nat × ScriptedClient :=
  let (due, rest) := splitDue c.pending
  let (es, c) := deliverAll (·.plan.error) due { c with pending := rest }
  (es, due.length, c)

/-- Serves until nothing is pending, at most `fuel` times. -/
def serveOut : Nat → ScriptedClient → List Event × ScriptedClient
  | 0, c => ([], c)
  | fuel + 1, c =>
    if c.pending.isEmpty then ([], c)
    else
      let (es, _, c) := serveDue c
      let (fs, c) := serveOut fuel c
      (es ++ fs, c)

/-- The error of a message that is dropped. -/
def purgeError : ClientError := .ofCode ErrorCode.purged none

/-- Serves a flush: from the script, or by reporting everything. -/
def flush (c : ScriptedClient) : List Event × ScriptedClient :=
  match c.script.flushes with
  | n :: rest =>
    ([], { c with script := { c.script with flushes := rest }, verdict := .left n })
  | [] =>
    let most := c.pending.foldl (fun n p => max n p.countdown) 0
    let (es, c) := serveOut (most + 1) c
    (es, { c with verdict := .left 0 })

/-- Serves a purge: every message is reported as dropped. -/
def purge (c : ScriptedClient) : List Event × ScriptedClient :=
  deliverAll (fun _ => some purgeError) c.pending { c with pending := [] }

/-! ## Consuming -/

/-- How many polls after the end of the script find nothing before one fails. -/
def idleLimit : Nat := 60

/-- The partitions of a planned rebalance, unless one of them does not fit. -/
def plannedPartitions (ps : List (String × Int × Int)) : Except Fault (List TopicPartition) :=
  ps.mapM fun (topic, partition, offset) => TopicPartition.make topic partition offset

/-- A fault of making a partition, as the client raises it. -/
def outsideFault (f : Fault) : ClientFault :=
  match f.cls with
  | .general c => .raised c f.message
  | _ => .raised .value f.message

/-- Serves a poll for a message. -/
def pollMessage (c : ScriptedClient) : List Event × ScriptedClient :=
  match c.script.polls with
  | [] =>
    if c.idlePolls < idleLimit then
      ([], { c with idlePolls := c.idlePolls + 1, verdict := .fetched none })
    else ([], { c with verdict := .fault (.raised .runtime "poll script exhausted") })
  | p :: rest =>
    let stops := if p.stop then [Event.stop none] else []
    let lines := (p.line.map Event.line).toList
    let (rebalances, broken) := match p.rebalance with
      | none => ([], none)
      | some ps => match plannedPartitions ps with
        | .ok ps => ([Event.rebalance ps], none)
        | .error f => ([], some (outsideFault f))
    let verdict := match broken.orElse fun _ => p.fault with
      | some f => Verdict.fault f
      | none => .fetched p.message
    (stops ++ lines ++ rebalances,
      { c with script := { c.script with polls := rest }, verdict })

/-- The committed offsets of partitions, as the script has them. -/
def committedOffsets (ps : List TopicPartition) (c : ScriptedClient) :
    Except Fault (List TopicPartition) :=
  (ps.filter fun p => !c.script.omitted.contains (p.topic, p.partition)).mapM fun p =>
    TopicPartition.make p.topic p.partition
      ((TopicPartition.offsetIn? c.script.committed p).getD (-1001))

/-! ## Calls -/

/-- Serves a call that no fault prevents. -/
def serve (call : Call) (c : ScriptedClient) : List Event × ScriptedClient :=
  match call with
  | .produce m ticket => ([], c.produce m ticket)
  | .pollReports _ =>
    let (es, n, c) := serveDue c
    (es, { c with verdict := .count n })
  | .flush _ => flush c
  | .purge .. => purge c
  | .pollMessage _ => pollMessage c
  | _ => ([], c)

/-- Takes the fault that the script has for a call. -/
def takeFault (call : Call) (c : ScriptedClient) : Option ClientFault × ScriptedClient :=
  match call.method? with
  | none => (none, c)
  | some m => match c.script.takeFault m with
    | (f, script) => (f, { c with script })

/-- Begins a call: with the fault that the script has for it, or by serving it. -/
def begin (call : Call) (c : ScriptedClient) : List Event × ScriptedClient :=
  match c.takeFault call with
  | (some f, c) => ([], { c with verdict := .fault f })
  | (none, c) => serve call { c with verdict := .nothing }

/-- The answer to a call, where the outcome of serving it decides those that are served. -/
def answerFrom (verdict : Verdict) (call : Call) (c : ScriptedClient) :
    Except ClientFault call.Answer :=
  match verdict with
  | .fault f => .error f
  | verdict =>
    match call with
    | .pollReports _ => .ok (match verdict with
      | .count n => n
      | _ => (0 : Nat))
    | .flush _ => .ok (match verdict with
      | .left n => n
      | _ => (0 : Int))
    | .pollMessage _ => .ok (match verdict with
      | .fetched m => m
      | _ => none)
    | .outstanding => .ok c.pending.length
    | .committed ps _ => (c.committedOffsets ps).mapError outsideFault
    | .create .. | .produce .. | .purge .. | .subscribe .. | .assign _ | .incrementalAssign _
    | .close => .ok ()

/-- Whether a call is served before it is answered. -/
def isServed : Call → Bool
  | .produce .. | .pollReports _ | .flush _ | .purge .. | .outstanding | .pollMessage _
  | .close => true
  | _ => false

/-- Answers a call. One that is not served, which may come while another one is, has its fault taken
here. -/
def answer (call : Call) (c : ScriptedClient) : Except ClientFault call.Answer × ScriptedClient :=
  if isServed call then (c.answerFrom c.verdict call, c)
  else match c.takeFault call with
    | (some f, c) => (.error f, c)
    | (none, c) => (c.answerFrom .nothing call, c)

end ScriptedClient

/-- The state of the scripted clients: all that were ever created, and the label and the script of
the next one. -/
structure Scripted where
  clients : List ScriptedClient := []
  nextLabel : String := ""
  nextScript : Script := {}

namespace Scripted

/-- The client library whose clients follow scripts. -/
def library : Library Scripted where
  serve id call s :=
    match s.clients[id]? with
    | none => ([], s)
    | some c => match c.begin call with
      | (es, c) => (es, { s with clients := s.clients.set id c })
  answer id call s :=
    let s := match call with
      | .create role _ =>
        { s with clients := s.clients ++ [⟨s.nextLabel, role, s.nextScript, [], [], 0, .nothing⟩] }
      | _ => s
    match s.clients[id]? with
    | none => (.error (.raised .runtime "no such client"), s)
    | some c => match c.answer call with
      | (r, c) => (r, { s with clients := s.clients.set id c })

/-- The client with a label, the latest if there are several. -/
def idOf? (s : Scripted) (label : String) : Option ClientId :=
  let n := s.clients.length
  ((List.range n).reverse).find? fun i => (s.clients[i]?.map (·.label)) == some label

/-- Adds to the script of a client. -/
def extend (id : ClientId) (script : Script) (s : Scripted) : Scripted :=
  { s with clients := s.clients.modify id fun c => { c with script := c.script.append script } }

end Scripted

end KafkaHandles
