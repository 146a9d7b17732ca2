import KafkaHandles.Operation
import KafkaHandles.Scripted.Client

/-!
# Sessions

A session keeps named handles and named generators of messages over scripted clients, and takes
steps on them. Every step is reported with its outcome, the calls on clients and the log records
that it caused, and whether the handle it names is closed.
-/

namespace KafkaHandles

/-- Where the configuration of a handle comes from. -/
inductive ConfigSource
  | arguments (a : Arguments)
  | dict (v : Value)
  | raw (v : Value)

/-- The configuration of a source. -/
def ConfigSource.argument : ConfigSource → Except Fault ConfigArgument
  | .arguments a => do
    let s ← Config.Settings.ofArguments Config.buildSignature a
    let c ← Config.build s
    .ok (.config c)
  | .dict v => (Config.ofDict v .none).map .config
  | .raw v => .ok (.other v)

/-- A step of a session. -/
inductive Step
  /-- Makes a handle, by its kind or by the host function. -/
  | create (name : String) (role : Role) (byHost : Bool) (script : Script) (source : ConfigSource)
  /-- Operates on a handle, by its kind or by the host function. -/
  | operate (name : Option String) (byHost : Bool) (op : Operation)
  /-- Makes a stream of a handle's messages. -/
  | stream (generator : String) (name : Option String) (timeout : Value) (stoppable : Bool)
  /-- Makes a reading; the configuration comes before the other arguments. -/
  | read (generator : String) (source : ConfigSource) (script : Script) (stoppable : Bool)
      (a : Arguments)
  | next (generator : String)
  | setStop (generator : String)
  | giveUp (generator : String)
  /-- Adds to the script of a client. -/
  | extend (name : String) (script : Script)
  /-- Produces a message that nobody waits for. -/
  | produce (name : String) (m : Outgoing)
  /-- Polls a client without waiting. -/
  | poll (name : String)
  /-- Has a client hand over a log line. -/
  | line (name : String) (l : LogLine)
  /-- Assigns partitions to a client. -/
  | rebalance (name : String) (ps : List (String × Int × Int))

/-- A generator of messages. A stream belongs to the handle with a number. -/
inductive Generator
  | stream (handle : Nat) (s : Stream)
  | reading (label : String) (script : Script) (r : Reading)

/-- A session: the shared world, all handles ever made, their names, and the generators. -/
structure Session where
  world : World Scripted := { library := {} }
  handles : List Handle := []
  names : List (String × Nat) := []
  generators : List (String × Generator) := []

/-- What is told about a step. There is no outcome if the step was skipped. -/
structure StepReport where
  outcome : Option (Except Fault Reply)
  calls : List Entry
  records : List LogRecord
  closed : Option Bool

namespace Session

/-- How many steps an operation may take in a session. -/
def patience : Nat := 10000000

/-- The clients of a session. -/
abbrev clients : Library Scripted := Scripted.library

/-! ## Parts of a session -/

/-- The number of the handle with a name. -/
def handleId? (s : Session) (name : String) : Option Nat :=
  (s.names.find? fun e => e.1 == name).map (·.2)

/-- The handle with a name. -/
def handle? (s : Session) (name : String) : Option Handle :=
  (s.handleId? name).bind fun i => s.handles[i]?

/-- The generator with a name. -/
def generator? (s : Session) (name : String) : Option Generator :=
  (s.generators.find? fun e => e.1 == name).map (·.2)

/-- Names a new handle. -/
def addHandle (s : Session) (name : String) (h : Handle) : Session :=
  { s with handles := s.handles ++ [h], names := (name, s.handles.length) :: s.names }

/-- Names a generator. One that takes the name of another also takes its place. -/
def setGenerator (s : Session) (name : String) (g : Generator) : Session :=
  { s with generators :=
      if s.generators.any (·.1 == name) then
        s.generators.map fun e => if e.1 == name then (name, g) else e
      else s.generators ++ [(name, g)] }

/-- Gives the next client a label and a script. -/
def prepare (label : String) (script : Script) (w : World Scripted) : World Scripted :=
  { w with library := { w.library with nextLabel := label, nextScript := script } }

/-- Runs an action on the world. -/
def onWorld {α : Type} (a : Action (World Scripted) α) (s : Session) :
    Except Fault α × Session :=
  match a s.world with
  | (r, world) => (r, { s with world })

/-- Adds a stop flag if one is wanted. -/
def addStop (wanted : Bool) (s : Session) : Option StopId × Session :=
  if wanted then
    let (i, world) := s.world.addStop
    (some i, { s with world })
  else (none, s)

/-! ## Steps -/

/-- Makes a handle. -/
def makeHandle (role : Role) (byHost : Bool) (source : ConfigSource) :
    Action (World Scripted) Handle :=
  match byHost, source, role with
  | true, .arguments a, .producer => do
    let p ← Host.makeProducer clients a
    pure (.producer p)
  | true, .arguments a, .consumer => do
    let c ← Host.makeConsumer clients a
    pure (.consumer c)
  | _, source, .producer => do
    let given ← Action.lift source.argument
    let p ← Producer.make clients given
    pure (.producer p)
  | _, source, .consumer => do
    let given ← Action.lift source.argument
    let c ← Consumer.make clients given
    pure (.consumer c)

/-- Makes a handle and names it; an earlier one of that name stays if this fails. -/
def create (name : String) (role : Role) (byHost : Bool) (script : Script) (source : ConfigSource)
    (s : Session) : Except Fault Reply × Session :=
  match makeHandle role byHost source (prepare name script s.world) with
  | (.ok h, world) => (.ok (.handle h.shown), { s with world }.addHandle name h)
  | (.error f, world) => (.error f, { s with world })

/-- Operates on a handle. -/
def operate (id : Option Nat) (byHost : Bool) (op : Operation) (s : Session) :
    Except Fault Reply × Session :=
  let h := id.bind fun i => s.handles[i]?
  let performed := if byHost then op.performByHost clients patience else op.perform clients patience
  match performed (h, s.world) with
  | (r, (h, world)) =>
    let handles := match id, h with
      | some i, some h => s.handles.set i h
      | _, _ => s.handles
    (r, { s with world, handles })

/-- Gives a generator up. -/
def giveUp (s : Session) (name : String) (g : Generator) : Except Fault Reply × Session :=
  match g with
  | .stream i stream => (.ok .nothing, s.setGenerator name (.stream i stream.finish))
  | .reading label script r =>
    match Reading.giveUp clients (r, s.world) with
    | (outcome, (r, world)) =>
      (outcome.map fun _ => .nothing, { s with world }.setGenerator name (.reading label script r))

/-- Names a new generator. An earlier one of that name is given up. -/
def replaceGenerator (s : Session) (name : String) (g : Generator) : Session :=
  match s.generator? name with
  | some earlier => (s.giveUp name earlier).2.setGenerator name g
  | none => s.setGenerator name g

/-- Makes a stream of the messages of a consumer. -/
def stream (generator : String) (id : Option Nat) (timeout : Value) (stoppable : Bool)
    (s : Session) : Except Fault Reply × Session :=
  match id, id.bind fun i => s.handles[i]? with
  | some i, some (.consumer _) =>
    let (stop, s) := s.addStop stoppable
    (.ok .nothing, s.replaceGenerator generator (.stream i { timeout, stop }))
  | _, h => (.error (.attributeMissing (Handle.kindName h) "stream"), s)

/-- Makes a reading. Its configuration is built at once. -/
def read (generator : String) (source : ConfigSource) (script : Script) (stoppable : Bool)
    (a : Arguments) (s : Session) : Except Fault Reply × Session :=
  let checked := do
    let config ← source.argument
    ReadingRequest.ofArguments config a
  match checked with
  | .error f => (.error f, s)
  | .ok request =>
    let (stop, s) := s.addStop stoppable
    let request := { request with stop }
    (.ok .nothing, s.replaceGenerator generator (.reading generator script { request }))

/-- The next message of a generator. -/
def next (s : Session) (name : String) (g : Generator) : Except Fault Reply × Session :=
  match g with
  | .stream i stream =>
    match s.handles[i]? with
    | some (.consumer c) =>
      match Stream.next clients patience (stream, c, s.world) with
      | (r, (stream, c, world)) =>
        (r.map Reply.ofItem,
          { s with world, handles := s.handles.set i (.consumer c) }.setGenerator name
            (.stream i stream))
    | h => (.error (.attributeMissing (Handle.kindName h) "poll"), s)
  | .reading label script r =>
    match Reading.next clients patience (r, prepare label script s.world) with
    | (outcome, (r, world)) =>
      (outcome.map Reply.ofItem, { s with world }.setGenerator name (.reading label script r))

/-- The stop flag of a generator. -/
def stopOf : Generator → Option StopId
  | .stream _ stream => stream.stop
  | .reading _ _ r => r.request.stop

/-- Polls a client without waiting. -/
def pollClient (id : ClientId) : Action (World Scripted) Reply := do
  let w : World Scripted ← Action.get
  let role : Option Role := (w.library.clients[id]?).map (·.role)
  match role with
  | some .consumer => do
    let m : Option Fetched ← World.invoke clients id (.pollMessage .instant)
    pure (if m.isSome then .object else .nothing)
  | _ => do
    let n : Nat ← World.invoke clients id (.pollReports .instant)
    pure (.value (.int n))

/-- Works on the client with a label, if there is one. -/
def onClient (label : String) (a : ClientId → Action (World Scripted) Reply) (s : Session) :
    Except Fault Reply × Session :=
  match s.world.library.idOf? label with
  | some id => s.onWorld (a id)
  | none => (.ok .nothing, s)

/-- Takes a step. There is no outcome if it is skipped. -/
def act (step : Step) (s : Session) : Option (Except Fault Reply) × Session :=
  let done (t : Except Fault Reply × Session) : Option (Except Fault Reply) × Session :=
    (some t.1, t.2)
  let skipped : Option (Except Fault Reply) × Session := (none, s)
  match step with
  | .create name role byHost script source => done (s.create name role byHost script source)
  | .operate none byHost op => done (s.operate none byHost op)
  | .operate (some name) byHost op => match s.handleId? name with
    | some i => done (s.operate (some i) byHost op)
    | none => skipped
  | .stream generator none timeout stoppable => done (s.stream generator none timeout stoppable)
  | .stream generator (some name) timeout stoppable => match s.handleId? name with
    | some i => done (s.stream generator (some i) timeout stoppable)
    | none => skipped
  | .read generator source script stoppable a => done (s.read generator source script stoppable a)
  | .next name => match s.generator? name with
    | some g => done (s.next name g)
    | none => skipped
  | .setStop name => match s.generator? name with
    | some g => match stopOf g with
      | some flag => done (.ok .nothing, { s with world := s.world.setStop (some flag) })
      | none => done (.ok .nothing, s)
    | none => skipped
  | .giveUp name => match s.generator? name with
    | some g => done (s.giveUp name g)
    | none => skipped
  | .extend name script => done <| s.onClient name fun id => do
      Action.modify fun w => { w with library := w.library.extend id script }
      pure .nothing
  | .produce name m => done <| s.onClient name fun id => do
      World.invoke clients id (.produce m none)
      pure .nothing
  | .poll name => done (s.onClient name pollClient)
  | .line name l => done <| s.onClient name fun _ => do
      World.forward l
      pure .nothing
  | .rebalance name ps => done <| s.onClient name fun id => do
      let ps ← Action.lift (ScriptedClient.plannedPartitions ps)
      let ps ← World.rebalance clients id ps
      pure (.partitions ps)

/-- The name of the handle that a step is about. -/
def named : Step → Option String
  | .create name .. | .extend name _ | .produce name _ | .poll name | .line name _
  | .rebalance name _ => some name
  | .operate name .. | .stream _ name .. => name
  | _ => none

/-- Takes a step and reports on it. -/
def step (step : Step) (s : Session) : StepReport × Session :=
  let (outcome, after) := s.act step
  ({ outcome
     calls := after.world.journal.drop s.world.journal.length
     records := after.world.log.drop s.world.log.length
     closed := ((named step).bind after.handle?).map (·.closed) }, after)

/-- Takes steps in order. -/
def takeAll : List Step → Session → List StepReport × Session
  | [], s => ([], s)
  | t :: ts, s =>
    let (report, s) := s.step t
    let (reports, s) := takeAll ts s
    (report :: reports, s)

/-- Gives all generators up, in the order in which they were first named. -/
def finish (s : Session) : Session :=
  s.generators.foldl (fun s e => (s.giveUp e.1 e.2).2) s

/-- Adds calls to the last report. -/
def addToLast (calls : List Entry) : List StepReport → List StepReport
  | [] => []
  | [r] => [{ r with calls := r.calls ++ calls }]
  | r :: rest => r :: addToLast calls rest

/-- Runs a session. At its end all generators are given up, and the calls that this causes are told
with the last step. -/
def run (ts : List Step) (s : Session) : List StepReport × Session :=
  let (reports, s) := takeAll ts s
  let done := s.finish
  (addToLast (done.world.journal.drop s.world.journal.length) reports, done)

/-- The label of a client. -/
def labelOf (s : Session) (id : ClientId) : String :=
  ((s.world.library.clients[id]?).map (·.label)).getD ""

end Session

end KafkaHandles
