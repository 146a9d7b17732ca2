import KafkaHandles.Producer.Crew
import KafkaHandles.Proofs.Producer.Flushing

/-!
# Teams and their histories

A team is a crew of workers together with threads that flush the same producer. Its threads take
atomic steps in any order. The history of a run tells, step by step, what a thread did that others
may notice: it handed a message over, served a report, looked at its waiter, took the outcome out of
it, or broke off. It is read off the threads before and after the step.
-/

namespace KafkaHandles

/-- What a step of a thread does that others may notice. -/
inductive Act
  /-- A sender hands its message over to the client, with a ticket. -/
  | handed (t : Ticket) (m : Outgoing)
  /-- A report on the message with a ticket is served. -/
  | reported (t : Ticket) (r : DeliveryReport)
  /-- A sender looks at its waiter, with the answer. -/
  | looked (t : Ticket) (answer : Bool)
  /-- A sender takes the outcome out of its waiter. -/
  | collected (t : Ticket) (outcome : Except Fault Receipt)
  /-- A sender is broken off by a fault of the client. -/
  | broken (t : Ticket) (f : Fault)
  /-- The arguments of a send are refused, before anything else happens. -/
  | refused (f : Fault)

/-- What a sender has done, going from one point to another. -/
def Send.act? (s t : Send) : Option Act :=
  match s.stage, t.stage with
  | .ready, .producing ticket _ => some (.handed ticket s.message)
  | .producing _ (.report ticket r :: _), .producing .. => some (.reported ticket r)
  | .polling _ (.report ticket r :: _), .polling .. => some (.reported ticket r)
  | .waiting ticket, .collecting _ => some (.looked ticket true)
  | .waiting ticket, .looping _ => some (.looked ticket false)
  | .collecting ticket, .finished outcome => some (.collected ticket outcome)
  | .producing ticket _, .finished (.error f) => some (.broken ticket f)
  | .polling ticket _, .finished (.error f) => some (.broken ticket f)
  | _, _ => none

/-- What a flush has done, going from one point to another. -/
def Flush.act? (f g : Flush) : Option Act :=
  match f.stage, g.stage with
  | .serving (.report ticket r :: _), .serving _ => some (.reported ticket r)
  | _, _ => none

namespace Worker

/-- What a worker has done, going from one point to another. A new outcome without a sender is a
refusal. -/
def act? (k l : Worker) : Option Act :=
  match k.current, l.current with
  | some s, some t => s.act? t
  | none, none => match l.outcomes.drop k.outcomes.length with
    | [.error f] => some (.refused f)
    | _ => none
  | _, _ => none

/-- The outcomes of the sends that a worker has come to the end of. -/
def ended (k : Worker) : List (Except Fault Receipt) :=
  k.outcomes ++ (k.current.bind Send.outcome?).toList

end Worker

/-- A turn of one of the threads of a team. -/
inductive Turn
  | worker (i : Nat)
  | flush (j : Nat)
  deriving DecidableEq, Repr

/-- A moment of a history: who did what. -/
structure Moment where
  turn : Turn
  act : Act

/-- A crew with threads that flush the producer. -/
structure Team (σ : Type) where
  crew : Crew σ
  flushes : List Flush

namespace Team

variable {σ : Type}

/-- A team that has not begun: one worker for every list of messages to send. -/
def gather (p : Producer) (todos : List (List SendArguments)) (flushes : List Flush)
    (world : World σ) : Team σ :=
  ⟨⟨p, todos.map fun todo => { todo }, world⟩, flushes⟩

/-- The world a team works in. -/
def world (T : Team σ) : World σ :=
  T.crew.world

/-- What a turn has done, going from one point to another. -/
def moment? (T U : Team σ) (x : Turn) : Option Moment :=
  let act := match x with
    | .worker i => match T.crew.workers[i]?, U.crew.workers[i]? with
      | some k, some l => k.act? l
      | _, _ => none
    | .flush j => match T.flushes[j]?, U.flushes[j]? with
      | some f, some g => f.act? g
      | _, _ => none
  act.map (Moment.mk x)

variable (L : Library σ)

/-- Takes a turn. -/
def step (x : Turn) (T : Team σ) : Team σ :=
  match x with
  | .worker i => { T with crew := T.crew.step L i }
  | .flush j => match T.flushes[j]? with
    | none => T
    | some f => match f.step L T.crew.world with
      | (f, world) => { crew := { T.crew with world }, flushes := T.flushes.set j f }

/-- Takes turns in order. -/
def run : List Turn → Team σ → Team σ
  | [], T => T
  | x :: xs, T => run xs (T.step L x)

/-- The history of taking turns in order. -/
def history : List Turn → Team σ → List Moment
  | [], _ => []
  | x :: xs, T => (T.moment? (T.step L x) x).toList ++ history xs (T.step L x)

end Team

/-! ## What a history says about messages -/

/-- The report that a moment serves on a message. -/
def Moment.report? (t : Ticket) (x : Moment) : Option DeliveryReport :=
  match x.act with
  | .reported t' r => if t' = t then some r else none
  | _ => none

/-- Whether a moment hands over the message with a ticket. -/
def Moment.hands (t : Ticket) (x : Moment) : Bool :=
  match x.act with
  | .handed t' _ => t' = t
  | _ => false

/-- The outcome of the send that a moment ends, if it is one of worker `i`. -/
def Moment.ended? (i : Nat) (x : Moment) : Option (Except Fault Receipt) :=
  if x.turn = .worker i then
    match x.act with
    | .collected _ outcome => some outcome
    | .broken _ f | .refused f => some (.error f)
    | _ => none
  else none

/-- The first report that is served on a message after it was handed over. -/
def firstReport? (t : Ticket) (h : List Moment) : Option DeliveryReport :=
  ((h.dropWhile fun x => !x.hands t).filterMap (·.report? t)).head?

/-- Whether a message has been handed over. -/
def Handed (t : Ticket) (h : List Moment) : Prop :=
  ∃ x ∈ h, x.hands t = true

end KafkaHandles
