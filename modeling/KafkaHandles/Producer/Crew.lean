import KafkaHandles.Producer.Basic

/-!
# Crews

Several workers that send through one producer at the same time. A worker has messages to send one
after the other; a crew takes its workers' atomic steps in the order of a schedule, which may be any
sequence of worker numbers.
-/

namespace KafkaHandles

/-- A worker: what it has still to send, the send it is in, and the outcomes of those behind it. -/
structure Worker where
  todo : List SendArguments
  current : Option Send := none
  outcomes : List (Except Fault Receipt) := []

namespace Worker

/-- Whether the worker has nothing left to do. -/
def isIdle (k : Worker) : Bool :=
  k.todo.isEmpty && k.current.isNone

/-- Takes an outcome. -/
def conclude (k : Worker) (r : Except Fault Receipt) : Worker :=
  { k with current := none, outcomes := k.outcomes ++ [r] }

/-- Begins a send with a producer. -/
def start (p : Producer) (k : Worker) (a : SendArguments) (rest : List SendArguments) : Worker :=
  let begun := do
    let id ← openClient .producer p.client
    let message ← Outgoing.check a.topic a.value a.key a.partition
    pure ({ client := id, message } : Send)
  match begun with
  | .ok s => { k with todo := rest, current := some s }
  | .error f => { k with todo := rest }.conclude (.error f)

variable {σ : Type} (L : Library σ)

/-- One atomic step of a worker. -/
def step (p : Producer) (k : Worker) (w : World σ) : Worker × World σ :=
  match k.current with
  | some s => match s.outcome? with
    | some r => (k.conclude r, w)
    | none => match s.step L w with
      | (s, w) => ({ k with current := some s }, w)
  | none => match k.todo with
    | [] => (k, w)
    | a :: rest => (start p k a rest, w)

end Worker

/-- Workers with the producer they share. -/
structure Crew (σ : Type) where
  producer : Producer
  workers : List Worker
  world : World σ

namespace Crew

variable {σ : Type} (L : Library σ)

/-- Takes a step of the worker with a number. -/
def step (i : Nat) (c : Crew σ) : Crew σ :=
  match c.workers[i]? with
  | none => c
  | some k => match k.step L c.producer c.world with
    | (k, world) => { c with workers := c.workers.set i k, world }

/-- Takes the steps of a schedule. -/
def run (schedule : List Nat) (c : Crew σ) : Crew σ :=
  schedule.foldl (fun c i => c.step L i) c

/-- Whether all workers have nothing left to do. -/
def isIdle (c : Crew σ) : Bool :=
  c.workers.all (·.isIdle)

/-- Lets the workers take turns until all are idle, for at most `fuel` turns. -/
def runInTurn : Nat → Crew σ → Crew σ
  | 0, c => c
  | fuel + 1, c => if c.isIdle then c else runInTurn fuel (c.run L (List.range c.workers.length))

end Crew

end KafkaHandles
