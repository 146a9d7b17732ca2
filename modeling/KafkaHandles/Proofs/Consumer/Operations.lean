import KafkaHandles.Consumer.Stream
import KafkaHandles.Proofs.Check
import KafkaHandles.Proofs.Client.Calls

/-!
# What the operations of a consumer come to

One equation for every operation: first all checks, which ask nothing of the client, and then at
most one call on it. The two subscriptions differ only in their checks and in their call, so both
come down to a request for a mode. A consumer that is open asks only its own client, and one that is
closed asks nobody.
-/

namespace KafkaHandles

/-- A request for a mode that has passed all checks. -/
inductive ModeRequest
  | topic (topic : String) (policy : OffsetPolicy)
  | place (p : TopicPartition)
  deriving DecidableEq, Repr

namespace ModeRequest

/-- The mode that is asked for. -/
def mode : ModeRequest → Mode
  | topic .. => .subscribe
  | place _ => .assign

/-- The call that asks a client for it. -/
def call (c : Consumer) : ModeRequest → Call
  | topic t policy => .subscribe [t] (c.ruleFor policy)
  | place p => .assign [p]

/-- The log line about a request that was granted. -/
def text : ModeRequest → String
  | topic t policy => "Subscribed to topic=" ++ t ++ " with offset policy=" ++ policy.word
  | place p => "Assigned topic=" ++ p.topic ++ " partition=" ++ toString p.partition ++
      " at offset=" ++ toString p.offset

variable {σ : Type} (L : Library σ)

/-- Asks a client. -/
def ask (c : Consumer) (id : ClientId) : ModeRequest → Action (World σ) Unit
  | topic t policy => World.subscribe L id [t] (c.ruleFor policy)
  | place p => World.request L id (.assign [p])

variable {L} in
theorem ask_calls (q : ModeRequest) (c : Consumer) (id : ClientId) (w : World σ) :
    (q.ask L c id w).2.calls = w.calls ++ [(id, q.call c)] := by
  cases q with
  | topic t policy => exact World.subscribe_calls _ _ w
  | place p => exact World.request_calls _ w

/-- Asks the client of a consumer, which enters the mode if the client grants it. -/
def perform (id : ClientId) (q : ModeRequest) : Action (Consumer × World σ) Unit := fun (c, w) =>
  match q.ask L c id w with
  | (.ok _, w) =>
    (.ok (), ({ c with mode := some q.mode }, (World.say .consumer LogLevel.info q.text w).2))
  | (.error f, w) => (.error (Consumer.brokerFault f), (c, w))

end ModeRequest

namespace Consumer

/-- Refuses a mode to a consumer that is in the other one. -/
def admits (c : Consumer) (mode : Mode) : Except Fault Unit :=
  match c.mode with
  | some taken => if taken = mode then .ok () else .error (.refused (.modeTaken taken))
  | none => .ok ()

/-- The checks of a subscription to a topic. -/
def topicRequest (c : Consumer) (topic policy : Value) : Except Fault ModeRequest := do
  let t ← Check.text topic "topic"
  let p ← c.effectivePolicy policy
  c.admits .subscribe
  .ok (.topic t p)

/-- The checks of an assignment. -/
def placeRequest (c : Consumer) (topic partition offset : Value) : Except Fault ModeRequest := do
  let t ← Check.text topic "topic"
  let p ← Check.natural partition "partition"
  let o ← Check.integer offset "offset"
  c.admits .assign
  let place ← TopicPartition.make t p o
  .ok (.place place)

variable {σ : Type} (L : Library σ)

/-- Makes a request of the client, if there is one and the checks have let the request through. -/
def demand (r : Except Fault ModeRequest) : Action (Consumer × World σ) Unit := fun (c, w) =>
  match openClient .consumer c.client with
  | .error f => (.error f, (c, w))
  | .ok id => match r with
    | .error f => (.error f, (c, w))
    | .ok q => q.perform L id (c, w)

variable {L} in
theorem demand_closed (r : Except Fault ModeRequest) {c : Consumer} (h : c.client = none)
    (w : World σ) : demand L r (c, w) = (.error (.refused (.handleClosed .consumer)), (c, w)) := by
  simp only [demand, h, openClient]

theorem checkMode_apply (mode : Mode) (c : Consumer) (w : World σ) :
    checkMode mode (c, w) = (c.admits mode, (c, w)) := by
  simp only [checkMode, Action.bind_apply, Action.get_apply, admits]
  cases c.mode with
  | none => rfl
  | some taken =>
    dsimp only
    split <;> rfl

/-! ## Subscriptions -/

theorem subscribeByTopic_apply (topic policy : Value) (c : Consumer) (w : World σ) :
    subscribeByTopic L topic policy (c, w) = demand L (c.topicRequest topic policy) (c, w) := by
  simp only [subscribeByTopic, demand, native, topicRequest, Action.bind_apply, Action.get_apply,
    Action.lift_apply]
  rcases openClient .consumer c.client with f | id
  · rfl
  rcases Check.text topic "topic" with f | t
  · rfl
  dsimp only
  rcases c.effectivePolicy policy with f | p
  · rfl
  simp only [checkMode_apply]
  rcases c.admits .subscribe with f | _
  · rfl
  show _ = ModeRequest.perform L id (.topic t p) (c, w)
  simp only [ModeRequest.perform, ModeRequest.ask, Action.mapFault, Action.onSecond]
  rcases World.subscribe L id [t] (c.ruleFor p) w with ⟨f | _, u⟩
  · rfl
  · rfl

theorem subscribeAtOffset_apply (topic partition offset : Value) (c : Consumer) (w : World σ) :
    subscribeAtOffset L topic partition offset (c, w) =
      demand L (c.placeRequest topic partition offset) (c, w) := by
  simp only [subscribeAtOffset, demand, native, placeRequest, Action.bind_apply, Action.get_apply,
    Action.lift_apply]
  rcases openClient .consumer c.client with f | id
  · rfl
  rcases Check.text topic "topic" with f | t
  · rfl
  rcases Check.natural partition "partition" with f | p
  · rfl
  rcases Check.integer offset "offset" with f | o
  · rfl
  simp only [checkMode_apply]
  rcases c.admits .assign with f | _
  · rfl
  rcases hmake : TopicPartition.make t p o with f | place <;>
    simp only [hmake, bind, Except.bind]
  obtain ⟨rfl, -⟩ := TopicPartition.make_ok.mp hmake
  show _ = ModeRequest.perform L id (.place ⟨t, p, o⟩) (c, w)
  simp only [ModeRequest.perform, ModeRequest.ask, Action.mapFault, Action.onSecond]
  rcases World.request L id (.assign [⟨t, p, o⟩]) w with ⟨f | _, u⟩
  · rfl
  · rfl

/-! ## Polls and closing -/

theorem poll_apply (timeout : Value) (c : Consumer) (w : World σ) :
    poll L timeout (c, w) =
      match openClient .consumer c.client with
      | .error f => (.error f, (c, w))
      | .ok id => match Check.timeout timeout "timeout" with
        | .error f => (.error f, (c, w))
        | .ok t => match World.invoke L id (.pollMessage (waitFor t)) w with
          | (.ok m, w) => (classify m, (c, w))
          | (.error f, w) => (.error (brokerFault f), (c, w)) := by
  simp only [poll, native, Action.bind_apply, Action.get_apply, Action.lift_apply]
  rcases openClient .consumer c.client with f | id
  · rfl
  rcases Check.timeout timeout "timeout" with f | t
  · rfl
  simp only [Action.mapFault, Action.onSecond]
  rcases World.invoke L id (.pollMessage (waitFor t)) w with ⟨f | m, u⟩
  · rfl
  · rfl

/-- What closing a consumer says about the outcome of closing its client. -/
def closing (r : Except Fault Unit) : Except Fault Unit :=
  match r with
  | .ok _ => .ok ()
  | .error f => if isAbsorbed f then .ok () else .error f

theorem close_closed {c : Consumer} (h : c.client = none) (w : World σ) :
    close L (c, w) = (.ok (), (c, w)) := by
  simp [close, Action.bind_apply, h]

theorem close_open {c : Consumer} {id : ClientId} (h : c.client = some id) (w : World σ) :
    ∃ log, close L (c, w) =
      (closing (World.invoke L id .close w).1,
        ({ c with client := none }, { (World.invoke L id .close w).2 with log })) := by
  simp only [close, Action.bind_apply, Action.get_apply, h, Action.modify_apply, Action.attempt,
    Action.onSecond]
  rcases World.invoke L id .close w with ⟨f | _, u⟩
  · dsimp only [closing]
    split
    · exact ⟨_, rfl⟩
    · exact ⟨u.log, rfl⟩
  · exact ⟨_, rfl⟩

/-! ## Calls of a consumer -/

end Consumer

/-- The calls that a consumer makes to read on, with those by which its client follows a start
rule. -/
def Call.isPolling : Call → Bool
  | .pollMessage _ => true
  | c => c.isFollowing

/-- The calls that a consumer makes before it is closed, with those by which its client follows a
start rule. -/
def Call.isReading : Call → Bool
  | .subscribe .. => true
  | c => c.isPolling

theorem Call.isPolling_of_isFollowing {c : Call} (h : c.isFollowing) : c.isPolling := by
  cases c <;> simp_all [isPolling, isFollowing]

theorem Call.isReading_of_isPolling {c : Call} (h : c.isPolling) : c.isReading := by
  cases c <;> simp_all [isReading, isPolling, isFollowing]

namespace Consumer

variable {σ : Type} {L : Library σ}

section Within

variable {R : Consumer × World σ → Consumer × World σ → Prop} [IsPreorder (Consumer × World σ) R]

theorem demand_within
    (hperform : ∀ q c id w, c.client = some id → R (c, w) (ModeRequest.perform L id q (c, w)).2)
    (r : Except Fault ModeRequest) : (demand L r).Within R := by
  intro ⟨c, w⟩
  simp only [demand]
  cases hc : c.client with
  | none => exact refl_of R _
  | some id =>
    cases r with
    | error f => exact refl_of R _
    | ok q => exact hperform q c id w hc

theorem poll_within
    (hinvoke : ∀ c id wait w, c.client = some id →
      R (c, w) (c, (World.invoke L id (.pollMessage wait) w).2))
    (timeout : Value) : (poll L timeout).Within R := by
  intro ⟨c, w⟩
  rw [poll_apply]
  cases hc : c.client with
  | none => exact refl_of R _
  | some id =>
    dsimp only [openClient]
    cases Check.timeout timeout "timeout" with
    | error f => exact refl_of R _
    | ok seconds =>
      have h := hinvoke c id (waitFor seconds) w hc
      dsimp only
      split <;> rename_i hi <;> rw [hi] at h <;> exact h

end Within

/-- What a consumer does before it is closed: it keeps its client and calls no other. -/
structure Uses (t u : Consumer × World σ) : Prop where
  client : u.1.client = t.1.client
  asks : World.Asks t.1.client (·.isReading) t.2 u.2

instance : IsPreorder (Consumer × World σ) Uses where
  refl _ := ⟨rfl, refl_of _ _⟩
  trans _ _ _ h h' := ⟨h'.client.trans h.client, trans_of _ h.asks (h.client ▸ h'.asks)⟩

theorem Uses.refl (t : Consumer × World σ) : Uses t t :=
  refl_of Uses t

theorem perform_uses (q : ModeRequest) {c : Consumer} {id : ClientId} (hc : c.client = some id)
    (w : World σ) : Uses (c, w) (q.perform L id (c, w)).2 := by
  have hasks : World.Asks c.client (·.isReading) w (q.ask L c id w).2 :=
    Action.Adds.one (q.ask_calls c id w) ⟨hc, by cases q <;> rfl⟩
  unfold ModeRequest.perform
  dsimp only
  split <;> rename_i hq <;> rw [hq] at hasks <;> exact ⟨rfl, hasks⟩

theorem demand_uses : (r : Except Fault ModeRequest) → (demand L r).Within Uses :=
  demand_within fun q _ _ w hc => perform_uses q hc w

/-- What a consumer does to read on: it stays as it is, and polls no client but its own. -/
structure Polls (t u : Consumer × World σ) : Prop where
  consumer : u.1 = t.1
  asks : World.Asks t.1.client (·.isPolling) t.2 u.2

instance : IsPreorder (Consumer × World σ) Polls where
  refl _ := ⟨rfl, refl_of _ _⟩
  trans _ _ _ h h' :=
    ⟨h'.consumer.trans h.consumer, trans_of _ h.asks (h.consumer ▸ h'.asks)⟩

theorem Polls.uses {t u : Consumer × World σ} (h : Polls t u) : Uses t u :=
  ⟨by rw [h.consumer], h.asks.mono fun _ he => ⟨he.1, Call.isReading_of_isPolling he.2⟩⟩

theorem polls_invoke {c : Consumer} {id : ClientId} (hc : c.client = some id) (wait : Wait)
    (w : World σ) : Polls (c, w) (c, (World.invoke L id (.pollMessage wait) w).2) :=
  ⟨rfl, hc ▸ World.invoke_asks (P := fun c => c.isPolling) rfl
    (fun _ => Call.isPolling_of_isFollowing) w⟩

theorem poll_polls : (timeout : Value) → (poll L timeout).Within Polls :=
  poll_within fun _ _ wait w hc => polls_invoke hc wait w

end Consumer

namespace Stream

variable {σ : Type} {L : Library σ}

section Within

open KafkaHandles.Action (OnSecond)

variable {R : Consumer × World σ → Consumer × World σ → Prop}

theorem say_within (hrecord : ∀ r c w, R (c, w) (c, w.record r)) (level : Int) (text : String) :
    (say (σ := σ) level text).Within (OnSecond R) :=
  .onSecond fun _ => hrecord _ _ _

variable [IsPreorder (Consumer × World σ) R]

theorem received_within (hrecord : ∀ r c w, R (c, w) (c, w.record r)) (polled : Option Polled) :
    (received (σ := σ) polled).Within (OnSecond R) := by
  have hcount {f : Stream × Consumer × World σ → Stream × Consumer × World σ}
      (hf : ∀ t, (f t).2 = t.2) : (Action.modify f).Within (OnSecond R) := by
    refine .modify fun t => ?_
    rw [OnSecond, hf t]
    exact refl_of R t.2
  refine .bind (hcount fun _ => rfl) fun _ => ?_
  split
  · exact .bind (hcount fun _ => rfl) fun _ => .bind .get fun _ =>
      .bind (say_within hrecord _ _) fun _ => .pure _
  · refine .bind .get fun _ => ?_
    dsimp only
    split
    · exact .bind (say_within hrecord _ _) fun _ => .pure _
    · exact .pure _

/-- What polls and log lines respect, a step of a stream respects. -/
theorem round_within (hrecord : ∀ r c w, R (c, w) (c, w.record r))
    (hpoll : ∀ timeout, (Consumer.poll L timeout).Within R) : (round L).Within (OnSecond R) := by
  refine .bind .get fun t => ?_
  dsimp only
  split
  · exact .bind (say_within hrecord _ _) fun _ => .pure _
  · exact .bind (.onSecond (hpoll _)) (received_within hrecord)

theorem rounds_within (hrecord : ∀ r c w, R (c, w) (c, w.record r))
    (hpoll : ∀ timeout, (Consumer.poll L timeout).Within R) (fuel : Nat) :
    (rounds L fuel).Within (OnSecond R) := by
  induction fuel with
  | zero => exact .pure _
  | succ fuel ih =>
    refine .bind (round_within hrecord hpoll) fun item => ?_
    cases item with
    | none => exact ih
    | some item => exact .pure _

theorem next_within (hrecord : ∀ r c w, R (c, w) (c, w.record r))
    (hpoll : ∀ timeout, (Consumer.poll L timeout).Within R) (fuel : Nat) :
    (next L fuel).Within (OnSecond R) := by
  intro t
  have h := rounds_within hrecord hpoll fuel t
  unfold next
  split
  · exact refl_of R t.2
  · split <;> rename_i hr <;> rw [hr] at h <;> exact h

end Within

open Consumer (Polls)

theorem record_polls (r : LogRecord) (c : Consumer) (w : World σ) :
    Polls (c, w) (c, w.record r) :=
  ⟨rfl, World.asks_of_eq rfl⟩

theorem round_polls (t : Stream × Consumer × World σ) : Polls t.2 (round L t).2.2 :=
  round_within record_polls Consumer.poll_polls t

theorem next_polls (fuel : Nat) (t : Stream × Consumer × World σ) :
    Polls t.2 (next L fuel t).2.2 :=
  next_within record_polls Consumer.poll_polls fuel t

end Stream

end KafkaHandles
