import KafkaHandles.Operation
import KafkaHandles.Proofs.Action

/-!
# What operations do with a handle

Most of what can be asked of a handle is answered without doing anything with it: its text, whether
it is there, an operation that it lacks, arguments that do not fit. What is left are a few deeds of
each kind of handle, and both ways of asking, on the handle and by the host function, come down to
the same ones.
-/

namespace KafkaHandles

/-- What can be done with a consumer. -/
inductive Consumer.Deed
  | subscribeByTopic (topic policy : Value)
  | subscribeAtOffset (topic partition offset : Value)
  | poll (timeout : Value)
  | close

/-- What can be done with a producer. -/
inductive Producer.Deed
  | send (a : SendArguments)
  | flush (timeout : Value)
  | size
  | destroy

namespace Operation

/-- What an operation does with a consumer, if anything. -/
def onConsumer? (byHost : Bool) : Operation → Option Consumer.Deed
  | subscribeByTopic topic policy => some (.subscribeByTopic topic policy)
  | subscribeAtOffset topic partition offset => some (.subscribeAtOffset topic partition offset)
  | poll timeout =>
    if byHost then (Check.milliseconds timeout).toOption.map fun x => .poll (.float x)
    else some (.poll timeout)
  | close | leave => some .close
  | _ => none

/-- What an operation does with a producer, if anything. -/
def onProducer? (byHost : Bool) : Operation → Option Producer.Deed
  | send a => some (.send a)
  | flush timeout =>
    if byHost then (Check.milliseconds timeout).toOption.map fun x => .flush (.float x)
    else some (.flush timeout)
  | size => some .size
  | destroy | leave => some .destroy
  | _ => none

/-- Whether an operation closes the handles of a role. -/
def ends (role : Role) : Operation → Bool
  | close => role = .consumer
  | destroy => role = .producer
  | leave => true
  | _ => false

/-- Whether an operation needs the client of a handle of a role. -/
def needsClient (role : Role) : Operation → Bool
  | send _ | flush _ | size => role = .producer
  | subscribeByTopic .. | subscribeAtOffset .. | poll _ => role = .consumer
  | _ => false

end Operation

variable {σ : Type} (L : Library σ) (fuel : Nat)

/-- Does a deed with a consumer. -/
def Consumer.Deed.act : Consumer.Deed → Action (Consumer × World σ) Reply
  | subscribeByTopic topic policy => do
    Consumer.subscribeByTopic L topic policy
    pure .nothing
  | subscribeAtOffset topic partition offset => do
    Consumer.subscribeAtOffset L topic partition offset
    pure .nothing
  | poll timeout => do
    let p ← Consumer.poll L timeout
    pure (.ofPolled p)
  | close => do
    Consumer.close L
    pure .nothing

/-- Does a deed with a producer. -/
def Producer.Deed.act : Producer.Deed → Action (Producer × World σ) Reply
  | send a => do
    let r ← Producer.send L fuel a.topic a.value a.key a.partition
    pure (.ofReceipt r)
  | flush timeout => do
    Producer.flush L timeout
    pure .nothing
  | size => do
    let n : Nat ← Producer.size L
    pure (.value (.int n))
  | destroy => do
    Producer.destroy L
    pure .nothing

namespace Operation

/-- Performs an operation, on the handle itself or by the host function. -/
def ask (byHost : Bool) (op : Operation) : Action (Option Handle × World σ) Reply :=
  if byHost then op.performByHost L fuel else op.perform L fuel

variable {L fuel}

theorem onConsumer_reply {α : Type} (a : Action (Consumer × World σ) α)
    (otherwise : Action (Option Handle × World σ) α) (reply : α → Reply) (c : Consumer)
    (w : World σ) :
    (Host.onConsumer a otherwise >>= fun v => pure (reply v)) (some (.consumer c), w) =
      match (a >>= fun v => pure (reply v)) (c, w) with
      | (r, (c, w)) => (r, (some (.consumer c), w)) := by
  rw [Action.bind_pure_apply, Action.bind_pure_apply]
  rfl

theorem onProducer_reply {α : Type} (a : Action (Producer × World σ) α)
    (otherwise : Action (Option Handle × World σ) α) (reply : α → Reply) (p : Producer)
    (w : World σ) :
    (Host.onProducer a otherwise >>= fun v => pure (reply v)) (some (.producer p), w) =
      match (a >>= fun v => pure (reply v)) (p, w) with
      | (r, (p, w)) => (r, (some (.producer p), w)) := by
  rw [Action.bind_pure_apply, Action.bind_pure_apply]
  rfl

/-- An operation on a consumer does its deed, or it changes nothing; then it gives no
message, and ends in a fault if it needs the client. -/
theorem ask_consumer (byHost : Bool) (op : Operation) (c : Consumer) (w : World σ) :
    (∃ d, op.onConsumer? byHost = some d ∧ op.ask L fuel byHost (some (.consumer c), w) =
      match d.act L (c, w) with
      | (r, (c, w)) => (r, (some (.consumer c), w))) ∨
    (op.onConsumer? byHost = none ∧
      ∃ r, op.ask L fuel byHost (some (.consumer c), w) = (r, (some (.consumer c), w)) ∧
        (op.needsClient .consumer → ∃ f, r = .error f) ∧ ∀ p, r ≠ .ok (.polled p)) := by
  cases byHost with
  | false =>
    cases op with
    | subscribeByTopic topic policy => exact Or.inl ⟨_, rfl, onConsumer_reply _ _ (fun _ => _) c w⟩
    | subscribeAtOffset topic partition offset =>
      exact Or.inl ⟨_, rfl, onConsumer_reply _ _ (fun _ => _) c w⟩
    | poll timeout => exact Or.inl ⟨_, rfl, onConsumer_reply _ _ _ c w⟩
    | close => exact Or.inl ⟨_, rfl, onConsumer_reply _ _ (fun _ => _) c w⟩
    | leave => exact Or.inl ⟨_, rfl, onConsumer_reply _ (lacking "__exit__") (fun _ => _) c w⟩
    | misapplied role name f =>
      cases role <;> exact Or.inr ⟨rfl, _, rfl, by simp [needsClient], by simp⟩
    | _ => exact Or.inr ⟨rfl, _, rfl, by simp [needsClient], by simp⟩
  | true =>
    cases op with
    | subscribeByTopic topic policy => exact Or.inl ⟨_, rfl, onConsumer_reply _ _ (fun _ => _) c w⟩
    | subscribeAtOffset topic partition offset =>
      exact Or.inl ⟨_, rfl, onConsumer_reply _ _ (fun _ => _) c w⟩
    | poll timeout =>
      cases h : Check.milliseconds timeout with
      | error f =>
        refine Or.inr ⟨by simp [onConsumer?, h, Except.toOption], .error f, ?_, fun _ => ⟨f, rfl⟩,
          by simp⟩
        simp [ask, performByHost, Host.poll, Host.onConsumer, Action.bind_apply, h]
      | ok x =>
        refine Or.inl ⟨.poll (.float x), by simp [onConsumer?, h, Except.toOption], ?_⟩
        refine Eq.trans ?_ (onConsumer_reply _ (Host.expected .consumer) Reply.ofPolled c w)
        simp [ask, performByHost, Host.poll, Host.onConsumer, Action.bind_apply, h]
    | close => exact Or.inl ⟨_, rfl, onConsumer_reply _ _ (fun _ => _) c w⟩
    | leave => exact Or.inl ⟨_, rfl, onConsumer_reply _ (lacking "__exit__") (fun _ => _) c w⟩
    | misapplied role name f => exact Or.inr ⟨rfl, _, rfl, by simp [needsClient], by simp⟩
    | _ => exact Or.inr ⟨rfl, _, rfl, by simp [needsClient], by simp⟩

/-- An operation on a producer does its deed, or it changes nothing; then it gives no
message, and ends in a fault if it needs the client. -/
theorem ask_producer (byHost : Bool) (op : Operation) (p : Producer) (w : World σ) :
    (∃ d, op.onProducer? byHost = some d ∧ op.ask L fuel byHost (some (.producer p), w) =
      match d.act L fuel (p, w) with
      | (r, (p, w)) => (r, (some (.producer p), w))) ∨
    (op.onProducer? byHost = none ∧
      ∃ r, op.ask L fuel byHost (some (.producer p), w) = (r, (some (.producer p), w)) ∧
        (op.needsClient .producer → ∃ f, r = .error f) ∧ ∀ p, r ≠ .ok (.polled p)) := by
  cases byHost with
  | false =>
    cases op with
    | send a => exact Or.inl ⟨_, rfl, onProducer_reply _ _ _ p w⟩
    | flush timeout => exact Or.inl ⟨_, rfl, onProducer_reply _ _ (fun _ => _) p w⟩
    | size => exact Or.inl ⟨_, rfl, onProducer_reply _ _ _ p w⟩
    | destroy => exact Or.inl ⟨_, rfl, onProducer_reply _ _ (fun _ => _) p w⟩
    | leave => exact Or.inl ⟨_, rfl, onProducer_reply _ _ (fun _ => _) p w⟩
    | misapplied role name f =>
      cases role <;> exact Or.inr ⟨rfl, _, rfl, by simp [needsClient], by simp⟩
    | _ => exact Or.inr ⟨rfl, _, rfl, by simp [needsClient], by simp⟩
  | true =>
    cases op with
    | send a => exact Or.inl ⟨_, rfl, onProducer_reply _ _ _ p w⟩
    | flush timeout =>
      cases h : Check.milliseconds timeout with
      | error f =>
        refine Or.inr ⟨by simp [onProducer?, h, Except.toOption], .error f, ?_, fun _ => ⟨f, rfl⟩,
          by simp⟩
        simp [ask, performByHost, Host.flush, Host.onProducer, Action.bind_apply, h]
      | ok x =>
        refine Or.inl ⟨.flush (.float x), by simp [onProducer?, h, Except.toOption], ?_⟩
        refine Eq.trans ?_
          (onProducer_reply _ (Host.expected .producer) (fun _ => Reply.nothing) p w)
        simp [ask, performByHost, Host.flush, Host.onProducer, Action.bind_apply, h]
    | size => exact Or.inl ⟨_, rfl, onProducer_reply _ _ _ p w⟩
    | destroy => exact Or.inl ⟨_, rfl, onProducer_reply _ _ (fun _ => _) p w⟩
    | leave => exact Or.inl ⟨_, rfl, onProducer_reply _ _ (fun _ => _) p w⟩
    | misapplied role name f => exact Or.inr ⟨rfl, _, rfl, by simp [needsClient], by simp⟩
    | _ => exact Or.inr ⟨rfl, _, rfl, by simp [needsClient], by simp⟩

end Operation

end KafkaHandles
