import KafkaHandles.Proofs.Client.Faults
import KafkaHandles.Proofs.Consumer.Delivery
import KafkaHandles.Proofs.Handle.Creation
import KafkaHandles.Proofs.Producer.Operations

/-!
# Operations that fail

An operation that ends in a fault leaves its handle as it was. If the fault refuses an argument, the
operation has not even begun: nothing was asked of any client, and nothing else has changed either.
-/

namespace KafkaHandles

open KafkaHandles.Action (Unrefused)

namespace Action

variable {S T α β : Type}

/-- A fault of an action leaves the first part of its state alone, and a refusal all of it. -/
def Atomic (a : Action (S × T) α) : Prop :=
  ∀ t f u, a t = (.error f, u) → u.1 = t.1 ∧ (f.IsRefusal → u = t)

theorem Atomic.still {a : Action (S × T) α} (h : ∀ t, (a t).2 = t) : Atomic a := by
  intro t f u ha
  have hu : u = t := by rw [← h t, ha]
  exact ⟨by rw [hu], fun _ => hu⟩

theorem Atomic.fail (f : Fault) : Atomic (fail f : Action (S × T) α) :=
  .still fun _ => rfl

theorem Atomic.lift_bind {e : Except Fault β} {next : β → Action (S × T) α}
    (h : ∀ v, Atomic (next v)) : Atomic (lift e >>= next) := by
  intro t f u ha
  cases e with
  | error g =>
    cases ha
    exact ⟨rfl, fun _ => rfl⟩
  | ok v => exact h v t f u ha

theorem Atomic.reply {a : Action (S × T) α} (h : Atomic a) (reply : α → β) :
    Atomic (a >>= fun v => pure (reply v)) := by
  intro t f u ha
  rw [bind_pure_apply] at ha
  rcases hat : a t with ⟨g | v, t'⟩ <;> rw [hat] at ha <;> cases ha
  exact h t _ _ hat

/-- An atomic action on what a larger state holds in place of `S`. -/
theorem Atomic.within {S' : Type} {a : Action (S × T) α} (h : Atomic a) (embed : S → S') {s : S}
    {t : T} {f : Fault} {u : S' × T}
    (hu : ((a (s, t)).1, (embed (a (s, t)).2.1, (a (s, t)).2.2)) = (.error f, u)) :
    u.1 = embed s ∧ (f.IsRefusal → u = (embed s, t)) := by
  rcases ha : a (s, t) with ⟨r, s', t'⟩
  rw [ha] at hu
  cases hu
  obtain ⟨hkept, hrefused⟩ := h _ _ _ ha
  cases hkept
  refine ⟨rfl, fun hf => ?_⟩
  cases hrefused hf
  rfl

theorem lift_bind_still {e : Except Fault β} {next : β → Action S α} {s u : S}
    {f : Fault} (h : (lift e >>= next) s = (.error f, u))
    (hnext : ∀ v, next v s = (.error f, u) → u = s) : u = s := by
  cases e with
  | error g =>
    cases h
    rfl
  | ok v => exact hnext v h

end Action

open KafkaHandles.Action (Atomic)

variable {σ : Type} {L : Library σ}

/-! ## Producers -/

namespace Producer

theorem send_atomic (fuel : Nat) (topic value key partition : Value) :
    Atomic (send L fuel topic value key partition) := by
  intro ⟨p, w⟩ f u
  rw [send_apply]
  rcases openClient .producer p.client with g | id
  · rintro ⟨⟩
    exact ⟨rfl, fun _ => rfl⟩
  rcases Outgoing.check topic value key partition with g | m
  · rintro ⟨⟩
    exact ⟨rfl, fun _ => rfl⟩
  have hrun := Send.run_unrefused (L := L) fuel (s := { client := id, message := m }) nofun w
  dsimp only
  rcases hsent : Send.run L fuel { client := id, message := m } w with ⟨r, v⟩
  rw [hsent] at hrun
  rintro ⟨⟩
  exact ⟨rfl, fun hf => absurd hf (hrun f rfl)⟩

theorem flush_atomic (timeout : Value) : Atomic (flush L timeout) := by
  intro ⟨p, w⟩ f u
  rw [flush_apply]
  rcases openClient .producer p.client with g | id
  · rintro ⟨⟩
    exact ⟨rfl, fun _ => rfl⟩
  rcases Check.timeout timeout "timeout" with g | t
  · rintro ⟨⟩
    exact ⟨rfl, fun _ => rfl⟩
  have hcall : ∀ f, (World.invoke L id (.flush t) w).1 = .error f → ¬f.IsRefusal :=
    World.invoke_unrefused _ w
  dsimp only
  rcases hflush : World.invoke L id (.flush t) w with ⟨g | left, v⟩ <;> rw [hflush] at hcall
  · rintro ⟨⟩
    exact ⟨rfl, fun hf => absurd hf (hcall f rfl)⟩
  · dsimp only [Flush.verdict]
    split
    · rintro ⟨⟩
      exact ⟨rfl, fun hf => by cases hf⟩
    · rintro ⟨⟩

theorem size_atomic : Atomic (size L) := by
  intro ⟨p, w⟩ f u
  rw [size_apply]
  rcases openClient .producer p.client with g | id
  · rintro ⟨⟩
    exact ⟨rfl, fun _ => rfl⟩
  have hcall : ∀ f, (World.invoke L id .outstanding w).1 = .error f → ¬f.IsRefusal :=
    World.invoke_unrefused _ w
  dsimp only
  rcases hcount : World.invoke L id .outstanding w with ⟨r, v⟩
  rw [hcount] at hcall
  rintro ⟨⟩
  exact ⟨rfl, fun hf => absurd hf (hcall f rfl)⟩

end Producer

/-! ## Consumers -/

namespace Consumer

theorem brokerFault_not_isRefusal {f : Fault} (h : ¬f.IsRefusal) :
    ¬(brokerFault f).IsRefusal := by
  unfold brokerFault
  split
  · simp [Fault.IsRefusal, Fault.cls]
  · exact h

/-- A request of an open consumer is refused by the checks or not at all. -/
theorem demand_error {c : Consumer} {id : ClientId} (hopen : c.client = some id)
    {r : Except Fault ModeRequest} {w : World σ} {f : Fault} {u : Consumer × World σ}
    (h : demand L r (c, w) = (.error f, u)) :
    u.1 = c ∧ (f.IsRefusal → r = .error f ∧ u = (c, w)) := by
  simp only [demand, hopen, openClient] at h
  rcases r with g | q
  · cases h
    exact ⟨rfl, fun _ => ⟨rfl, rfl⟩⟩
  have hask : (q.ask L c id).Unrefused := by
    cases q with
    | topic t policy => exact World.subscribe_unrefused _ _
    | place p => exact World.request_unrefused _
  have hw := hask w
  dsimp only [ModeRequest.perform] at h
  rcases hasked : q.ask L c id w with ⟨g | _, v⟩ <;> rw [hasked] at h hw <;> cases h
  exact ⟨rfl, fun hf => absurd hf (brokerFault_not_isRefusal (hw g rfl))⟩

theorem demand_atomic (r : Except Fault ModeRequest) : Atomic (demand L r) := by
  intro ⟨c, w⟩ f u h
  cases hc : c.client with
  | none =>
    rw [demand_closed r hc] at h
    cases h
    exact ⟨rfl, fun _ => rfl⟩
  | some id =>
    obtain ⟨hconsumer, hrefused⟩ := demand_error hc h
    exact ⟨hconsumer, fun hf => (hrefused hf).2⟩

theorem subscribeByTopic_atomic (topic policy : Value) :
    Atomic (subscribeByTopic L topic policy) := by
  intro ⟨c, w⟩ f u
  rw [subscribeByTopic_apply]
  exact demand_atomic _ (c, w) f u

theorem subscribeAtOffset_atomic (topic partition offset : Value) :
    Atomic (subscribeAtOffset L topic partition offset) := by
  intro ⟨c, w⟩ f u
  rw [subscribeAtOffset_apply]
  exact demand_atomic _ (c, w) f u

theorem classify_not_isRefusal (hL : L.CarriesBytes) {id : ClientId} {wait : Wait} {s : σ}
    {m : Option Fetched} (hm : (L.answer id (.pollMessage wait) s).1 = .ok m) {f : Fault}
    (h : classify m = .error f) : ¬f.IsRefusal := by
  rcases m with _ | m
  · cases h
  cases he : m.error with
  | some e =>
    simp only [classify, he] at h
    split at h <;> cases h
    simp [Fault.IsRefusal, Fault.cls]
  | none =>
    obtain ⟨key, value, hkey, hvalue⟩ := hL id wait s m hm he
    simp only [classify, he, hkey, hvalue, checkBytes_bytesOrAbsent] at h
    cases h

/-- What the checks of a poll let through is not refused by the rest of it. -/
theorem poll_unrefused (hL : L.CarriesBytes) {c : Consumer} {id : ClientId}
    (hopen : c.client = some id) {timeout : Value} {seconds : Option Binary64}
    (htimeout : Check.timeout timeout "timeout" = .ok seconds) {w : World σ} {f : Fault}
    (h : (poll L timeout (c, w)).1 = .error f) : ¬f.IsRefusal := by
  have hcall : ∀ f, (World.invoke L id (.pollMessage (waitFor seconds)) w).1 = .error f →
      ¬f.IsRefusal := World.invoke_unrefused _ w
  simp only [poll_apply, hopen, openClient, htimeout] at h
  rcases hinvoke : World.invoke L id (.pollMessage (waitFor seconds)) w with ⟨g | m, v⟩ <;>
    rw [hinvoke] at h
  · rw [hinvoke] at hcall
    cases h
    exact brokerFault_not_isRefusal (hcall g rfl)
  · obtain ⟨s, hm⟩ := World.invoke_ok hinvoke
    exact classify_not_isRefusal hL hm h

/-- A poll fails before anything else whatever its client does, or it refuses nothing. -/
theorem poll_early (hL : L.CarriesBytes) (timeout : Value) (c : Consumer) :
    (∃ f, ∀ w, poll L timeout (c, w) = (.error f, (c, w))) ∨
      ∀ w f, (poll L timeout (c, w)).1 = .error f → ¬f.IsRefusal := by
  cases hopen : c.client with
  | none =>
    exact Or.inl ⟨.refused (.handleClosed .consumer), fun w => by
      simp only [poll_apply, hopen, openClient]⟩
  | some id =>
    rcases htimeout : Check.timeout timeout "timeout" with g | seconds
    · exact Or.inl ⟨g, fun w => by simp only [poll_apply, hopen, openClient, htimeout]⟩
    · exact Or.inr fun w f h => poll_unrefused hL hopen htimeout h

theorem poll_atomic (hL : L.CarriesBytes) (timeout : Value) : Atomic (poll L timeout) := by
  intro ⟨c, w⟩ f u h
  have hpolls := poll_polls (L := L) timeout (c, w)
  rcases poll_early hL timeout c with ⟨g, hearly⟩ | hlate
  · rw [hearly] at h
    cases h
    exact ⟨rfl, fun _ => rfl⟩
  · rw [h] at hpolls
    exact ⟨hpolls.consumer, fun hf => absurd hf (hlate w f (by rw [h]))⟩

end Consumer

/-! ## Streams -/

namespace Stream

theorem round_timeout (t : Stream × Consumer × World σ) :
    (round L t).2.1.timeout = t.1.timeout := by
  obtain ⟨s, c, w⟩ := t
  simp only [round, Action.bind_apply, Action.get_apply]
  split
  · rfl
  · simp only [Action.bind_apply, Action.onSecond]
    rcases Consumer.poll L s.timeout (c, w) with ⟨g | p, c', w'⟩
    · rfl
    · obtain ⟨polls, messages, log, hreceived⟩ := received_apply p s c' w'
      simp only [hreceived]

theorem round_fault {t u : Stream × Consumer × World σ} {f : Fault}
    (h : round L t = (.error f, u)) : Consumer.poll L t.1.timeout t.2 = (.error f, u.2) := by
  obtain ⟨s, c, w⟩ := t
  simp only [round, Action.bind_apply, Action.get_apply] at h
  split at h
  · cases h
  · simp only [Action.bind_apply, Action.onSecond] at h
    rcases hpoll : Consumer.poll L s.timeout (c, w) with ⟨g | p, c', w'⟩
    · rw [hpoll] at h
      cases h
      rfl
    · obtain ⟨polls, messages, log, hreceived⟩ := received_apply p s c' w'
      simp only [hpoll, hreceived] at h
      cases h

theorem rounds_unrefused {timeout : Value} {c : Consumer}
    (hpoll : ∀ w f, (Consumer.poll L timeout (c, w)).1 = .error f → ¬f.IsRefusal) (fuel : Nat)
    {t u : Stream × Consumer × World σ} (ht : t.1.timeout = timeout) (hc : t.2.1 = c) {f : Fault}
    (h : rounds L fuel t = (.error f, u)) : ¬f.IsRefusal := by
  -- the checks of a poll depend on the timeout and the consumer alone, which no round changes
  induction fuel generalizing t with
  | zero => cases h
  | succ fuel ih =>
    rw [rounds] at h
    rcases Action.bind_cases h with ⟨item, v, hround, h⟩ | ⟨g, hround, hg⟩
    · cases item with
      | some item => cases h
      | none =>
        have htimeout := round_timeout (L := L) t
        have hconsumer := (round_polls (L := L) t).consumer
        rw [hround] at htimeout hconsumer
        exact ih (htimeout.trans ht) (hconsumer.trans hc) h
    · cases hg
      have hfault := round_fault hround
      obtain ⟨s, c', w⟩ := t
      cases hc
      cases ht
      exact hpoll w f (congrArg Prod.fst hfault)

theorem rounds_early {s : Stream} {c : Consumer} {w : World σ} {g f : Fault}
    (hpoll : Consumer.poll L s.timeout (c, w) = (.error g, (c, w))) (fuel : Nat)
    {u : Stream × Consumer × World σ} (h : rounds L fuel (s, c, w) = (.error f, u)) :
    u.2.2 = w := by
  have hround : (round L (s, c, w)).1 = .ok (some .finished) ∨
      round L (s, c, w) = (.error g, (s, c, w)) := by
    simp only [round, Action.bind_apply, Action.get_apply]
    split
    · exact Or.inl rfl
    · exact Or.inr (by simp only [Action.bind_apply, Action.onSecond, hpoll])
  cases fuel with
  | zero => cases h
  | succ fuel =>
    rw [rounds] at h
    rcases Action.bind_cases h with ⟨item, v, hv, h⟩ | ⟨g, hv, -⟩ <;> rw [hv] at hround
    · rcases hround with hitem | hitem
      · cases hitem
        cases h
      · cases hitem
    · rcases hround with hitem | hitem
      · cases hitem
      · cases hitem
        rfl

theorem next_error {fuel : Nat} {t u : Stream × Consumer × World σ} {f : Fault}
    (h : next L fuel t = (.error f, u)) : ∃ v, rounds L fuel t = (.error f, v) ∧ v.2 = u.2 := by
  unfold next at h
  split at h
  · cases h
  · split at h <;> rename_i hrounds <;> cases h
    exact ⟨_, hrounds, rfl⟩

/-- The next step of a stream fails as a poll does: it leaves the consumer alone, and a refusal
comes before any poll. -/
theorem next_atomic (hL : L.CarriesBytes) (fuel : Nat) {s s' : Stream} {c c' : Consumer}
    {w w' : World σ} {f : Fault} (h : next L fuel (s, c, w) = (.error f, (s', c', w'))) :
    c' = c ∧ (f.IsRefusal → w' = w) := by
  have hconsumer : c' = c := by
    have hpolls := (next_polls (L := L) fuel (s, c, w)).consumer
    rwa [h] at hpolls
  refine ⟨hconsumer, fun hf => ?_⟩
  obtain ⟨t, hrounds, hworld⟩ := next_error h
  rcases Consumer.poll_early hL s.timeout c with ⟨g, hearly⟩ | hlate
  · exact (congrArg Prod.snd hworld).symm.trans (rounds_early (hearly w) fuel hrounds)
  · exact absurd hf (rounds_unrefused hlate fuel rfl rfl hrounds)

end Stream

/-! ## Operations -/

namespace Host

variable {α : Type} {otherwise : Action (Option Handle × World σ) α}

theorem onProducer_atomic {a : Action (Producer × World σ) α} (ha : Atomic a)
    (ho : Atomic otherwise) : Atomic (onProducer a otherwise) := by
  intro t f u h
  unfold onProducer at h
  split at h
  · rename_i p w
    exact ha.within (s := p) (t := w) (fun p => some (Handle.producer p)) h
  · exact ho _ _ _ h

theorem onConsumer_atomic {a : Action (Consumer × World σ) α} (ha : Atomic a)
    (ho : Atomic otherwise) : Atomic (onConsumer a otherwise) := by
  intro t f u h
  unfold onConsumer at h
  split at h
  · rename_i c w
    exact ha.within (s := c) (t := w) (fun c => some (Handle.consumer c)) h
  · exact ho _ _ _ h

end Host

namespace Operation

theorem lacking_atomic {α : Type} (name : String) :
    Atomic (lacking name : Action (Option Handle × World σ) α) :=
  .still fun _ => rfl

theorem perform_atomic (hL : L.CarriesBytes) (fuel : Nat) {op : Operation}
    (hop : ∀ role, op.ends role = false) : Atomic (op.perform L fuel) := by
  cases op with
  | send a =>
    exact .reply (Host.onProducer_atomic (Producer.send_atomic fuel _ _ _ _) (lacking_atomic _)) _
  | subscribeByTopic topic policy =>
    exact .reply
      (Host.onConsumer_atomic (Consumer.subscribeByTopic_atomic _ _) (lacking_atomic _)) _
  | subscribeAtOffset topic partition offset =>
    exact .reply
      (Host.onConsumer_atomic (Consumer.subscribeAtOffset_atomic _ _ _) (lacking_atomic _)) _
  | flush timeout =>
    exact .reply (Host.onProducer_atomic (Producer.flush_atomic _) (lacking_atomic _)) _
  | poll timeout =>
    exact .reply (Host.onConsumer_atomic (Consumer.poll_atomic hL _) (lacking_atomic _)) _
  | size =>
    exact .reply (Host.onProducer_atomic Producer.size_atomic (.still fun _ => rfl)) _
  | destroy => cases hop .producer
  | close => cases hop .consumer
  | leave => cases hop .producer
  | truth => exact .still fun _ => rfl
  | text | enter =>
    refine .still fun ⟨given, w⟩ => ?_
    cases given <;> rfl
  | misapplied role name f =>
    cases role with
    | producer => exact Host.onProducer_atomic (.fail f) (lacking_atomic _)
    | consumer => exact Host.onConsumer_atomic (.fail f) (lacking_atomic _)

theorem performByHost_atomic (hL : L.CarriesBytes) (fuel : Nat) {op : Operation}
    (hop : ∀ role, op.ends role = false) : Atomic (op.performByHost L fuel) := by
  cases op with
  | send a => exact .reply (Host.onProducer_atomic (Producer.send_atomic fuel _ _ _ _) (.fail _)) _
  | subscribeByTopic topic policy =>
    exact .reply (Host.onConsumer_atomic (Consumer.subscribeByTopic_atomic _ _) (.fail _)) _
  | subscribeAtOffset topic partition offset =>
    exact .reply (Host.onConsumer_atomic (Consumer.subscribeAtOffset_atomic _ _ _) (.fail _)) _
  | flush timeout =>
    exact .reply
      (Host.onProducer_atomic (.lift_bind fun _ => Producer.flush_atomic _) (.fail _)) _
  | poll timeout =>
    exact .reply
      (Host.onConsumer_atomic (.lift_bind fun _ => Consumer.poll_atomic hL _) (.fail _)) _
  | destroy => cases hop .producer
  | close => cases hop .consumer
  | misapplied role name f => exact .fail f
  | size | truth | text | enter | leave => exact perform_atomic hL fuel hop

theorem ask_atomic (hL : L.CarriesBytes) (fuel : Nat) (byHost : Bool) {op : Operation}
    (hop : ∀ role, op.ends role = false) : Atomic (op.ask L fuel byHost) := by
  cases byHost with
  | false => exact perform_atomic hL fuel hop
  | true => exact performByHost_atomic hL fuel hop

end Operation

/-! ## Creation -/

theorem Blueprint.creationFault_not_isRefusal (f : Fault) : ¬(creationFault f).IsRefusal := by
  have hconfig (name : Value) (code : Int) (reason : String) :
      ¬(Fault.wrapping (.config name) code reason).IsRefusal :=
    Fault.wrapping_not_isRefusal (fun e => by simp [Fault.IsRefusal, Fault.cls]) code reason
  unfold creationFault
  split
  · split
    · simp [Fault.IsRefusal, Fault.cls]
    · exact hconfig _ _ _
  · split
    · exact hconfig _ _ _
    · rename_i hvalue
      -- a refusal would be a wrong value, which is told as a rejected property
      intro hf
      have hcls : f.cls = .validation := hf
      exact hvalue (by rw [hcls]; rfl)

namespace Handle

theorem make_refused (role : Role) {given : ConfigArgument} {w u : World σ} {f : Fault}
    (h : make L role given w = (.error f, u)) (hf : f.IsRefusal) : u = w := by
  rcases make_cases L role given w with ⟨g, hmake⟩ | ⟨c, -, hmake⟩ <;> rw [hmake] at h
  · cases h
    rfl
  · split at h
    · obtain ⟨flaw, rfl⟩ := ofClient_error (congrArg Prod.fst h)
      exact absurd hf (Fault.untold_not_isRefusal flaw)
    · cases h
      exact absurd hf (Blueprint.creationFault_not_isRefusal _)

end Handle

theorem Producer.make_refused {given : ConfigArgument} {w u : World σ} {f : Fault}
    (h : make L given w = (.error f, u)) (hf : f.IsRefusal) : u = w :=
  Handle.make_refused .producer (Action.bind_error h) hf

theorem Consumer.make_refused {given : ConfigArgument} {w u : World σ} {f : Fault}
    (h : make L given w = (.error f, u)) (hf : f.IsRefusal) : u = w :=
  Handle.make_refused .consumer (Action.bind_error h) hf

theorem Host.makeProducer_refused {a : Arguments} {w u : World σ} {f : Fault}
    (h : makeProducer L a w = (.error f, u)) (hf : f.IsRefusal) : u = w := by
  refine Action.lift_bind_still h fun s h => ?_
  exact Action.lift_bind_still h fun c h => Producer.make_refused h hf

theorem Host.makeConsumer_refused {a : Arguments} {w u : World σ} {f : Fault}
    (h : makeConsumer L a w = (.error f, u)) (hf : f.IsRefusal) : u = w := by
  refine Action.lift_bind_still h fun s h => ?_
  exact Action.lift_bind_still h fun c h => Consumer.make_refused h hf

/-! ## Failures -/

/-- A failed operation is atomic, whatever its arguments are and whatever the client does. If an
operation that does not close its handle, or a step of a stream, ends in a fault, the handle is as
it was before; if the fault refuses an argument, the whole world is, the calls on clients with it.
A handle whose arguments are refused has not been made, and no client has been created for it. -/
theorem Operation.failures_are_atomic (hL : L.CarriesBytes) (fuel : Nat) (w : World σ) :
    (∀ (op : Operation) (byHost : Bool) (given : Option Handle) f given' w',
      (∀ role, op.ends role = false) →
      op.ask L fuel byHost (given, w) = (.error f, (given', w')) →
      given' = given ∧ (f.cls = .validation → w' = w)) ∧
    (∀ (s : Stream) (c : Consumer) f s' c' w',
      Stream.next L fuel (s, c, w) = (.error f, (s', c', w')) →
      c' = c ∧ (f.cls = .validation → w' = w)) ∧
    (∀ given f w', Producer.make L given w = (.error f, w') → f.cls = .validation → w' = w) ∧
    (∀ given f w', Consumer.make L given w = (.error f, w') → f.cls = .validation → w' = w) ∧
    (∀ a f w', Host.makeProducer L a w = (.error f, w') → f.cls = .validation → w' = w) ∧
    ∀ a f w', Host.makeConsumer L a w = (.error f, w') → f.cls = .validation → w' = w := by
  refine ⟨?_, ?_, ?_, ?_, ?_, ?_⟩
  · intro op byHost given f given' w' hop h
    obtain ⟨hkept, hrefused⟩ := ask_atomic hL fuel byHost hop _ _ _ h
    refine ⟨hkept, fun hf => ?_⟩
    cases hrefused hf
    rfl
  · intro s c f s' c' w' h
    exact Stream.next_atomic hL fuel h
  · intro given f w' h hf
    exact Producer.make_refused h hf
  · intro given f w' h hf
    exact Consumer.make_refused h hf
  · intro a f w' h hf
    exact Host.makeProducer_refused h hf
  · intro a f w' h hf
    exact Host.makeConsumer_refused h hf

/-- A poll with a text for its timeout is refused before the client is asked for the message that
is waiting. -/
theorem Operation.refused_poll_asks_nothing :
    let c : Consumer := ⟨some 0, some .assign, .latest, false⟩
    let w : World (List (Option Message)) := { library := [some ⟨none, some [], "jobs", 0, 0⟩] }
    ∃ f given' w', (poll (.text "1")).ask Library.queue 1 true (some (.consumer c), w) =
        (.error f, (given', w')) ∧
      f.cls = .validation ∧ given' = some (.consumer c) ∧ w' = w := by
  intro c w
  refine ⟨_, _, _, rfl, rfl, ?_⟩
  have h := (failures_are_atomic Library.queue_carriesBytes 1 w).1 (poll (.text "1")) true
    (some (.consumer c)) _ _ _ (fun role => rfl) rfl
  exact ⟨h.1, h.2 rfl⟩

end KafkaHandles
