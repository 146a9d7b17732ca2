import KafkaHandles.Proofs.Consumer.Answers
import KafkaHandles.Proofs.Handle.Scene
import KafkaHandles.Proofs.OffsetPolicy
import KafkaHandles.Scripted.Client

/-!
# The mode of a consumer

A consumer is in no mode until its client grants it one, and then stays in that one. The mode is
read before the client is asked and written after it has answered; in between nothing else happens,
so a request that fails in any way leaves the consumer as it was.
-/

namespace KafkaHandles

variable {σ : Type}

/-! ## What is asked and what is granted -/

/-- The mode that an operation asks for. -/
def Operation.asks? : Operation → Option Mode
  | subscribeByTopic .. => some .subscribe
  | subscribeAtOffset .. => some .assign
  | _ => none

/-- The mode that a move asks for. -/
def Move.asks? : Move → Option Mode
  | operate _ op => op.asks?
  | _ => none

/-- The request that an operation makes of a consumer, if its arguments are valid. -/
inductive Operation.Requests (c : Consumer) : Operation → ModeRequest → Prop
  | topic {t : String} {policy : Value} {p : OffsetPolicy} (text : ¬(Text.strip t).isEmpty)
      (names : c.effectivePolicy policy = .ok p) :
      Requests c (subscribeByTopic (.text t) policy) (.topic t p)
  | place {t : String} {p o : Int} (text : ¬(Text.strip t).isEmpty)
      (noNul : Char.ofNat 0 ∉ t.toList) (partition : 0 ≤ p ∧ p < Number.int32Bound)
      (offset : -(Number.int64Bound : Int) ≤ o ∧ o < Number.int64Bound) :
      Requests c (subscribeAtOffset (.text t) (.int p) (.int o)) (.place ⟨t, p, o⟩)

/-- How an operation that asks for a mode is turned down: with a refusal, or with what keeps its
policy from being shown. -/
def Operation.TurnedDown (op : Operation) (f : Fault) : Prop :=
  (∃ r, f = .refused r) ∨
    ∃ topic policy flaw, op = subscribeByTopic topic policy ∧ policy.shown = .error flaw ∧
      f = .untold flaw

/-- The mode that a client grants in an exchange. -/
def Exchange.grants? : Exchange → Option Mode
  | ⟨_, .subscribe .., .ok _⟩ => some .subscribe
  | ⟨_, .assign _, .ok _⟩ => some .assign
  | _ => none

/-- Whether a call is a subscription. -/
def Call.isSubscription : Call → Bool
  | .subscribe .. => true
  | _ => false

/-- What the answer of a client makes of a request: the consumer enters the mode if it is granted,
and stays as it is otherwise. -/
def ModeRequest.Settles (c : Consumer) (q : ModeRequest) (a : Except ClientFault Unit)
    (r : Except Fault Reply) (h : Handle) : Prop :=
  match a with
  | .ok _ => r = .ok .nothing ∧ h = .consumer { c with mode := some q.mode }
  | .error (.error e) => r = .error (.broker e) ∧ h = .consumer c
  | .error (.raised cls text) => r = .error (.raised cls text) ∧ h = .consumer c

namespace Taken

/-- The exchanges with the client that a move has brought about. -/
def exchanges (x : Taken (σ × List Exchange)) : List Exchange :=
  x.after.world.heard.drop x.before.world.heard.length

/-- The mode that a client has granted to a move that asked for one. The assignments by which a
client follows a start rule grant nothing. -/
def granted? (x : Taken (σ × List Exchange)) : Option Mode :=
  if x.move.asks?.isSome then x.exchanges.findSome? Exchange.grants? else none

/-- What a move does with the mode of a consumer, given the moves before it. -/
structure KeepsMode (past : List (Taken (σ × List Exchange))) (x : Taken (σ × List Exchange)) :
    Prop where
  /-- The consumer is in the mode that was granted first, before the move and after it. -/
  mode : ∃ c d, x.before.handle = .consumer c ∧ x.after.handle = .consumer d ∧
    c.mode = past.findSome? granted? ∧ d.mode = (past ++ [x]).findSome? granted?
  /-- Once a mode was granted, a request for the other one does nothing and is refused, unless its
  policy cannot be shown. -/
  exclusive : ∀ y ∈ past, ∀ mode other, y.granted? = some mode → x.move.asks? = some other →
    other ≠ mode → x.after = x.before ∧
    ∃ byHost op f, x.move = .operate byHost op ∧ x.outcome = .error f ∧ op.TurnedDown f
  /-- A valid request for the consumer's own mode, or for any if it is in none, makes one call, and
  the answer to that call settles it. -/
  request : ∀ c id byHost op q, x.before.handle = .consumer c → c.client = some id →
    x.move = .operate byHost op → op.Requests c q → (c.mode = none ∨ c.mode = some q.mode) →
    ∃ a, x.after.world.calls = x.before.world.calls ++ [(id, q.call c)] ∧
      x.after.world.heard = x.before.world.heard ++ [q.exchange c id a] ∧
      q.Settles c a x.outcome x.after.handle
  /-- Any other request fails without a call. -/
  invalid : ∀ c byHost op, x.before.handle = .consumer c → x.move = .operate byHost op →
    op.asks?.isSome → (c.client = none ∨ ¬∃ q, op.Requests c q) →
    (∃ f, x.outcome = .error f) ∧ x.after = x.before
  /-- A move that asks for no mode makes no subscription. -/
  quiet : x.move.asks? = none →
    ∃ made, x.after.world.calls = x.before.world.calls ++ made ∧
      ∀ e ∈ made, ¬e.2.isSubscription

end Taken

/-! ## Checks of requests -/

namespace Consumer

variable {c : Consumer} {op : Operation}

/-- What the checks make of the arguments of an operation that asks for a mode. -/
def request? (c : Consumer) : Operation → Option (Except Fault ModeRequest)
  | .subscribeByTopic topic policy => some (c.topicRequest topic policy)
  | .subscribeAtOffset topic partition offset => some (c.placeRequest topic partition offset)
  | _ => none

theorem request?_of_asks? {mode : Mode} (h : op.asks? = some mode) :
    ∃ r, c.request? op = some r := by
  cases op <;> first | exact ⟨_, rfl⟩ | cases h

theorem admits_ok {mode : Mode} :
    c.admits mode = .ok () ↔ c.mode = none ∨ c.mode = some mode := by
  unfold admits
  cases c.mode with
  | none => simp
  | some taken =>
    by_cases h : taken = mode
    · simp [h]
    · simp [h]

theorem topicRequest_ok {topic policy : Value} {q : ModeRequest} :
    c.topicRequest topic policy = .ok q ↔ ∃ t p, Check.text topic "topic" = .ok t ∧
      c.effectivePolicy policy = .ok p ∧ c.admits .subscribe = .ok () ∧ q = .topic t p := by
  unfold topicRequest
  rcases Check.text topic "topic" with f | t
  · simp [bind, Except.bind]
  rcases c.effectivePolicy policy with f | p
  · simp [bind, Except.bind]
  rcases c.admits .subscribe with f | _
  · simp [bind, Except.bind]
  · simp [bind, Except.bind, eq_comm]

theorem placeRequest_ok {topic partition offset : Value} {q : ModeRequest} :
    c.placeRequest topic partition offset = .ok q ↔ ∃ t p o place,
      Check.text topic "topic" = .ok t ∧ Check.natural partition "partition" = .ok p ∧
      Check.integer offset "offset" = .ok o ∧ c.admits .assign = .ok () ∧
      TopicPartition.make t p o = .ok place ∧ q = .place place := by
  unfold placeRequest
  rcases Check.text topic "topic" with f | t
  · simp [bind, Except.bind]
  rcases Check.natural partition "partition" with f | p
  · simp [bind, Except.bind]
  rcases Check.integer offset "offset" with f | o
  · simp [bind, Except.bind]
  rcases c.admits .assign with f | _
  · simp [bind, Except.bind]
  rcases hmake : TopicPartition.make t p o with f | place
  · simp [bind, Except.bind, hmake]
  · simp [bind, Except.bind, hmake, eq_comm]

/-- The checks let exactly the valid requests through that the consumer's mode admits. -/
theorem request?_ok {q : ModeRequest} : c.request? op = some (.ok q) ↔
    op.Requests c q ∧ (c.mode = none ∨ c.mode = some q.mode) := by
  constructor
  · intro h
    cases op with
    | subscribeByTopic topic policy =>
      obtain ⟨t, p, ht, hp, hadmits, rfl⟩ := topicRequest_ok.mp (Option.some.inj h)
      obtain ⟨rfl, hblank⟩ := Check.text_ok.mp ht
      exact ⟨.topic hblank hp, admits_ok.mp hadmits⟩
    | subscribeAtOffset topic partition offset =>
      obtain ⟨t, p, o, place, ht, hp, ho, hadmits, hmake, rfl⟩ :=
        placeRequest_ok.mp (Option.some.inj h)
      obtain ⟨rfl, hblank⟩ := Check.text_ok.mp ht
      obtain ⟨rfl, hnatural⟩ := Check.natural_ok.mp hp
      obtain rfl := Check.integer_ok.mp ho
      obtain ⟨rfl, hnul, hpartition, hoffset⟩ := TopicPartition.make_ok.mp hmake
      exact ⟨.place hblank hnul ⟨hnatural, hpartition.2⟩ hoffset, admits_ok.mp hadmits⟩
    | _ => cases h
  · rintro ⟨hrequests, hmode⟩
    cases hrequests with
    | @topic t policy p hblank hp =>
      have ht : Check.text (.text t) "topic" = .ok t := Check.text_ok.mpr ⟨rfl, hblank⟩
      exact congrArg some (topicRequest_ok.mpr ⟨t, p, ht, hp, admits_ok.mpr hmode, rfl⟩)
    | @place t p o hblank hnul hpartition hoffset =>
      have ht : Check.text (.text t) "topic" = .ok t := Check.text_ok.mpr ⟨rfl, hblank⟩
      have hp : Check.natural (.int p) "partition" = .ok p :=
        Check.natural_ok.mpr ⟨rfl, hpartition.1⟩
      have hmake := TopicPartition.make_ok.mpr ⟨rfl, hnul, ⟨by omega, hpartition.2⟩, hoffset⟩
      exact congrArg some
        (placeRequest_ok.mpr ⟨t, p, o, _, ht, hp, rfl, admits_ok.mpr hmode, hmake, rfl⟩)

theorem effectivePolicy_turnedDown {topic policy : Value} {f : Fault}
    (h : c.effectivePolicy policy = .error f) :
    Operation.TurnedDown (.subscribeByTopic topic policy) f := by
  unfold effectivePolicy at h
  split at h
  · cases h
  · rcases OffsetPolicy.parse_fails h with hrefused | ⟨flaw, hflaw, hf⟩
    · exact Or.inl hrefused
    · exact Or.inr ⟨topic, policy, flaw, rfl, hflaw, hf⟩

/-- A consumer that is in one mode turns every request for the other down, valid or not. -/
theorem request?_turnedDown {mode other : Mode} (hc : c.mode = some mode)
    (hop : op.asks? = some other) (hne : other ≠ mode) :
    ∃ f, c.request? op = some (.error f) ∧ op.TurnedDown f := by
  have hadmits : c.admits other = .error (.refused (.modeTaken mode)) := by
    simp [admits, hc, hne.symm]
  cases op with
  | subscribeByTopic topic policy =>
    cases hop
    simp only [request?, topicRequest, hadmits]
    rcases ht : Check.text topic "topic" with f | t
    · exact ⟨f, rfl, Or.inl (Check.text_refuses f ht)⟩
    rcases hp : c.effectivePolicy policy with f | p
    · exact ⟨f, rfl, effectivePolicy_turnedDown hp⟩
    exact ⟨_, rfl, Or.inl ⟨_, rfl⟩⟩
  | subscribeAtOffset topic partition offset =>
    cases hop
    simp only [request?, placeRequest, hadmits]
    rcases ht : Check.text topic "topic" with f | t
    · exact ⟨f, rfl, Or.inl (Check.text_refuses f ht)⟩
    rcases hp : Check.natural partition "partition" with f | p
    · exact ⟨f, rfl, Or.inl (Check.natural_refuses f hp)⟩
    rcases ho : Check.integer offset "offset" with f | o
    · exact ⟨f, rfl, Or.inl (Check.integer_refuses f ho)⟩
    exact ⟨_, rfl, Or.inl ⟨_, rfl⟩⟩
  | _ => cases hop

end Consumer

variable {L : Library σ}

theorem ModeRequest.perform_settles (q : ModeRequest) (id : ClientId) (c : Consumer)
    (w : World (σ × List Exchange)) :
    ∃ a, (q.perform L.recorded id (c, w)).2.2.calls = w.calls ++ [(id, q.call c)] ∧
      (q.perform L.recorded id (c, w)).2.2.heard = w.heard ++ [q.exchange c id a] ∧
      q.Settles c a ((q.perform L.recorded id (c, w)).1.map fun _ => .nothing)
        (.consumer (q.perform L.recorded id (c, w)).2.1) := by
  obtain ⟨a, ha, hheard⟩ := q.ask_heard (L := L) c id w
  have hcalls := q.ask_calls (L := L.recorded) c id w
  refine ⟨a, ?_⟩
  unfold perform
  dsimp only
  rcases hask : q.ask L.recorded c id w with ⟨r, u⟩
  rw [hask] at ha hheard hcalls
  obtain rfl : r = _ := ha
  rcases a with e | ⟨⟩
  · cases e <;> exact ⟨hcalls, hheard, rfl, rfl⟩
  · exact ⟨hcalls, hheard, rfl, rfl⟩

theorem ModeRequest.exchange_grants (q : ModeRequest) (c : Consumer) (id : ClientId)
    (a : Except ClientFault Unit) :
    (q.exchange c id a).grants? = a.toOption.map fun _ => q.mode := by
  cases q <;> cases a <;> rfl

/-! ## Other deeds -/

theorem Call.not_isSubscription_of_isFollowing {c : Call} (h : c.isFollowing) :
    ¬c.isSubscription := by
  cases c <;> simp_all [isSubscription, isFollowing]

theorem Call.not_isSubscription_of_isPolling {c : Call} (h : c.isPolling) :
    ¬c.isSubscription := by
  cases c <;> simp_all [isSubscription, isPolling, isFollowing]

/-- What is left to do with a consumer, besides asking for a mode. -/
inductive Consumer.Deed.IsQuiet : Consumer.Deed → Prop
  | poll (timeout : Value) : IsQuiet (poll timeout)
  | close : IsQuiet close

theorem Operation.deed_quiet {op : Operation} {byHost : Bool} {d : Consumer.Deed}
    (hop : op.asks? = none) (hd : op.onConsumer? byHost = some d) : d.IsQuiet := by
  cases op with
  | subscribeByTopic topic policy => cases hop
  | subscribeAtOffset topic partition offset => cases hop
  | poll timeout =>
    dsimp only [onConsumer?] at hd
    split at hd
    · obtain ⟨x, -, rfl⟩ := Option.map_eq_some_iff.mp hd
      exact .poll _
    · cases hd
      exact .poll timeout
  | close =>
    cases hd
    exact .close
  | leave =>
    cases hd
    exact .close
  | _ => cases hd

theorem Consumer.Deed.act_quiet {d : Consumer.Deed} (hd : d.IsQuiet) (c : Consumer)
    (w : World σ) :
    (d.act L (c, w)).2.1.mode = c.mode ∧
      World.Asks c.client (¬·.isSubscription) w (d.act L (c, w)).2.2 := by
  cases hd with
  | poll timeout =>
    rw [act, Action.bind_pure_apply]
    have hpolls := poll_polls (L := L) timeout (c, w)
    exact ⟨congrArg Consumer.mode hpolls.consumer,
      hpolls.asks.mono fun _ he => ⟨he.1, Call.not_isSubscription_of_isPolling he.2⟩⟩
  | close =>
    rw [act, Action.bind_pure_apply]
    cases hc : c.client with
    | none =>
      rw [close_closed L hc]
      exact ⟨rfl, World.asks_of_eq rfl⟩
    | some id =>
      obtain ⟨log, hclose⟩ := close_open L hc w
      rw [hclose]
      have hquiet : ¬Call.close.isSubscription := by simp [Call.isSubscription]
      exact ⟨rfl, World.invoke_asks (P := fun c => ¬c.isSubscription) hquiet
        (fun _ => Call.not_isSubscription_of_isFollowing) w⟩

/-! ## Moves -/

namespace Scene

variable (L) (fuel : Nat)

/-- An operation that asks for a mode fails and changes nothing, or its arguments are valid and the
client is asked for that mode. -/
theorem take_request {s : Scene (σ × List Exchange)} {c : Consumer} {op : Operation}
    {r : Except Fault ModeRequest} (hs : s.handle = .consumer c) (hop : c.request? op = some r)
    (byHost : Bool) :
    (∃ f, s.take L.recorded fuel (.operate byHost op) = (.error f, s) ∧
      (c.client = none ∧ f = .refused (.handleClosed .consumer) ∨ r = .error f)) ∨
    ∃ id q a, c.client = some id ∧ r = .ok q ∧
      (s.take L.recorded fuel (.operate byHost op)).2.world.calls =
        s.world.calls ++ [(id, q.call c)] ∧
      (s.take L.recorded fuel (.operate byHost op)).2.world.heard =
        s.world.heard ++ [q.exchange c id a] ∧
      q.Settles c a (s.take L.recorded fuel (.operate byHost op)).1
        (s.take L.recorded fuel (.operate byHost op)).2.handle := by
  have htake : s.take L.recorded fuel (.operate byHost op) =
      match Consumer.demand L.recorded r (c, s.world) with
      | (r, (c, world)) => (r.map fun _ => .nothing, { s with handle := .consumer c, world }) := by
    rcases take_operate_consumer L.recorded fuel hs byHost op with ⟨d, hd, htake⟩ | ⟨hd, -⟩
    · rw [htake]
      cases op with
      | subscribeByTopic topic policy =>
        cases hd
        cases hop
        rw [Consumer.Deed.act, Action.bind_pure_apply, Consumer.subscribeByTopic_apply]
      | subscribeAtOffset topic partition offset =>
        cases hd
        cases hop
        rw [Consumer.Deed.act, Action.bind_pure_apply, Consumer.subscribeAtOffset_apply]
      | _ => cases hop
    · cases op <;> cases hop <;> cases hd
  have hsame : { s with handle := .consumer c } = s := by rw [← hs]
  rw [htake]
  simp only [Consumer.demand]
  cases c.client with
  | none => exact Or.inl ⟨_, congrArg (Prod.mk _) hsame, Or.inl ⟨rfl, rfl⟩⟩
  | some id =>
    cases r with
    | error f => exact Or.inl ⟨f, congrArg (Prod.mk _) hsame, Or.inr rfl⟩
    | ok q =>
      obtain ⟨a, hcalls, hheard, hsettles⟩ := q.perform_settles (L := L) id c s.world
      exact Or.inr ⟨id, q, a, rfl, rfl, hcalls, hheard, hsettles⟩

/-- A move that asks for no mode leaves the consumer in its mode and makes no subscription. -/
theorem take_quiet {s : Scene σ} {c : Consumer} {m : Move} (hs : s.handle = .consumer c)
    (hm : m.asks? = none) :
    ∃ d, (s.take L fuel m).2.handle = .consumer d ∧ d.mode = c.mode ∧
      World.Asks c.client (¬·.isSubscription) s.world (s.take L fuel m).2.world := by
  rcases take_consumer L fuel hs m with
    ⟨byHost, op, d, rfl, hd, htake⟩ | ⟨i, stream, -, -, htake⟩ | ⟨r, streams, stops, htake, -⟩
  · rw [htake]
    exact ⟨_, rfl, d.act_quiet (op.deed_quiet hm hd) c s.world⟩
  · have hpolls := Stream.next_polls (L := L) fuel (stream, c, s.world)
    rw [htake]
    exact ⟨_, rfl, congrArg Consumer.mode hpolls.consumer,
      hpolls.asks.mono fun _ he => ⟨he.1, Call.not_isSubscription_of_isPolling he.2⟩⟩
  · rw [htake]
    exact ⟨c, hs, rfl, World.asks_of_eq rfl⟩

end Scene

/-! ## What moves grant -/

namespace Taken

variable {x : Taken (σ × List Exchange)}

theorem granted?_of_same (h : x.after = x.before) : x.granted? = none := by
  simp [granted?, exchanges, h]

theorem granted?_of_heard {e : Exchange} (hasks : x.move.asks?.isSome)
    (h : x.after.world.heard = x.before.world.heard ++ [e]) : x.granted? = e.grants? := by
  rw [granted?, if_pos hasks, exchanges, h, List.drop_left, List.findSome?_singleton]

end Taken

/-! ## Runs -/

namespace Scene

variable {past : List (Taken (σ × List Exchange))} {s : Scene (σ × List Exchange)}

/-- A consumer is in the mode that was granted first, and no other has been granted. -/
structure Moded (past : List (Taken (σ × List Exchange))) (s : Scene (σ × List Exchange)) :
    Prop where
  mode : ∃ c, s.handle = .consumer c ∧ c.mode = past.findSome? Taken.granted?
  same : ∀ y ∈ past, ∀ mode, y.granted? = some mode → past.findSome? Taken.granted? = some mode

/-- A consumer without a mode enters the one that a move is granted, and one that is in a mode is
granted no other. -/
theorem taken_mode (fuel : Nat) {c : Consumer} (hs : s.handle = .consumer c) (m : Move) :
    ∃ d, (s.take L.recorded fuel m).2.handle = .consumer d ∧
      d.mode = c.mode.or (s.taken L.recorded fuel m).granted? ∧
      ∀ mode, (s.taken L.recorded fuel m).granted? = some mode → d.mode = some mode := by
  have hnone {d : Consumer} (hd : d.mode = c.mode)
      (hgranted : (s.taken L.recorded fuel m).granted? = none) :
      d.mode = c.mode.or (s.taken L.recorded fuel m).granted? ∧
        ∀ mode, (s.taken L.recorded fuel m).granted? = some mode → d.mode = some mode := by
    rw [hgranted, Option.or_none]
    exact ⟨hd, fun mode h => by cases h⟩
  cases hasks : m.asks? with
  | none =>
    -- nothing is granted unless it is asked for, so only the mode itself is left to see to
    obtain ⟨d, hd, hmode, -⟩ := take_quiet L.recorded fuel hs hasks
    refine ⟨d, hd, hnone hmode ?_⟩
    simp [Taken.granted?, taken, hasks]
  | some mode =>
    cases m with
    | operate byHost op =>
      obtain ⟨r, hop⟩ := Consumer.request?_of_asks? (c := c) hasks
      rcases take_request L fuel hs hop byHost with
        ⟨f, htake, -⟩ | ⟨id, q, a, -, rfl, -, hheard, hsettles⟩
      · refine ⟨c, by rw [htake]; exact hs, hnone rfl (Taken.granted?_of_same ?_)⟩
        simp only [taken, htake]
      · have hgranted : (s.taken L.recorded fuel (.operate byHost op)).granted? =
            a.toOption.map fun _ => q.mode := by
          rw [Taken.granted?_of_heard (by simp [taken, hasks]) hheard, q.exchange_grants]
        -- the checks have let the request through, so the consumer is in no mode or in this one
        rcases a with (e | ⟨cls, text⟩) | ⟨⟩
        · exact ⟨c, hsettles.2, hnone rfl hgranted⟩
        · exact ⟨c, hsettles.2, hnone rfl hgranted⟩
        · refine ⟨_, hsettles.2, ?_⟩
          rw [hgranted]
          obtain hmode | hmode := (Consumer.request?_ok.mp hop).2
          · rw [hmode]
            exact ⟨rfl, fun _ h => h⟩
          · rw [hmode]
            exact ⟨rfl, fun _ h => h⟩
    | _ => cases hasks

theorem Moded.next (h : Moded past s) (fuel : Nat) (m : Move) :
    Moded (past ++ [s.taken L.recorded fuel m]) (s.taken L.recorded fuel m).after := by
  obtain ⟨c, hs, hc⟩ := h.mode
  obtain ⟨d, hd, hmode, hgranted⟩ := taken_mode (L := L) fuel hs m
  have hfirst : (past ++ [s.taken L.recorded fuel m]).findSome? Taken.granted? = d.mode := by
    rw [List.findSome?_append, List.findSome?_singleton, hmode, hc]
  refine ⟨⟨d, hd, hfirst.symm⟩, ?_⟩
  intro y hy mode hymode
  rw [hfirst]
  rcases List.mem_append.mp hy with hy | hy
  · rw [hmode, hc, h.same y hy mode hymode]
    rfl
  · rw [List.mem_singleton.mp hy] at hymode
    exact hgranted mode hymode

theorem Moded.keepsMode (h : Moded past s) (fuel : Nat) (m : Move) :
    (s.taken L.recorded fuel m).KeepsMode past := by
  obtain ⟨c, hs, hc⟩ := h.mode
  obtain ⟨d, hd, hdmode⟩ := (h.next fuel m).mode
  refine ⟨⟨c, d, hs, hd, hc, hdmode⟩, ?_, ?_, ?_, ?_⟩
  · intro y hy mode other hymode hasks hne
    cases m with
    | operate byHost op =>
      obtain ⟨g, hop, hg⟩ :=
        Consumer.request?_turnedDown (hc.trans (h.same y hy mode hymode)) hasks hne
      rcases take_request L fuel hs hop byHost with
        ⟨f, htake, hf⟩ | ⟨id, q, a, -, hr, -⟩
      · simp only [taken, htake]
        refine ⟨trivial, byHost, op, f, rfl, rfl, ?_⟩
        rcases hf with ⟨-, rfl⟩ | hf
        · exact Or.inl ⟨_, rfl⟩
        · cases hf
          exact hg
      · cases hr
    | _ => cases hasks
  · rintro c' id byHost op q hs' hclient rfl hrequests hmode
    cases hs.symm.trans hs'
    have hop := Consumer.request?_ok.mpr ⟨hrequests, hmode⟩
    rcases take_request L fuel hs hop byHost with
      ⟨f, -, hf⟩ | ⟨id', q', a, hclient', hr, hcalls, hheard, hsettles⟩
    · rcases hf with ⟨hclosed, -⟩ | hf
      · cases hclosed.symm.trans hclient
      · cases hf
    · cases hr
      cases hclient'.symm.trans hclient
      exact ⟨a, hcalls, hheard, hsettles⟩
  · rintro c' byHost op hs' rfl hasks hinvalid
    cases hs.symm.trans hs'
    obtain ⟨mode, hmode⟩ := Option.isSome_iff_exists.mp hasks
    obtain ⟨r, hop⟩ := Consumer.request?_of_asks? (c := c) hmode
    rcases take_request L fuel hs hop byHost with
      ⟨f, htake, -⟩ | ⟨id, q, a, hclient, rfl, -⟩
    · simp only [taken, htake]
      exact ⟨⟨f, rfl⟩, trivial⟩
    · rcases hinvalid with hclosed | hinvalid
      · cases hclosed.symm.trans hclient
      · exact absurd ⟨q, (Consumer.request?_ok.mp hop).1⟩ hinvalid
  · intro hasks
    obtain ⟨d, -, -, made, hcalls, hmade⟩ := take_quiet L.recorded fuel hs hasks
    exact ⟨made, hcalls, fun e he => (hmade e he).2⟩

end Scene

/-- Whatever is asked of a consumer that is in no mode, and whatever its client grants or raises:
it enters the mode that is granted first, no other is ever granted, and requests that are refused or
rejected, or whose policy cannot be shown, leave it as it was. -/
theorem Consumer.modes_are_exclusive (fuel : Nat) (c : Consumer) (w : World (σ × List Exchange))
    (moves : List Move) :
    let s : Scene (σ × List Exchange) := { handle := .consumer { c with mode := none }, world := w }
    let trace := s.trace L.recorded fuel moves
    (∃ d, (s.run L.recorded fuel moves).handle = .consumer d ∧
      d.mode = trace.findSome? Taken.granted? ∧
      ∀ x ∈ trace, ∀ mode, x.granted? = some mode → d.mode = some mode) ∧
    ∀ before x after, trace = before ++ x :: after → x.KeepsMode before := by
  intro s trace
  have hstart : Scene.Moded [] s := ⟨⟨_, rfl, rfl⟩, by simp⟩
  refine ⟨?_, ?_⟩
  · have hend : Scene.Moded trace (s.run L.recorded fuel moves) :=
      Scene.run_invariant (fun past m s h => h.next fuel m) hstart moves
    obtain ⟨d, hd, hmode⟩ := hend.mode
    exact ⟨d, hd, hmode, fun x hx mode hx' => hmode.trans (hend.same x hx mode hx')⟩
  · exact Scene.trace_invariant (fun past m s h => h.keepsMode fuel m)
      (fun past m s h => h.next fuel m) hstart moves

/-- A consumer that has been assigned a place is asked for a topic with a policy that is an integer
of too many digits. -/
theorem Consumer.policy_without_text_is_not_refused :
    let client : ScriptedClient := { label := "c", role := .consumer, script := {} }
    let s : Scene (Scripted × List Exchange) :=
      { handle := .consumer ⟨some 0, none, .latest, false⟩
        world := { library := ({ clients := [client] }, []), rules := [none] } }
    let assigned := s.taken Scripted.library.recorded 0
      (.operate false (.subscribeAtOffset (.text "t") (.int 0) (.int 0)))
    let asked := assigned.after.taken Scripted.library.recorded 0
      (.operate false (.subscribeByTopic (.text "t") (.int Text.digitBound)))
    assigned.granted? = some .assign ∧ asked.move.asks? = some .subscribe ∧
      asked.outcome = .error (.untold .digitsTooMany) ∧
      (Fault.untold .digitsTooMany).cls ≠ .validation := by
  intro client s assigned asked
  refine ⟨rfl, rfl, ?_, by decide⟩
  have hafter : assigned.after.handle = .consumer ⟨some 0, some .assign, .latest, false⟩ := rfl
  have hrequest : Consumer.request? ⟨some 0, some .assign, .latest, false⟩
      (.subscribeByTopic (.text "t") (.int Text.digitBound)) =
        some (.error (.untold .digitsTooMany)) := by
    have htopic : Check.text (.text "t") "topic" = .ok "t" := rfl
    simp only [Consumer.request?, Consumer.topicRequest, Consumer.effectivePolicy, htopic,
      OffsetPolicy.parse_digitBound, bind, Except.bind]
  rcases Scene.take_request Scripted.library 0 hafter hrequest false with
    ⟨f, htake, ⟨hclosed, -⟩ | hf⟩ | ⟨id, q, a, -, hq, -⟩
  · cases hclosed
  · cases hf
    exact congrArg Prod.fst htake
  · cases hq

end KafkaHandles
