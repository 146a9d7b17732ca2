import KafkaHandles.Proofs.Consumer.Delivery
import KafkaHandles.Proofs.Consumer.Modes
import KafkaHandles.Proofs.Handle.Creation
import Mathlib.Data.List.Forall2

/-!
# Where partitions start

A partition without a committed offset starts where the policy of the latest subscription says. Two
mechanisms see to that: the client has the policy of its consumer for a property, and it holds a
start rule while another policy is in force. They never disagree, because every accepted
subscription replaces the rule, with none if the policy is the consumer's own.
-/

namespace KafkaHandles

variable {σ : Type} {L : Library σ}

/-! ## Rebalances -/

/-- Whether a look-up tells of a committed offset of a partition. -/
def TopicPartition.IsCommitted (committed : List TopicPartition) (p : TopicPartition) : Prop :=
  ∃ offset, offsetIn? committed p = some offset ∧ 0 ≤ offset

/-- A partition is assigned as it is if it has a committed offset, and at `start` if it has none. -/
def TopicPartition.Starts (start : Int) (committed : List TopicPartition) (p q : TopicPartition) :
    Prop :=
  (p.IsCommitted committed → q = p) ∧ (¬p.IsCommitted committed → q = { p with offset := start })

/-- The call by which a client assigns partitions, all at once or step by step. -/
def Call.assignment (incremental : Bool) (ps : List TopicPartition) : Call :=
  if incremental then .incrementalAssign ps else .assign ps

namespace World

variable {id : ClientId} {w : World σ}

theorem place_starts (rule : StartRule) (committed ps : List TopicPartition) :
    List.Forall₂ (TopicPartition.Starts rule.start committed) ps (place rule committed ps) := by
  unfold place
  rw [List.forall₂_map_right_iff, List.forall₂_same]
  intro p _
  unfold TopicPartition.Starts TopicPartition.IsCommitted
  cases hp : TopicPartition.offsetIn? committed p with
  | none => simp
  | some offset =>
    by_cases hoffset : offset < 0
    · simp [hoffset, Int.not_le.mpr hoffset]
    · simp [hoffset, Int.not_lt.mp hoffset]

theorem rebalance_unruled (h : w.rule? id = none) (ps : List TopicPartition) :
    rebalance L id ps w = (.ok ps, w) := by
  simp [rebalance, Action.bind_apply, h]

theorem rebalance_ruled {rule : StartRule} (h : w.rule? id = some rule)
    {ps committed : List TopicPartition} (hps : ps ≠ []) {u : World σ}
    (hlookup : request L id (.committed ps lookupTimeout) w = (.ok committed, u)) :
    (rebalance L id ps w).2.calls = w.calls ++ [(id, .committed ps lookupTimeout),
      (id, .assignment rule.incremental (place rule committed ps))] := by
  have hu : u.calls = w.calls ++ [(id, .committed ps lookupTimeout)] := by
    have hcalls : (request L id (.committed ps lookupTimeout) w).2.calls = _ := request_calls _ w
    rwa [hlookup] at hcalls
  have hassign (c : Call) (text : String) (placed : List TopicPartition) :
      ((request L id c >>= fun _ => say .consumer LogLevel.debug text >>= fun _ => pure placed) u
        ).2.calls = w.calls ++ [(id, .committed ps lookupTimeout), (id, c)] := by
    have hcalls : (request L id c u).2.calls = _ := request_calls c u
    rw [hu, List.append_assoc] at hcalls
    rw [Action.bind_apply]
    rcases hr : request L id c u with ⟨f | v, t⟩ <;> rw [hr] at hcalls <;> exact hcalls
  have hempty : ps.isEmpty = false := by simpa using hps
  simp only [rebalance, follow, Action.bind_apply, Action.get_apply, h, hempty, hlookup,
    Bool.false_eq_true, if_false]
  unfold Call.assignment
  cases rule.incremental with
  | true => exact hassign _ _ _
  | false => exact hassign _ _ _

theorem subscribe_rules (topics : List String) (rule : Option StartRule) :
    (subscribe L id topics rule w).2.rules =
      match (subscribe L id topics rule w).1 with
      | .ok _ => w.rules.set id rule
      | .error _ => w.rules := by
  have hrequest : (request L id (.subscribe topics rule) w).2.rules = w.rules := request_rules _ w
  unfold subscribe
  rw [Action.bind_apply]
  rcases hr : request L id (.subscribe topics rule) w with ⟨f | _, u⟩ <;> rw [hr] at hrequest
  · exact hrequest
  · exact congrArg (List.set · id rule) hrequest

end World

/-! ## What changes a start rule -/

namespace ModeRequest

/-- The start rules after a client has granted a request. -/
def rules (c : Consumer) (id : ClientId) (held : List (Option StartRule)) :
    ModeRequest → List (Option StartRule)
  | topic _ policy => held.set id (c.ruleFor policy)
  | place _ => held

theorem ask_rules (q : ModeRequest) (c : Consumer) (id : ClientId) (w : World σ) :
    (q.ask L c id w).2.rules =
      match (q.ask L c id w).1 with
      | .ok _ => q.rules c id w.rules
      | .error _ => w.rules := by
  cases q with
  | topic t policy => exact World.subscribe_rules [t] (c.ruleFor policy)
  | place p =>
    have hrequest : (World.request L id (.assign [p]) w).2.rules = w.rules :=
      World.request_rules _ w
    split
    · exact hrequest
    · exact hrequest

end ModeRequest

namespace Consumer

/-- What a consumer does besides subscribing: it gets no other policy and no other client, and start
rules stay as they are. -/
structure KeepsRules (t u : Consumer × World σ) : Prop where
  policy : u.1.policy = t.1.policy
  incremental : u.1.incremental = t.1.incremental
  client : ∀ id, u.1.client = some id → t.1.client = some id
  rules : u.2.rules = t.2.rules

instance : IsPreorder (Consumer × World σ) KeepsRules where
  refl _ := ⟨rfl, rfl, fun _ h => h, rfl⟩
  trans _ _ _ h h' := ⟨h'.policy.trans h.policy, h'.incremental.trans h.incremental,
    fun id hid => h.client id (h'.client id hid), h'.rules.trans h.rules⟩

theorem poll_keepsRules : (timeout : Value) → (poll L timeout).Within KeepsRules :=
  poll_within fun _ _ _ w _ => ⟨rfl, rfl, fun _ h => h, World.invoke_rules _ w⟩

theorem close_keepsRules : (close L).Within KeepsRules := by
  intro ⟨c, w⟩
  cases hc : c.client with
  | none =>
    rw [close_closed L hc]
    exact refl_of KeepsRules _
  | some id =>
    obtain ⟨log, hclose⟩ := close_open L hc w
    rw [hclose]
    exact ⟨rfl, rfl, nofun, World.invoke_rules .close w⟩

/-- A request that is granted replaces the rule if it is a subscription; one that fails in any way
changes nothing. -/
theorem demand_rules (r : Except Fault ModeRequest) (c : Consumer) (w : World σ) :
    (∃ f u, demand L r (c, w) = (.error f, u) ∧ KeepsRules (c, w) u) ∨
    ∃ id q u, c.client = some id ∧ r = .ok q ∧
      demand L r (c, w) = (.ok (), ({ c with mode := some q.mode }, u)) ∧
      u.rules = q.rules c id w.rules := by
  simp only [demand]
  cases hc : c.client with
  | none => exact Or.inl ⟨_, _, rfl, refl_of KeepsRules _⟩
  | some id =>
    cases r with
    | error f => exact Or.inl ⟨f, _, rfl, refl_of KeepsRules _⟩
    | ok q =>
      have hrules := q.ask_rules (L := L) c id w
      dsimp only [openClient, ModeRequest.perform]
      rcases hask : q.ask L c id w with ⟨f | _, u⟩ <;> rw [hask] at hrules
      · exact Or.inl ⟨_, _, rfl, rfl, rfl, fun _ h => h, hrules⟩
      · exact Or.inr ⟨id, q, (World.say .consumer LogLevel.info q.text u).2, rfl, rfl,
          by rw [hc], hrules⟩

theorem subscribeAtOffset_keepsRules (topic partition offset : Value) :
    (subscribeAtOffset L topic partition offset).Within KeepsRules := by
  intro ⟨c, w⟩
  rw [subscribeAtOffset_apply]
  rcases demand_rules (L := L) (c.placeRequest topic partition offset) c w with
    ⟨f, u, hdemand, hkeeps⟩ | ⟨id, q, u, hc, hq, hdemand, hrules⟩
  · rw [hdemand]
    exact hkeeps
  · obtain ⟨t, p, o, place, -, -, -, -, -, rfl⟩ := placeRequest_ok.mp hq
    rw [hdemand]
    exact ⟨rfl, rfl, fun _ h => h, hrules⟩

theorem Deed.act_keepsRules {d : Deed} (hd : ∀ topic policy, d ≠ .subscribeByTopic topic policy) :
    (d.act L).Within KeepsRules := by
  cases d with
  | subscribeByTopic topic policy => exact absurd rfl (hd topic policy)
  | subscribeAtOffset topic partition offset =>
    exact .bind (subscribeAtOffset_keepsRules topic partition offset) fun _ => .pure _
  | poll timeout => exact .bind (poll_keepsRules timeout) fun _ => .pure _
  | close => exact .bind close_keepsRules fun _ => .pure _

end Consumer

/-! ## The latest subscription -/

/-- The policy that a subscription asks for, of a consumer whose own is `p`. -/
def Operation.policy? (p : OffsetPolicy) : Operation → Option OffsetPolicy
  | subscribeByTopic _ .none => some p
  | subscribeByTopic _ v => (OffsetPolicy.parse v).toOption
  | _ => none

/-- The policy of a subscription that was accepted. -/
def Taken.accepted? (p : OffsetPolicy) (x : Taken σ) : Option OffsetPolicy :=
  match x.move, x.outcome with
  | .operate _ op, .ok _ => op.policy? p
  | _, _ => none

/-- The policy of the latest subscription that was accepted, and the consumer's own before any. -/
def latestPolicy (p : OffsetPolicy) (past : List (Taken σ)) : OffsetPolicy :=
  (past.filterMap (Taken.accepted? p)).getLast?.getD p

theorem latestPolicy_concat (p : OffsetPolicy) (past : List (Taken σ)) (x : Taken σ) :
    latestPolicy p (past ++ [x]) = (x.accepted? p).getD (latestPolicy p past) := by
  unfold latestPolicy
  cases hx : x.accepted? p <;> simp [hx]

theorem Consumer.policy?_of_effectivePolicy {c : Consumer} {v : Value} {p : OffsetPolicy}
    (h : c.effectivePolicy v = .ok p) (topic : Value) :
    (Operation.subscribeByTopic topic v).policy? c.policy = some p := by
  cases v with
  | none =>
    cases h
    rfl
  | _ =>
    simp only [effectivePolicy] at h
    simp only [Operation.policy?, h]
    rfl

namespace Scene

section Moves

variable (L) (fuel : Nat)

theorem take_keepsRules {s : Scene σ} {c : Consumer} (hs : s.handle = .consumer c) {m : Move}
    (hm : ∀ byHost topic policy, m ≠ .operate byHost (.subscribeByTopic topic policy)) :
    ∃ d, (s.take L fuel m).2.handle = .consumer d ∧
      Consumer.KeepsRules (c, s.world) (d, (s.take L fuel m).2.world) := by
  rcases take_consumer L fuel hs m with
    ⟨byHost, op, d, rfl, hd, htake⟩ | ⟨i, stream, -, -, htake⟩ | ⟨r, streams, stops, htake, -⟩
  · have hkeeps : (d.act L).Within Consumer.KeepsRules := by
      refine Consumer.Deed.act_keepsRules fun topic policy => ?_
      rintro rfl
      cases op with
      | subscribeByTopic topic policy => exact hm byHost topic policy rfl
      | subscribeAtOffset topic partition offset => cases hd
      | _ => cases Operation.deed_quiet rfl hd
    rw [htake]
    exact ⟨_, rfl, hkeeps (c, s.world)⟩
  · rw [htake]
    have hkeeps := Stream.next_within (L := L) (R := Consumer.KeepsRules)
      (fun _ _ _ => ⟨rfl, rfl, fun _ h => h, rfl⟩) Consumer.poll_keepsRules fuel
      (stream, c, s.world)
    exact ⟨_, rfl, hkeeps⟩
  · rw [htake]
    exact ⟨c, hs, rfl, rfl, fun _ h => h, rfl⟩

theorem take_subscribe {s : Scene σ} {c : Consumer} (hs : s.handle = .consumer c) (byHost : Bool)
    (topic policy : Value) :
    s.take L fuel (.operate byHost (.subscribeByTopic topic policy)) =
      match Consumer.demand L (c.topicRequest topic policy) (c, s.world) with
      | (r, (c, world)) => (r.map fun _ => .nothing, { s with handle := .consumer c, world }) := by
  rcases take_operate_consumer L fuel hs byHost (.subscribeByTopic topic policy) with
    ⟨d, hd, htake⟩ | ⟨hd, -⟩
  · cases hd
    rw [htake, Consumer.Deed.act, Action.bind_pure_apply, Consumer.subscribeByTopic_apply]
  · cases hd

end Moves

/-- The policy of a consumer is constant, and so is its client as long as it has one; the rule that
this client holds is the last one, and follows from the latest subscription. -/
structure Positioned (k : Consumer) (held : List (Option StartRule)) (past : List (Taken σ))
    (s : Scene σ) : Prop where
  consumer : ∃ c, s.handle = .consumer c ∧ c.policy = k.policy ∧ c.incremental = k.incremental ∧
    ∀ id, c.client = some id → id = held.length
  rules : s.world.rules = held ++ [k.ruleFor (latestPolicy k.policy past)]

variable {fuel : Nat} {k : Consumer} {held : List (Option StartRule)} {past : List (Taken σ)}
  {s : Scene σ}

theorem Positioned.next (h : Positioned k held past s) (m : Move) :
    Positioned k held (past ++ [s.taken L fuel m]) (s.taken L fuel m).after := by
  obtain ⟨⟨c, hs, hpolicy, hincremental, hclient⟩, hrules⟩ := h
  have hkept {d : Consumer} (hd : (s.taken L fuel m).after.handle = .consumer d)
      (hkeeps : Consumer.KeepsRules (c, s.world) (d, (s.taken L fuel m).after.world))
      (hnone : (s.taken L fuel m).accepted? k.policy = none) :
      Positioned k held (past ++ [s.taken L fuel m]) (s.taken L fuel m).after := by
    refine ⟨⟨d, hd, hkeeps.policy.trans hpolicy, hkeeps.incremental.trans hincremental,
      fun id hid => hclient id (hkeeps.client id hid)⟩, ?_⟩
    rw [latestPolicy_concat, hnone]
    exact hkeeps.rules.trans hrules
  -- only a subscription to a topic can replace the rule, and be accepted
  by_cases hm : ∀ byHost topic policy, m ≠ .operate byHost (.subscribeByTopic topic policy)
  · obtain ⟨d, hd, hkeeps⟩ := take_keepsRules L fuel hs hm
    refine hkept hd hkeeps ?_
    unfold Taken.accepted?
    split
    · rename_i byHost op v hmove _
      obtain rfl : m = .operate byHost op := hmove
      cases op with
      | subscribeByTopic topic policy => exact absurd rfl (hm byHost topic policy)
      | _ => rfl
    · rfl
  · simp only [not_forall, not_not] at hm
    obtain ⟨byHost, topic, policy, rfl⟩ := hm
    have htake := take_subscribe L fuel hs byHost topic policy
    rcases Consumer.demand_rules (L := L) (c.topicRequest topic policy) c s.world with
      ⟨f, ⟨d, u⟩, hdemand, hkeeps⟩ | ⟨id, q, u, hc, hq, hdemand, hu⟩ <;> rw [hdemand] at htake
    · exact hkept (d := d) (by simp only [taken, htake]) (by simpa only [taken, htake] using hkeeps)
        (by simp only [Taken.accepted?, taken, htake, Except.map])
    · obtain ⟨t, policy', -, hpolicy', -, rfl⟩ := Consumer.topicRequest_ok.mp hq
      have haccepted : (s.taken L fuel (.operate byHost (.subscribeByTopic topic policy))).accepted?
          k.policy = some policy' := by
        simp only [Taken.accepted?, taken, htake, Except.map]
        rw [← hpolicy]
        exact Consumer.policy?_of_effectivePolicy hpolicy' topic
      obtain rfl := hclient id hc
      have hrule : c.ruleFor policy' = k.ruleFor policy' := by
        simp only [Consumer.ruleFor, hpolicy, hincremental]
      refine ⟨⟨{ c with mode := some .subscribe }, ?_, hpolicy, hincremental, hclient⟩, ?_⟩
      · simp only [taken, htake]
        rfl
      · rw [latestPolicy_concat, haccepted]
        simp only [taken, htake, hu, ModeRequest.rules, hrules, hrule, Option.getD_some]
        simp

theorem Positioned.rule? (h : Positioned k held past s) :
    s.world.rule? held.length = k.ruleFor (latestPolicy k.policy past) := by
  rw [World.rule?, h.rules]
  simp

end Scene

/-! ## The start position -/

/-- The offset at which a client starts a partition without a committed one: that of its rule, or
the one that the property for it says if there is no rule. -/
def startPosition (rule : Option StartRule) (reset : Option Value) : Option Int :=
  match rule, reset with
  | some rule, _ => some rule.start
  | none, some (.text word) =>
    if word = "earliest" then some (-2) else if word = "latest" then some (-1) else none
  | none, _ => none

theorem Config.reset_allProperties (c : Config) :
    (c.allProperties .consumer).get? (.text PropertyName.autoOffsetReset) =
      some (.text c.policy.word) := by
  unfold allProperties managed security
  cases c.tls <;> rfl

theorem Consumer.make_config {c : Config} {k : Consumer} {w u : World σ}
    (h : make L (.config c) w = (.ok k, u)) :
    k = ⟨some w.rules.length, none, c.policy, k.incremental⟩ ∧
      Config.isIncremental c.properties = .ok k.incremental ∧ u.rules = w.rules ++ [none] ∧
      u.calls = w.calls ++ [(w.rules.length, .create .consumer (c.allProperties .consumer))] := by
  rcases make_cases L (.config c) w with ⟨f, hmake⟩ | ⟨c', hc, hmake⟩ <;> rw [hmake] at h
  · cases h
  · cases hc
    rcases hcreate : World.create L .consumer (c.allProperties .consumer) w with ⟨f | id, v⟩ <;>
      rw [hcreate] at h
    · cases h
    · cases hincremental : Config.isIncremental c.properties <;> rw [hincremental] at h <;> cases h
      obtain ⟨rfl, hcalls, hrules⟩ := World.create_ok hcreate
      exact ⟨rfl, rfl, hrules, hcalls⟩

theorem Consumer.make_positioned {c : Config} {k : Consumer} {w w₀ : World σ}
    (h : make L (.config c) w = (.ok k, w₀)) :
    Scene.Positioned k w.rules [] { handle := .consumer k, world := w₀ } := by
  obtain ⟨hk, -, hrules, -⟩ := make_config h
  refine ⟨⟨k, rfl, rfl, rfl, fun id hid => ?_⟩, hrules.trans (by simp [latestPolicy, ruleFor])⟩
  rw [hk] at hid
  exact (Option.some.inj hid).symm

/-- The start position follows the policy of the latest subscription that was accepted, whatever
else is done with a consumer, whichever subscriptions the client rejects, and whenever partitions
are assigned. The client is told the consumer's own policy when it is created, and holds a start
rule if and only if another policy is in force; either way a partition without a committed offset
starts where that policy says. When partitions are assigned under a rule and the look-up of their
committed offsets succeeds, those that have one are assigned as they are, and the others at the
beginning or the end. -/
theorem Consumer.start_follows_latest_subscription {c : Config} {k : Consumer} {w w₀ : World σ}
    (h : make L (.config c) w = (.ok k, w₀)) (fuel : Nat) (moves : List Move) :
    let id := w.rules.length
    let s₀ : Scene σ := { handle := .consumer k, world := w₀ }
    let s := s₀.run L fuel moves
    let policy := latestPolicy c.policy (s₀.trace L fuel moves)
    let start : Int := if policy = .earliest then -2 else -1
    Config.isIncremental c.properties = .ok k.incremental ∧
    ∃ properties, w₀.calls = w.calls ++ [(id, .create .consumer properties)] ∧
      properties.get? (.text PropertyName.autoOffsetReset) = some (.text c.policy.word) ∧
      ((s.world.rule? id).isSome ↔ policy ≠ c.policy) ∧
      startPosition (s.world.rule? id)
        (properties.get? (.text PropertyName.autoOffsetReset)) = some start ∧
      ∀ v ps, v.rules = s.world.rules →
        (policy = c.policy → World.rebalance L id ps v = (.ok ps, v)) ∧
        (policy ≠ c.policy → ps ≠ [] → ∀ committed u,
          World.request L id (.committed ps World.lookupTimeout) v = (.ok committed, u) →
          ∃ placed, (World.rebalance L id ps v).2.calls = v.calls ++
              [(id, .committed ps World.lookupTimeout),
                (id, .assignment k.incremental placed)] ∧
            List.Forall₂ (TopicPartition.Starts start committed) ps placed) := by
  intro id s₀ s policy start
  obtain ⟨hk, hincremental, -, hcalls⟩ := make_config h
  have hpolicy : k.policy = c.policy := by rw [hk]
  have hend : Scene.Positioned k w.rules (s₀.trace L fuel moves) s :=
    Scene.run_invariant (fun past m s h => h.next m) (make_positioned h) moves
  have hrule : s.world.rule? id =
      if policy = c.policy then none else some ⟨policy.startOffset, k.incremental⟩ := by
    rw [hend.rule?, ruleFor, hpolicy]
  have hoffset : policy.startOffset = start := by
    cases hp : policy <;> simp [start, hp, OffsetPolicy.startOffset]
  refine ⟨hincremental, _, hcalls, c.reset_allProperties, ?_, ?_, ?_⟩
  · by_cases hsame : policy = c.policy
    · simp [hrule, hsame]
    · simp [hrule, hsame]
  · rw [hrule, c.reset_allProperties, ← hoffset]
    by_cases hsame : policy = c.policy
    · rw [if_pos hsame, hsame]
      cases c.policy <;> rfl
    · rw [if_neg hsame]
      rfl
  · intro v ps hv
    rw [← World.rule?_of_rules hv] at hrule
    refine ⟨fun hsame => ?_, fun hdiffers hps committed u hlookup => ?_⟩
    · rw [if_pos hsame] at hrule
      exact World.rebalance_unruled hrule ps
    · rw [if_neg hdiffers, hoffset] at hrule
      exact ⟨_, World.rebalance_ruled hrule hps hlookup, World.place_starts ⟨start, _⟩ committed ps⟩

/-- A consumer that starts at the end subscribes from the beginning, and then again without a
policy: its client holds a rule after the first subscription, and none after the second. -/
theorem Consumer.override_does_not_last :
    let c : Config := ⟨["a:1"], some "readers", none, .latest, []⟩
    let w : World (List (Option Message)) := { library := [] }
    let first : Move := .operate false (.subscribeByTopic (.text "jobs") (.text " Earliest"))
    let second : Move := .operate true (.subscribeByTopic (.text "jobs") .none)
    ∃ k w₀, make Library.queue (.config c) w = (.ok k, w₀) ∧
      let s₀ : Scene (List (Option Message)) := { handle := .consumer k, world := w₀ }
      ((s₀.run Library.queue 1 [first]).world.rule? 0).isSome = true ∧
        ¬((s₀.run Library.queue 1 [first, second]).world.rule? 0).isSome = true := by
  intro c w first second
  refine ⟨_, _, rfl, ?_, ?_⟩
  · obtain ⟨-, _, -, -, hrule, -⟩ := start_follows_latest_subscription (L := Library.queue) (c := c)
      (w := w) rfl 1 [first]
    refine hrule.mpr fun hsame => ?_
    cases hsame
  · obtain ⟨-, _, -, -, hrule, -⟩ := start_follows_latest_subscription (L := Library.queue) (c := c)
      (w := w) rfl 1 [first, second]
    intro hsome
    exact hrule.mp hsome rfl

end KafkaHandles
