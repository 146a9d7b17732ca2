import KafkaHandles.Proofs.Consumer.StartPosition

/-!
# Partitions assigned under a start rule

A client that holds a start rule answers every assignment of partitions with one look-up of their
committed offsets and one assignment of its own. The look-up may answer in any order, more than
once for a partition, and for others than were asked for; the last entry for a partition counts.
-/

namespace KafkaHandles

variable {σ : Type} {L : Library σ}

/-! ## Reading a look-up -/

namespace TopicPartition

/-- Whether an entry is for the partition of `p`. -/
def IsOf (p q : TopicPartition) : Prop :=
  q.topic = p.topic ∧ q.partition = p.partition

/-- The last entry of a look-up for the partition of `p` has an offset. -/
def LastOffset (committed : List TopicPartition) (p : TopicPartition) (offset : Int) : Prop :=
  ∃ before q after, committed = before ++ q :: after ∧ p.IsOf q ∧ q.offset = offset ∧
    ∀ r ∈ after, ¬p.IsOf r

/-- How a partition `p` is assigned, as `q`: it keeps its offset if the last entry for it is not
negative, and begins at `start` if that entry is negative or there is none. -/
structure Placed (start : Int) (committed : List TopicPartition) (p q : TopicPartition) : Prop where
  same : p.IsOf q
  kept : ∀ offset, LastOffset committed p offset → 0 ≤ offset → q.offset = p.offset
  moved : ∀ offset, LastOffset committed p offset → offset < 0 → q.offset = start
  missing : (∀ r ∈ committed, ¬p.IsOf r) → q.offset = start

variable {committed : List TopicPartition} {p q : TopicPartition} {start : Int}

theorem offsetIn?_eq_some {offset : Int} :
    offsetIn? committed p = some offset ↔ LastOffset committed p offset := by
  simp only [offsetIn?, Option.map_eq_some_iff, List.find?_eq_some_iff_append, Bool.and_eq_true,
    beq_iff_eq]
  constructor
  · rintro ⟨q, ⟨hq, later, earlier, hreverse, hlater⟩, rfl⟩
    refine ⟨earlier.reverse, q, later.reverse, ?_, hq, rfl, fun r hr hof => ?_⟩
    · rw [← List.reverse_reverse committed, hreverse]
      simp
    · simpa [hof.1, hof.2] using hlater r (List.mem_reverse.mp hr)
  · rintro ⟨before, q, after, rfl, hq, rfl, hafter⟩
    refine ⟨q, ⟨hq, after.reverse, before.reverse, by simp, fun r hr => ?_⟩, rfl⟩
    simpa [IsOf, imp_iff_not_or] using hafter r (List.mem_reverse.mp hr)

theorem offsetIn?_eq_none :
    offsetIn? committed p = none ↔ ∀ r ∈ committed, ¬p.IsOf r := by
  simp [offsetIn?, IsOf]

theorem isCommitted_iff :
    p.IsCommitted committed ↔ ∃ offset, LastOffset committed p offset ∧ 0 ≤ offset := by
  simp only [IsCommitted, offsetIn?_eq_some]

theorem Starts.placed (h : Starts start committed p q) : Placed start committed p q := by
  have hstart (hp : ¬p.IsCommitted committed) : q.offset = start := by rw [h.2 hp]
  constructor
  · by_cases hp : p.IsCommitted committed
    · rw [h.1 hp]
      exact ⟨rfl, rfl⟩
    · rw [h.2 hp]
      exact ⟨rfl, rfl⟩
  · intro offset hlast hoffset
    rw [h.1 (isCommitted_iff.mpr ⟨offset, hlast, hoffset⟩)]
  · rintro offset hlast hoffset
    refine hstart ?_
    rintro ⟨other, hother, hnonneg⟩
    rw [offsetIn?_eq_some.mpr hlast] at hother
    cases hother
    omega
  · intro hmissing
    refine hstart ?_
    rintro ⟨other, hother, -⟩
    rw [offsetIn?_eq_none.mpr hmissing] at hother
    cases hother

end TopicPartition

/-! ## The callback -/

namespace World

variable {id : ClientId} {rule : StartRule} {ps : List TopicPartition} {w : World σ}

/-- What a client does on an assignment of partitions, where partitions without a committed offset
begin at `start` and `assign` is its way of assigning. -/
structure Places (L : Library σ) (id : ClientId) (start : Int)
    (assign : List TopicPartition → Call) (ps : List TopicPartition) (w : World σ) : Prop where
  nothing : ps = [] → rebalance L id ps w = (.ok [], w)
  /-- A fault of the look-up ends it. -/
  unknown : ps ≠ [] → ∀ f u, request L id (.committed ps lookupTimeout) w = (.error f, u) →
    rebalance L id ps w = (.error f, u) ∧ u.calls = w.calls ++ [(id, .committed ps lookupTimeout)]
  /-- What the look-up answers decides where the partitions are placed. They are assigned by one
  call, which also decides the outcome. -/
  known : ps ≠ [] → ∀ committed u,
    request L id (.committed ps lookupTimeout) w = (.ok committed, u) →
    ∃ placed, List.Forall₂ (TopicPartition.Placed start committed) ps placed ∧
      (rebalance L id ps w).2.calls =
        w.calls ++ [(id, .committed ps lookupTimeout), (id, assign placed)] ∧
      (rebalance L id ps w).1 = (request L id (assign placed) u).1.map fun _ => placed

theorem rebalance_eq_follow (h : w.rule? id = some rule) :
    rebalance L id ps w = follow L id rule ps w := by
  simp [rebalance, Action.bind_apply, h]

theorem follow_assigned {committed : List TopicPartition} {u : World σ} (hps : ps ≠ [])
    (h : request L id (.committed ps lookupTimeout) w = (.ok committed, u)) :
    (follow L id rule ps w).1 =
      (request L id (.assignment rule.incremental (place rule committed ps)) u).1.map
        fun _ => place rule committed ps := by
  have hempty : ps.isEmpty = false := by simpa using hps
  have hassign (c : Call) (text : String) (placed : List TopicPartition) :
      ((request L id c >>= fun _ => say .consumer LogLevel.debug text >>= fun _ => pure placed) u
        ).1 = (request L id c u).1.map fun _ => placed := by
    rw [Action.bind_apply]
    rcases request L id c u with ⟨f | v, t⟩ <;> rfl
  simp only [follow, hempty, Bool.false_eq_true, if_false, Action.bind_apply, h]
  unfold Call.assignment
  cases rule.incremental with
  | true => exact hassign _ _ _
  | false => exact hassign _ _ _

theorem rule_places (h : w.rule? id = some rule) (ps : List TopicPartition) :
    Places L id rule.start (.assignment rule.incremental) ps w where
  nothing hps := by
    rw [rebalance_eq_follow h, hps]
    rfl
  unknown hps f u hlookup := by
    have hempty : ps.isEmpty = false := by simpa using hps
    have hcalls : (request L id (.committed ps lookupTimeout) w).2.calls = _ := request_calls _ w
    rw [hlookup] at hcalls
    refine ⟨?_, hcalls⟩
    simp only [rebalance_eq_follow h, follow, hempty, Bool.false_eq_true, if_false]
    exact Action.bind_error hlookup
  known hps committed u hlookup := by
    refine ⟨place rule committed ps, ?_, rebalance_ruled h hps hlookup, ?_⟩
    · exact (place_starts rule committed ps).imp fun _ _ hstarts => hstarts.placed
    · rw [rebalance_eq_follow h]
      exact follow_assigned hps hlookup

end World

namespace Consumer

/-- While a policy other than the consumer's own is in force, every assignment of partitions, in
whatever state the client and its library are by then, goes like this: nothing is done for no
partitions, and else there is one look-up of committed offsets on the partitions given and, unless
it fails, one assignment of the same partitions in their order. It is made step by step if the
properties of the consumer ask for that. -/
theorem overriding_policy_places_partitions {c : Config} {k : Consumer} {w w₀ : World σ}
    (h : make L (.config c) w = (.ok k, w₀)) (fuel : Nat) (moves : List Move) :
    let id := w.rules.length
    let s₀ : Scene σ := { handle := .consumer k, world := w₀ }
    let policy := latestPolicy c.policy (s₀.trace L fuel moves)
    let start : Int := if policy = .earliest then -2 else -1
    policy ≠ c.policy → ∀ v, v.rules = (s₀.run L fuel moves).world.rules → ∀ ps,
      (Config.AssignsInSteps c.properties →
        World.Places L id start .incrementalAssign ps v) ∧
      (¬Config.AssignsInSteps c.properties → World.Places L id start .assign ps v) := by
  intro id s₀ policy start hdiffers v hv ps
  obtain ⟨hk, hsteps, -, -⟩ := make_config h
  have hend : Scene.Positioned k w.rules (s₀.trace L fuel moves) (s₀.run L fuel moves) :=
    Scene.run_invariant (fun past m s h => h.next m) (make_positioned h) moves
  have hoffset : policy.startOffset = start := by
    cases hp : policy <;> simp [start, hp, OffsetPolicy.startOffset]
  have hrule : v.rule? id = some ⟨start, k.incremental⟩ := by
    rw [World.rule?_of_rules hv, hend.rule?, hk]
    show (if policy = c.policy then none else some _) = _
    rw [if_neg hdiffers, hoffset]
  have hplaces := World.rule_places (L := L) hrule ps
  rw [← Config.isIncremental_iff hsteps]
  cases hincremental : k.incremental <;> rw [hincremental] at hplaces
  · exact ⟨fun hsteps => absurd hsteps Bool.false_ne_true, fun _ => hplaces⟩
  · exact ⟨fun _ => hplaces, fun hnot => absurd rfl hnot⟩

/-- A consumer that starts at the end and assigns in steps subscribes from the beginning. It is
given a partition without a committed offset, and one that is committed at its very first message. -/
theorem cooperative_consumer_places_partitions :
    let c : Config := ⟨["a:1"], some "readers", none, .latest,
      [(.text "partition.assignment.strategy", .text "cooperative-sticky")]⟩
    let w : World (List (Option Message)) := { library := [] }
    let moves : List Move := [.operate false (.subscribeByTopic (.text "jobs") (.text "earliest"))]
    let ps : List TopicPartition := [⟨"jobs", 0, -1001⟩, ⟨"jobs", 1, 0⟩]
    ∃ k w₀, make Library.queue (.config c) w = (.ok k, w₀) ∧
      let v := (({ handle := .consumer k, world := w₀ } : Scene _).run Library.queue 1 moves).world
      ∃ placed, List.Forall₂ (TopicPartition.Placed (-2) ps) ps placed ∧
        (World.rebalance Library.queue 0 ps v).2.calls = v.calls ++
          [(0, .committed ps World.lookupTimeout), (0, .incrementalAssign placed)] := by
  intro c w moves ps
  refine ⟨_, _, rfl, ?_⟩
  have hsteps : Config.AssignsInSteps c.properties := (Config.isIncremental_iff rfl).mp rfl
  obtain ⟨placed, hplaced, hcalls, -⟩ :=
    ((overriding_policy_places_partitions (L := Library.queue) (c := c) (w := w) rfl 1 moves
      (by decide) _ rfl ps).1 hsteps).known (by decide) ps _ rfl
  exact ⟨placed, hplaced, hcalls⟩

end Consumer

end KafkaHandles
