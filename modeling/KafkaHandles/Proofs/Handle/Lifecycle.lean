import KafkaHandles.Proofs.Consumer.Operations
import KafkaHandles.Proofs.Handle.Making
import KafkaHandles.Proofs.Handle.Scene
import KafkaHandles.Proofs.Producer.Operations
import KafkaHandles.Scripted.Client

/-!
# The life of a handle

A handle is made with one client and keeps it until it is closed. The first move that ends it tears
the client down, however that ends; from then on nothing is asked of any client, what needs the
client is refused, and closing it again does nothing.
-/

namespace KafkaHandles

/-- Whether a move closes the handles of a role. -/
def Move.ends (role : Role) : Move → Bool
  | .operate _ op => op.ends role
  | _ => false

/-- The calls that a handle of a role makes before it is closed. -/
def Call.serves (c : Call) : Role → Bool
  | .producer => c.isSending
  | .consumer => c.isReading

variable {σ : Type}

/-- A move that tears a client down. A consumer closes its client, and is only told of faults that
are neither the client library's nor failures at run time. A producer drops what is not reported
yet, and then, unless that fails, has the reports served. -/
def Taken.TearsDown (L : Library σ) (id : ClientId) (x : Taken σ) : Prop :=
  match x.before.handle.role with
  | .consumer =>
    (∃ nested, x.after.world.calls = x.before.world.calls ++ (id, .close) :: nested ∧
      ∀ e ∈ nested, e.1 = id ∧ e.2.isFollowing) ∧
    x.outcome = match (World.invoke L id .close x.before.world).1 with
      | .ok _ => .ok .nothing
      | .error f => if f.cls.isClient || f.cls.isRuntime then .ok .nothing else .error f
  | .producer =>
    match World.invoke L id (.purge true true false) x.before.world with
    | (.error f, _) =>
      x.after.world.calls = x.before.world.calls ++ [(id, .purge true true false)] ∧
        x.outcome = .error f
    | (.ok _, w) =>
      x.after.world.calls =
        x.before.world.calls ++ [(id, .purge true true false), (id, .pollReports .instant)] ∧
        x.outcome = (World.invoke L id (.pollReports .instant) w).1.map fun _ => .nothing

/-- A move in the life of a handle with a role and a client; `dead` says whether the handle was
closed before. -/
structure Taken.Lives (L : Library σ) (role : Role) (id : ClientId) (dead : Bool) (x : Taken σ) :
    Prop where
  /-- A handle stays of its kind. -/
  kind : x.before.handle.role = role ∧ x.after.handle.role = role
  /-- It owns the client it was made with until it is closed, and none afterwards. -/
  before : x.before.handle.client? = if dead then none else some id
  after : x.after.handle.client? = if dead || x.move.ends role then none else some id
  /-- Before, it calls its own client only, and neither creates nor tears down any. -/
  uses : dead = false → x.move.ends role = false →
    World.Asks (some id) (·.serves role) x.before.world x.after.world
  /-- The first move that closes it tears its client down. -/
  tearsDown : dead = false → x.move.ends role = true → x.TearsDown L id
  /-- Afterwards it calls no client. -/
  silent : dead = true → x.after.world.calls = x.before.world.calls
  /-- What needs the client is refused, whatever the arguments. -/
  refused : dead = true → ∀ op, x.move = .operate false op → op.needsClient role = true →
    x.outcome = .error (.refused (.handleClosed role)) ∧ x.after = x.before
  /-- The host functions of the same names end in a fault, too. -/
  refusedByHost : dead = true → ∀ op, x.move = .operate true op → op.needsClient role = true →
    (∃ f, x.outcome = .error f) ∧ x.after = x.before
  /-- Closing it again does nothing. -/
  again : dead = true → x.move.ends role = true → x.outcome = .ok .nothing ∧ x.after = x.before

variable {L : Library σ} {fuel : Nat}

/-! ## Deeds -/

namespace Consumer

theorem Deed.act_uses {d : Deed} (hd : d ≠ .close) (t : Consumer × World σ) :
    Uses t (d.act L t).2 := by
  obtain ⟨c, w⟩ := t
  cases d with
  | subscribeByTopic topic policy =>
    rw [act, Action.bind_pure_apply, subscribeByTopic_apply]
    exact demand_uses _ (c, w)
  | subscribeAtOffset topic partition offset =>
    rw [act, Action.bind_pure_apply, subscribeAtOffset_apply]
    exact demand_uses _ (c, w)
  | poll timeout =>
    rw [act, Action.bind_pure_apply]
    exact (poll_polls timeout (c, w)).uses
  | close => exact absurd rfl hd

theorem Deed.act_closed {d : Deed} (hd : d ≠ .close) {c : Consumer} (hc : c.client = none)
    (w : World σ) : d.act L (c, w) = (.error (.refused (.handleClosed .consumer)), (c, w)) := by
  cases d with
  | subscribeByTopic topic policy =>
    rw [act, Action.bind_pure_apply, subscribeByTopic_apply, demand_closed _ hc]
    rfl
  | subscribeAtOffset topic partition offset =>
    rw [act, Action.bind_pure_apply, subscribeAtOffset_apply, demand_closed _ hc]
    rfl
  | poll timeout =>
    rw [act, Action.bind_pure_apply, poll_apply, hc]
    rfl
  | close => exact absurd rfl hd

theorem Deed.close_act_closed {c : Consumer} (hc : c.client = none) (w : World σ) :
    Deed.close.act L (c, w) = (.ok .nothing, (c, w)) := by
  rw [act, Action.bind_pure_apply, close_closed L hc]
  rfl

end Consumer

namespace Producer

theorem Deed.act_uses {d : Deed} (hd : d ≠ .destroy) (t : Producer × World σ) :
    Uses t (d.act L fuel t).2 := by
  cases d with
  | send a =>
    rw [act, Action.bind_pure_apply]
    exact send_uses fuel _ _ _ _ t
  | flush timeout =>
    rw [act, Action.bind_pure_apply]
    exact flush_uses timeout t
  | size =>
    rw [act, Action.bind_pure_apply]
    exact size_uses t
  | destroy => exact absurd rfl hd

theorem Deed.act_closed {d : Deed} (hd : d ≠ .destroy) {p : Producer} (hp : p.client = none)
    (w : World σ) :
    d.act L fuel (p, w) = (.error (.refused (.handleClosed .producer)), (p, w)) := by
  cases d with
  | send a =>
    rw [act, Action.bind_pure_apply, send_apply, hp]
    rfl
  | flush timeout =>
    rw [act, Action.bind_pure_apply, flush_apply, hp]
    rfl
  | size =>
    rw [act, Action.bind_pure_apply, size_apply, hp]
    rfl
  | destroy => exact absurd rfl hd

theorem Deed.destroy_act_closed {p : Producer} (hp : p.client = none) (w : World σ) :
    Deed.destroy.act L fuel (p, w) = (.ok .nothing, (p, w)) := by
  rw [act, Action.bind_pure_apply, destroy_closed hp]
  rfl

end Producer

/-! ## Which operations close a handle -/

theorem Operation.onConsumer?_close {byHost : Bool} {op : Operation} :
    op.onConsumer? byHost = some .close ↔ op.ends .consumer = true := by
  cases op with
  | poll timeout =>
    cases byHost <;> simp [onConsumer?, ends]
  | _ => simp [onConsumer?, ends]

theorem Operation.onProducer?_destroy {byHost : Bool} {op : Operation} :
    op.onProducer? byHost = some .destroy ↔ op.ends .producer = true := by
  cases op with
  | flush timeout =>
    cases byHost <;> simp [onProducer?, ends]
  | _ => simp [onProducer?, ends]

/-- What needs the client of a consumer does something other than closing it. -/
theorem Operation.onConsumer?_needsClient {op : Operation} (h : op.needsClient .consumer = true) :
    ∃ d, op.onConsumer? false = some d ∧ d ≠ .close := by
  cases op <;> simp_all [onConsumer?, needsClient]

/-- What needs the client of a producer does something other than destroying it. -/
theorem Operation.onProducer?_needsClient {op : Operation} (h : op.needsClient .producer = true) :
    ∃ d, op.onProducer? false = some d ∧ d ≠ .destroy := by
  cases op <;> simp_all [onProducer?, needsClient]

namespace Scene

variable (L fuel)

/-! ## Moves that do not close the handle -/

/-- A move of a scene with a consumer that does not close it. -/
theorem take_uses_consumer {s : Scene σ} {c : Consumer} (hs : s.handle = .consumer c) {m : Move}
    (hm : m.ends .consumer = false) :
    ∃ c', (s.take L fuel m).2.handle = .consumer c' ∧
      Consumer.Uses (c, s.world) (c', (s.take L fuel m).2.world) := by
  rcases take_consumer L fuel hs m with
    ⟨byHost, op, d, rfl, hd, htake⟩ | ⟨i, stream, -, -, htake⟩ | ⟨r, streams, stops, htake, -⟩
  · have hclose : d ≠ .close := by
      rintro rfl
      exact absurd (Operation.onConsumer?_close.mp hd) (by simpa [Move.ends] using hm)
    rw [htake]
    exact ⟨_, rfl, Consumer.Deed.act_uses hclose (c, s.world)⟩
  · rw [htake]
    exact ⟨_, rfl, (Stream.next_polls fuel (stream, c, s.world)).uses⟩
  · rw [htake]
    exact ⟨c, hs, rfl, World.asks_of_eq rfl⟩

/-- A move of a scene with a producer that does not destroy it. -/
theorem take_uses_producer {s : Scene σ} {p : Producer} (hs : s.handle = .producer p) {m : Move}
    (hm : m.ends .producer = false) :
    (s.take L fuel m).2.handle = .producer p ∧
      Producer.Uses (p, s.world) (p, (s.take L fuel m).2.world) := by
  cases m with
  | operate byHost op =>
    rcases take_operate_producer L fuel hs byHost op with ⟨d, hd, htake⟩ | ⟨-, r, htake, -⟩
    · have hdestroy : d ≠ .destroy := by
        rintro rfl
        exact absurd (Operation.onProducer?_destroy.mp hd) (by simpa [Move.ends] using hm)
      have huses : Producer.Uses (p, s.world) (d.act L fuel (p, s.world)).2 :=
        Producer.Deed.act_uses hdestroy _
      rw [htake]
      rcases hact : d.act L fuel (p, s.world) with ⟨r, p', w⟩
      rw [hact] at huses
      obtain rfl : p' = p := huses.handle
      exact ⟨rfl, huses⟩
    · rw [htake]
      exact ⟨hs, .refl _⟩
  | stream timeout stop =>
    simp only [take, hs]
    exact ⟨trivial, .refl _⟩
  | next i =>
    simp only [take, hs]
    exact ⟨trivial, .refl _⟩
  | giveUp i => exact ⟨hs, .refl _⟩
  | setStop flag =>
    exact ⟨hs, rfl, World.asks_of_eq (World.calls_setStop flag _), by cases flag <;> rfl⟩

/-- A move that does not close the handle of a scene keeps its client and asks no other. -/
theorem take_uses {s : Scene σ} {m : Move} (hm : m.ends s.handle.role = false) :
    (s.take L fuel m).2.handle.role = s.handle.role ∧
      (s.take L fuel m).2.handle.client? = s.handle.client? ∧
      World.Asks s.handle.client? (·.serves s.handle.role) s.world (s.take L fuel m).2.world := by
  cases hs : s.handle with
  | consumer c =>
    rw [hs] at hm
    obtain ⟨c', hc', huses⟩ := take_uses_consumer L fuel hs hm
    rw [hc']
    exact ⟨rfl, huses.client, huses.asks⟩
  | producer p =>
    rw [hs] at hm
    obtain ⟨hp, huses⟩ := take_uses_producer L fuel hs hm
    rw [hp]
    exact ⟨rfl, rfl, huses.asks⟩

/-! ## Moves of a closed handle -/

/-- An operation on a closed handle changes nothing. -/
theorem take_operate_closed {s : Scene σ} (h : s.handle.client? = none) (byHost : Bool)
    (op : Operation) :
    ∃ r, s.take L fuel (.operate byHost op) = (r, s) ∧
      (op.ends s.handle.role = true → r = .ok .nothing) ∧
      (op.needsClient s.handle.role = true → ∃ f, r = .error f) ∧
      (op.needsClient s.handle.role = true → byHost = false →
        r = .error (.refused (.handleClosed s.handle.role))) := by
  obtain ⟨handle, streams, world⟩ := s
  cases handle with
  | consumer c =>
    rcases take_operate_consumer L fuel (s := ⟨.consumer c, streams, world⟩) rfl byHost op with
      ⟨d, hd, htake⟩ | ⟨hd, r, htake, hr, -⟩
    · by_cases hclose : d = .close
      · subst hclose
        rw [Consumer.Deed.close_act_closed h] at htake
        have hneeds : op.needsClient .consumer = false := by
          have := Operation.onConsumer?_close.mp hd
          cases op <;> simp_all [Operation.ends, Operation.needsClient]
        refine ⟨_, htake, fun _ => rfl, ?_, ?_⟩
        · simp [Handle.role, hneeds]
        · simp [Handle.role, hneeds]
      · rw [Consumer.Deed.act_closed hclose h] at htake
        refine ⟨_, htake, fun hends => ?_, fun _ => ⟨_, rfl⟩, fun _ _ => rfl⟩
        rw [Operation.onConsumer?_close.mpr hends] at hd
        exact absurd (Option.some.inj hd).symm hclose
    · refine ⟨r, htake, fun hends => ?_, hr, fun hneeds hbyHost => ?_⟩
      · rw [Operation.onConsumer?_close.mpr hends] at hd
        cases hd
      · obtain ⟨d, hsome, -⟩ := Operation.onConsumer?_needsClient hneeds
        rw [hbyHost, hsome] at hd
        cases hd
  | producer p =>
    rcases take_operate_producer L fuel (s := ⟨.producer p, streams, world⟩) rfl byHost op with
      ⟨d, hd, htake⟩ | ⟨hd, r, htake, hr, -⟩
    · by_cases hdestroy : d = .destroy
      · subst hdestroy
        rw [Producer.Deed.destroy_act_closed h] at htake
        have hneeds : op.needsClient .producer = false := by
          have := Operation.onProducer?_destroy.mp hd
          cases op <;> simp_all [Operation.ends, Operation.needsClient]
        refine ⟨_, htake, fun _ => rfl, ?_, ?_⟩
        · simp [Handle.role, hneeds]
        · simp [Handle.role, hneeds]
      · rw [Producer.Deed.act_closed hdestroy h] at htake
        refine ⟨_, htake, fun hends => ?_, fun _ => ⟨_, rfl⟩, fun _ _ => rfl⟩
        rw [Operation.onProducer?_destroy.mpr hends] at hd
        exact absurd (Option.some.inj hd).symm hdestroy
    · refine ⟨r, htake, fun hends => ?_, hr, fun hneeds hbyHost => ?_⟩
      · rw [Operation.onProducer?_destroy.mpr hends] at hd
        cases hd
      · obtain ⟨d, hsome, -⟩ := Operation.onProducer?_needsClient hneeds
        rw [hbyHost, hsome] at hd
        cases hd

/-! ## The move that closes a handle -/

/-- Closing the client of an open consumer. -/
theorem tearsDown_consumer {s : Scene σ} {c : Consumer} {id : ClientId}
    (hs : s.handle = .consumer c) (hc : c.client = some id) {m : Move}
    (hm : m.ends .consumer = true) :
    (s.taken L fuel m).TearsDown L id ∧
      (s.take L fuel m).2.handle = .consumer { c with client := none } := by
  cases m with
  | operate byHost op =>
    rcases take_operate_consumer L fuel hs byHost op with ⟨d, hd, htake⟩ | ⟨hd, -⟩
    · rw [Operation.onConsumer?_close.mpr hm] at hd
      obtain rfl := Option.some.inj hd
      obtain ⟨log, hclose⟩ := Consumer.close_open L hc s.world
      rw [Consumer.Deed.act, Action.bind_pure_apply, hclose] at htake
      obtain ⟨nested, hcalls, hnested, -⟩ := World.invoke_calls (L := L) (.close) s.world
      refine ⟨?_, by rw [htake]⟩
      simp only [Taken.TearsDown, taken, hs, Handle.role, htake]
      refine ⟨⟨nested, hcalls, hnested⟩, ?_⟩
      rcases (World.invoke L id .close s.world).1 with f | _
      · simp only [Consumer.closing]
        change _ = if Consumer.isAbsorbed f = true then _ else _
        cases Consumer.isAbsorbed f <;> rfl
      · rfl
    · rw [Operation.onConsumer?_close.mpr hm] at hd
      cases hd
  | _ => cases hm

/-- Destroying an open producer. -/
theorem tearsDown_producer {s : Scene σ} {p : Producer} {id : ClientId}
    (hs : s.handle = .producer p) (hp : p.client = some id) (hrule : s.world.rule? id = none)
    {m : Move} (hm : m.ends .producer = true) :
    (s.taken L fuel m).TearsDown L id ∧ (s.take L fuel m).2.handle = .producer ⟨none⟩ ∧
      (s.take L fuel m).2.world.rules = s.world.rules := by
  cases m with
  | operate byHost op =>
    rcases take_operate_producer L fuel hs byHost op with ⟨d, hd, htake⟩ | ⟨hd, -⟩
    · rw [Operation.onProducer?_destroy.mpr hm] at hd
      obtain rfl := Option.some.inj hd
      rw [Producer.Deed.act, Action.bind_pure_apply, Producer.destroy_open hp] at htake
      -- A producer's client follows no rule, so that each of the two calls comes alone.
      have hcalls {c : Call} {w : World σ} (h : w.rule? id = none) :
          (World.invoke L id c w).2.calls = w.calls ++ [(id, c)] := by
        obtain ⟨nested, hcalls, -, hnone⟩ := World.invoke_calls (L := L) c w
        rw [hcalls, hnone h]
      have hrules (c : Call) (w : World σ) : (World.invoke L id c w).2.rules = w.rules :=
        World.invoke_rules c w
      have hpurged := hcalls (c := .purge true true false) hrule
      have hkept := hrules (.purge true true false) s.world
      simp only [Taken.TearsDown, taken, hs, Handle.role, htake]
      rcases hpurge : World.invoke L id (.purge true true false) s.world with ⟨f | _, w⟩ <;>
        rw [hpurge] at hpurged hkept
      · exact ⟨⟨hpurged, rfl⟩, rfl, hkept⟩
      · have hserved := hcalls (c := .pollReports .instant) (w := w)
          (by rw [World.rule?_of_rules hkept, hrule])
        have hkept' := (hrules (.pollReports .instant) w).trans hkept
        rw [hpurged, List.append_assoc] at hserved
        dsimp only
        rcases hserve : World.invoke L id (.pollReports .instant) w with ⟨f | _, u⟩ <;>
          rw [hserve] at hserved hkept'
        · exact ⟨⟨hserved, rfl⟩, rfl, hkept'⟩
        · exact ⟨⟨hserved, rfl⟩, rfl, hkept'⟩
    · rw [Operation.onProducer?_destroy.mpr hm] at hd
      cases hd
  | _ => cases hm

/-! ## Whole runs -/

/-- What is known of a scene whose handle was made with a client: it owns that client unless it is
over, and a producer's client follows no rule. -/
structure Alive (role : Role) (id : ClientId) (dead : Bool) (s : Scene σ) : Prop where
  kind : s.handle.role = role
  client : s.handle.client? = if dead then none else some id
  rule : role = .producer → s.world.rule? id = none

variable {L fuel} {role : Role} {id : ClientId} {dead : Bool} {s : Scene σ}

theorem Alive.tearsDown (h : Alive role id false s) {m : Move} (hm : m.ends role = true) :
    (s.taken L fuel m).TearsDown L id ∧ Alive role id true (s.taken L fuel m).after := by
  obtain ⟨rfl, hclient, hrule⟩ := h
  cases hs : s.handle with
  | consumer c =>
    rw [hs] at hm hclient
    obtain ⟨hdown, hhandle⟩ := tearsDown_consumer L fuel hs hclient hm
    exact ⟨hdown, by rw [taken, hhandle]; rfl, by rw [taken, hhandle]; rfl, nofun⟩
  | producer p =>
    rw [hs] at hm hclient hrule
    obtain ⟨hdown, hhandle, hrules⟩ := tearsDown_producer L fuel hs hclient (hrule rfl) hm
    refine ⟨hdown, by rw [taken, hhandle]; rfl, by rw [taken, hhandle]; rfl, fun _ => ?_⟩
    exact (World.rule?_of_rules hrules).trans (hrule rfl)

theorem Alive.uses (h : Alive role id dead s) {m : Move} (hm : m.ends role = false) :
    Alive role id dead (s.taken L fuel m).after := by
  obtain ⟨rfl, hclient, hrule⟩ := h
  obtain ⟨hkind, hclient', -⟩ := take_uses L fuel hm
  refine ⟨hkind, hclient'.trans hclient, fun hp => ?_⟩
  cases hs : s.handle with
  | consumer c =>
    rw [hs] at hp
    cases hp
  | producer p =>
    rw [hs] at hm
    exact (World.rule?_of_rules (take_uses_producer L fuel hs hm).2.rules).trans (hrule hp)

theorem Alive.closed_take (h : Alive role id true s) (m : Move) :
    (s.taken L fuel m).after.world.calls = s.world.calls ∧
      (m.ends role = true → (s.taken L fuel m).after = s) := by
  obtain ⟨rfl, hclient, -⟩ := h
  cases hm : m.ends s.handle.role with
  | false =>
    obtain ⟨-, -, hasks⟩ := take_uses L fuel hm
    rw [hclient] at hasks
    exact ⟨hasks.calls_of_none, nofun⟩
  | true =>
    cases m with
    | operate byHost op =>
      obtain ⟨r, htake, -⟩ := take_operate_closed L fuel hclient byHost op
      have hafter : (s.taken L fuel (.operate byHost op)).after = s := by rw [taken, htake]
      exact ⟨by rw [hafter], fun _ => hafter⟩
    | _ => cases hm

/-- What a move does in the life of a handle. -/
theorem Alive.lives (h : Alive role id dead s) (m : Move) :
    (s.taken L fuel m).Lives L role id dead ∧
      Alive role id (dead || m.ends role) (s.taken L fuel m).after := by
  have hnext : Alive role id (dead || m.ends role) (s.taken L fuel m).after := by
    cases hm : m.ends role with
    | false => simpa using h.uses hm
    | true =>
      cases dead with
      | false => exact (h.tearsDown hm).2
      | true => simpa [(h.closed_take m).2 hm] using h
  have hclosed (ho : dead = true) : s.handle.client? = none := by rw [h.client, if_pos ho]
  refine ⟨?_, hnext⟩
  constructor
  · exact ⟨h.kind, hnext.kind⟩
  · exact h.client
  · exact hnext.client
  · rintro rfl hm
    have hasks := (take_uses L fuel (s := s) (h.kind.symm ▸ hm)).2.2
    rwa [h.client, h.kind] at hasks
  · rintro rfl hm
    exact (h.tearsDown hm).1
  · rintro rfl
    exact (h.closed_take m).1
  · rintro ho op rfl hneeds
    obtain ⟨r, htake, -, -, hr⟩ := take_operate_closed L fuel (hclosed ho) false op
    rw [h.kind] at hr
    simp only [taken, htake]
    exact ⟨hr hneeds rfl, trivial⟩
  · rintro ho op rfl hneeds
    obtain ⟨r, htake, -, hr, -⟩ := take_operate_closed L fuel (hclosed ho) true op
    rw [h.kind] at hr
    simp only [taken, htake]
    exact ⟨hr hneeds, trivial⟩
  · intro ho hm
    cases m with
    | operate byHost op =>
      obtain ⟨r, htake, hr, -⟩ := take_operate_closed L fuel (hclosed ho) byHost op
      rw [h.kind] at hr
      simp only [taken, htake]
      exact ⟨hr hm, trivial⟩
    | _ => cases hm

end Scene

/-- However a handle is made, whatever is done with it afterwards, and whatever its client answers
or raises: it owns the one client that was created for it, the first move that closes it tears that
client down, and after that it never calls a client again. -/
theorem Handle.Made.lifecycle {w w₀ : World σ} {h : Handle} (made : Made L w h w₀) (fuel : Nat)
    (moves : List Move) :
    ∃ id properties, h.client? = some id ∧
      w₀.calls = w.calls ++ [(id, .create h.role properties)] ∧
      ∀ before x after,
        Scene.trace L fuel moves { handle := h, world := w₀ } = before ++ x :: after →
        x.Lives L h.role id (before.any (·.move.ends h.role)) := by
  obtain ⟨hclient, hrules, properties, hcalls⟩ := made.owns
  refine ⟨w.rules.length, properties, hclient, hcalls, ?_⟩
  have hstart : Scene.Alive h.role w.rules.length (([] : List (Taken σ)).any
      (·.move.ends h.role)) { handle := h, world := w₀ } := by
    refine ⟨rfl, by simpa using hclient, fun _ => ?_⟩
    simp [World.rule?, hrules]
  refine Scene.trace_invariant (L := L)
    (I := fun past s => s.Alive h.role w.rules.length (past.any (·.move.ends h.role)))
    (fun past m s hs => (hs.lives m).1) (fun past m s hs => ?_) hstart moves
  rw [List.any_append, List.any_cons, List.any_nil, Bool.or_false]
  exact (hs.lives m).2

/-- A scripted producer that is destroyed, and then used and destroyed again. -/
theorem scripted_producer_lives :
    ∃ w₀, Handle.Made Scripted.library { library := {} } (.producer ⟨some 0⟩) w₀ ∧
      ∃ id, ∀ before x after,
        Scene.trace Scripted.library 9
            [.operate false .destroy, .operate false .size, .operate true .destroy]
            { handle := .producer ⟨some 0⟩, world := w₀ } = before ++ x :: after →
          x.Lives Scripted.library .producer id (before.any (·.move.ends .producer)) := by
  let c : Config :=
    { servers := ["broker:9092"], group := none, tls := none, policy := .latest, properties := [] }
  have made : Handle.Made Scripted.library { library := {} } (.producer ⟨some 0⟩)
      (Producer.make Scripted.library (.config c) { library := {} }).2 :=
    .producer (rfl : Producer.make Scripted.library (.config c) _ = (.ok ⟨some 0⟩, _))
  obtain ⟨id, properties, -, -, h⟩ := made.lifecycle 9
    [.operate false .destroy, .operate false .size, .operate true .destroy]
  exact ⟨_, made, id, h⟩

end KafkaHandles
