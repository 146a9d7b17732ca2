import KafkaHandles.Proofs.Consumer.Readings
import KafkaHandles.Proofs.Consumer.StartPosition
import KafkaHandles.Proofs.Handle.Atomicity

/-!
# Readings that are refused

The arguments of a reading are checked in two places. Those that are needed to make its consumer are
checked before that, when nothing has been asked of any client. Those of its subscription are left
to the consumer, which has a client by then. After these checks a reading is never refused again.
-/

namespace KafkaHandles

open KafkaHandles.Action (Unrefused)

variable {σ : Type} {L : Library σ}

/-! ## Checks of a request -/

/-- The check of what is given where the configuration of a consumer is expected. -/
def ConfigArgument.check : ConfigArgument → Except Fault Unit
  | .config c => c.validateFor (.role .consumer)
  | .other _ => .error (.refused .configurationExpected)

/-- The calls by which a client is created for a configuration, and closed without any use. -/
def Config.unusedCalls (c : Config) (id : ClientId) : List (ClientId × Call) :=
  [(id, .create .consumer (c.allProperties .consumer)), (id, .close)]

namespace ReadingRequest

/-- The checks of a request that need no consumer: whether a partition and an offset are given
together, and the timeout. -/
def timeout (q : ReadingRequest) : Except Fault Binary64 :=
  if q.partition.isNone != q.offset.isNone then .error (.refused .placeIncomplete)
  else Check.milliseconds q.timeoutMs

/-- All checks before the consumer of a reading is made. -/
def preflight (q : ReadingRequest) : Except Fault Unit := do
  let _ ← q.timeout
  q.config.check

/-- The subscription that a reading makes with its consumer. -/
def subscription (q : ReadingRequest) : Operation :=
  if q.partition.isNone then .subscribeByTopic q.topic q.policy
  else .subscribeAtOffset q.topic q.partition q.offset

end ReadingRequest

/-! ## Making the consumer -/

theorem PropertySet.alreadySet_not_isRefusal (name : Value) : ¬(alreadySet name).IsRefusal := by
  unfold alreadySet
  split
  · exact Fault.wrapping_not_isRefusal (fun e => by simp [Fault.IsRefusal, Fault.cls]) _ _
  · exact Fault.untold_not_isRefusal _

theorem PropertySet.set_unrefused (name v : Value) : (set name v).Unrefused := by
  have hheld : checkHeld.Unrefused := by
    refine .bind .get fun s => ?_
    split
    · exact .pure _
    · rintro t f ⟨⟩
      simp [Fault.IsRefusal, Fault.cls]
    · rintro t f ⟨⟩
      simp [Fault.IsRefusal, Fault.cls]
  have hname : (contains name).Unrefused := by
    refine .bind (.lift fun f h => ?_) fun _ => .bind .get fun _ => .pure _
    unfold checkName at h
    split at h <;> cases h
    simp [Fault.IsRefusal, Fault.cls]
  refine .bind hheld fun _ => .bind hname fun taken => ?_
  split
  · rintro t f ⟨⟩
    exact alreadySet_not_isRefusal name
  · exact .modify _

theorem PropertySet.setAll_unrefused (d : List (Value × Value)) : (setAll d).Unrefused := by
  induction d with
  | nil => exact .pure _
  | cons e d ih =>
    obtain ⟨name, v⟩ := e
    exact .bind (set_unrefused name v) fun _ => ih

namespace Consumer

/-- A consumer as it is made. -/
def fresh (id : ClientId) (c : Config) (incremental : Bool) : Consumer :=
  ⟨some id, none, c.policy, incremental⟩

theorem make_of_check {given : ConfigArgument} {f : Fault} (h : given.check = .error f)
    (w : World σ) : make L given w = (.error f, w) := by
  have hmake : Handle.make L .consumer given w =
      ((make L given w).1.map .consumer, (make L given w).2) :=
    Action.bind_pure_apply _ _ _
  have hrefused : Handle.make L .consumer given w = (.error f, w) := by
    cases given with
    | config c =>
      have hc : c.validateFor (.role .consumer) = .error f := h
      exact Handle.make_of_invalid L hc w
    | other v =>
      cases h
      rw [Handle.make_eq]
      rfl
  rw [hrefused] at hmake
  rcases hr : make L given w with ⟨g | k, v⟩ <;> rw [hr] at hmake <;> cases hmake
  rfl

/-- A consumer is refused for its configuration or not at all. -/
theorem make_error {given : ConfigArgument} {w u : World σ} {f : Fault}
    (h : make L given w = (.error f, u)) (hf : f.IsRefusal) : given.check = .error f ∧ u = w := by
  have hmake : Handle.make L .consumer given w = (.error f, u) := Action.bind_error h
  refine ⟨?_, make_refused h hf⟩
  cases given with
  | other v =>
    rw [Handle.make_eq] at hmake
    cases hmake
    rfl
  | config c =>
    rcases hc : c.validateFor (.role .consumer) with g | ⟨⟩
    · rw [Handle.make_of_invalid L hc] at hmake
      cases hmake
      exact hc
    rcases hset : PropertySet.setAll (c.allProperties .consumer) {} with ⟨g | ⟨⟩, s⟩
    · rw [Handle.make_of_rejected L hc w hset] at hmake
      cases hmake
      exact absurd hf (PropertySet.setAll_unrefused _ _ f (congrArg Prod.fst hset))
    · rw [Handle.make_of_set L hc w hset] at hmake
      split at hmake
      · obtain ⟨flaw, rfl⟩ := Handle.ofClient_error (Prod.mk.inj hmake).1
        exact absurd hf (Fault.untold_not_isRefusal flaw)
      · cases hmake
        exact absurd hf (Blueprint.creationFault_not_isRefusal _)

theorem check_of_make {given : ConfigArgument} {k : Consumer} {w u : World σ}
    (h : make L given w = (.ok k, u)) : given.check = .ok () := by
  rcases hcheck : given.check with f | ⟨⟩
  · rw [make_of_check hcheck] at h
    cases h
  · rfl

end Consumer

/-! ## Beginning -/

namespace Reading

variable {q : ReadingRequest} {w u : World σ}

theorem start_apply (q : ReadingRequest) (w : World σ) :
    start L q w = match q.timeout with
      | .error f => (.error f, w)
      | .ok x => match Consumer.make L q.config w with
        | (.ok c, v) => (.ok (c, { timeout := .float x, stop := q.stop }), v)
        | (.error f, v) => (.error f, v) := by
  unfold start ReadingRequest.timeout
  split
  · rfl
  · simp only [Action.bind_apply, Action.lift_apply]
    rcases Check.milliseconds q.timeoutMs with f | x
    · rfl
    · dsimp only
      rcases Consumer.make L q.config w with ⟨f | c, v⟩ <;> rfl

theorem start_of_preflight {f : Fault} (h : q.preflight = .error f) (w : World σ) :
    start L q w = (.error f, w) := by
  rw [start_apply]
  unfold ReadingRequest.preflight at h
  rcases htimeout : q.timeout with g | x <;> rw [htimeout] at h
  · cases h
    rfl
  · dsimp only
    rw [Consumer.make_of_check h]

theorem start_error {f : Fault} (h : start L q w = (.error f, u)) (hf : f.IsRefusal) :
    q.preflight = .error f ∧ u = w := by
  rw [start_apply] at h
  unfold ReadingRequest.preflight
  rcases htimeout : q.timeout with g | x <;> rw [htimeout] at h
  · cases h
    exact ⟨rfl, rfl⟩
  · dsimp only at h
    split at h <;> rename_i hmake <;> cases h
    exact Consumer.make_error hmake hf

/-- What a reading begins with. -/
structure Begun (q : ReadingRequest) (w : World σ) (g : Config) (x : Binary64) (u : World σ) :
    Prop where
  config : q.config = .config g
  timeout : Check.milliseconds q.timeoutMs = .ok x
  preflight : q.preflight = .ok ()
  rules : u.rules = w.rules ++ [none]
  calls : u.calls = w.calls ++ [(w.rules.length, .create .consumer (g.allProperties .consumer))]

theorem start_ok {c : Consumer} {s : Stream} (h : start L q w = (.ok (c, s), u)) :
    ∃ g x b, Begun q w g x u ∧ Config.isIncremental g.properties = .ok b ∧
      c = .fresh w.rules.length g b ∧ s = { timeout := .float x, stop := q.stop } := by
  rw [start_apply] at h
  rcases htimeout : q.timeout with f | x <;> rw [htimeout] at h
  · cases h
  dsimp only at h
  split at h <;> rename_i hmake <;> cases h
  have hcheck := Consumer.check_of_make hmake
  have hmilliseconds : Check.milliseconds q.timeoutMs = .ok x := by
    unfold ReadingRequest.timeout at htimeout
    split at htimeout
    · cases htimeout
    · exact htimeout
  have hpreflight : q.preflight = .ok () := by
    unfold ReadingRequest.preflight
    rw [htimeout]
    exact hcheck
  rcases hg : q.config with g | v <;> rw [hg] at hmake
  · obtain ⟨hk, hincremental, hrules, hcalls⟩ := Consumer.make_config hmake
    exact ⟨g, x, _, ⟨hg, hmilliseconds, hpreflight, hrules, hcalls⟩, hincremental, hk, rfl⟩
  · rw [hg] at hcheck
    cases hcheck

end Reading

/-! ## Steps of its stream -/

/-- What a poll of a stream is checked for: the client of its consumer and its timeout. -/
def Stream.polling (t : Stream × Consumer × World σ) : Option ClientId × Value :=
  (t.2.1.client, t.1.timeout)

/-- A poll of a stream passes its checks. -/
structure Stream.Pollable (s : Stream) (c : Consumer) : Prop where
  client : c.client.isSome
  timeout : ∃ x, Check.timeout s.timeout "timeout" = .ok x

namespace Stream

theorem Pollable.of_polling {s s' : Stream} {c c' : Consumer} {w w' : World σ}
    (h : Pollable s c) (hsame : polling (s', c', w') = polling (s, c, w)) : Pollable s' c' := by
  obtain ⟨hclient, htimeout⟩ := Prod.mk.inj hsame
  exact ⟨by rw [hclient]; exact h.client, by rw [htimeout]; exact h.timeout⟩

theorem rounds_polling (fuel : Nat) : (rounds L fuel).Within (Action.Same polling) := by
  have hround : (round L).Within (Action.Same polling) := fun t =>
    Prod.ext (congrArg Consumer.client (round_polls t).consumer) (round_timeout t)
  induction fuel with
  | zero => exact .pure _
  | succ fuel ih =>
    refine .bind hround fun item => ?_
    cases item with
    | some item => exact .pure _
    | none => exact ih

theorem next_polling (fuel : Nat) : (next L fuel).Within (Action.Same polling) := by
  intro t
  have hrounds := rounds_polling (L := L) fuel t
  unfold next
  split
  · rfl
  · split <;> rename_i hr <;> rw [hr] at hrounds <;> exact hrounds

theorem next_unrefused (hL : L.CarriesBytes) {fuel : Nat} {s : Stream} {c : Consumer}
    (h : Pollable s c) {w : World σ} {f : Fault} {u : Stream × Consumer × World σ}
    (hnext : next L fuel (s, c, w) = (.error f, u)) : ¬f.IsRefusal := by
  obtain ⟨id, hclient⟩ := Option.isSome_iff_exists.mp h.client
  obtain ⟨x, htimeout⟩ := h.timeout
  obtain ⟨v, hrounds, -⟩ := next_error hnext
  exact rounds_unrefused (fun w f => Consumer.poll_unrefused hL hclient htimeout) fuel rfl rfl
    hrounds

end Stream

/-! ## Steps of a reading -/

namespace Reading

open KafkaHandles.Stream (Pollable polling)

variable {q : ReadingRequest}

/-- A reading opens with a request that its consumer checks, and goes on with its stream. -/
theorem opening_apply (L : Library σ) (fuel : Nat) (q : ReadingRequest) (c : Consumer) : ∃ r,
    c.request? q.subscription = some r ∧ ∀ s w, opening L fuel q (s, c, w) =
      match Consumer.demand L r (c, w) with
      | (.ok _, t) => Stream.next L fuel (s, t)
      | (.error f, t) => (.error f, (s, t)) := by
  obtain ⟨r, hr, hdemand⟩ : ∃ r, c.request? q.subscription = some r ∧
      ∀ w, subscribe L q (c, w) = Consumer.demand L r (c, w) := by
    unfold ReadingRequest.subscription subscribe
    split
    · exact ⟨_, rfl, Consumer.subscribeByTopic_apply L _ _ c⟩
    · exact ⟨_, rfl, Consumer.subscribeAtOffset_apply L _ _ _ c⟩
  refine ⟨r, hr, fun s w => ?_⟩
  rw [opening, Action.bind_apply]
  simp only [Action.onSecond, hdemand]
  rcases Consumer.demand L r (c, w) with ⟨f | ⟨⟩, t⟩ <;> rfl

theorem opening_polling (fuel : Nat) (q : ReadingRequest) :
    (opening L fuel q).Within (Action.Same polling) := by
  intro ⟨s, c, w⟩
  obtain ⟨r, -, happly⟩ := opening_apply L fuel q c
  have hclient := (Consumer.demand_uses (L := L) r (c, w)).client
  rw [happly]
  rcases hdemand : Consumer.demand L r (c, w) with ⟨f | ⟨⟩, d, v⟩ <;> rw [hdemand] at hclient
  · exact Prod.ext hclient rfl
  · exact (Stream.next_polling fuel (s, d, v)).trans (Prod.ext hclient rfl)

/-- Up to its first message, a reading is refused for its subscription or not at all. -/
theorem opening_refused (hL : L.CarriesBytes) {fuel : Nat} {s : Stream} {c : Consumer}
    (h : Pollable s c) {w : World σ} {f : Fault} {u : Stream × Consumer × World σ}
    (hopening : opening L fuel q (s, c, w) = (.error f, u)) (hf : f.IsRefusal) :
    c.request? q.subscription = some (.error f) ∧ u = (s, c, w) := by
  obtain ⟨id, hopen⟩ := Option.isSome_iff_exists.mp h.client
  obtain ⟨r, hr, happly⟩ := opening_apply L fuel q c
  have hclient := (Consumer.demand_uses (L := L) r (c, w)).client
  rw [happly] at hopening
  rcases hdemand : Consumer.demand L r (c, w) with ⟨g | ⟨⟩, d, v⟩ <;>
    rw [hdemand] at hopening hclient
  · cases hopening
    obtain ⟨rfl, hsame⟩ := (Consumer.demand_error hopen hdemand).2 hf
    exact ⟨hr, congrArg (Prod.mk s) hsame⟩
  · have hpollable : Pollable s d := ⟨by rw [hclient]; exact h.client, h.timeout⟩
    exact absurd hf (Stream.next_unrefused hL hpollable hopening)

theorem opening_of_refused {c : Consumer} {id : ClientId} (hopen : c.client = some id) {f : Fault}
    (hrequest : c.request? q.subscription = some (.error f)) (fuel : Nat) (s : Stream)
    (w : World σ) : opening L fuel q (s, c, w) = (.error f, (s, c, w)) := by
  obtain ⟨r, hr, happly⟩ := opening_apply L fuel q c
  obtain rfl := Option.some.inj (hr.symm.trans hrequest)
  rw [happly]
  simp only [Consumer.demand, hopen, openClient]

theorem afterClosing_refused {α : Type} {closed : Except Fault Unit} {outcome : Except Fault α}
    {f : Fault} (hclosed : ∀ g, closed = .error g → ¬g.IsRefusal)
    (h : afterClosing closed outcome = .error f) (hf : f.IsRefusal) : outcome = .error f := by
  unfold afterClosing at h
  split at h
  · exact h
  · rename_i g
    split at h
    · exact h
    · cases h
      exact absurd hf (hclosed _ rfl)

/-- Where a step leaves a reading: with the consumer and the stream of its body, or at its end. -/
theorem advance_phase (c : Consumer) (s : Stream)
    (body : Action (Stream × Consumer × World σ) (Option Item)) (r : Reading) (w : World σ) :
    (advance L c s body (r, w)).2.1 = { r with phase := .ended } ∨
      (advance L c s body (r, w)).2.1 = { r with
        phase := .reading (body (s, c, w)).2.2.1 (body (s, c, w)).2.1 } := by
  rcases hbody : body (s, c, w) with ⟨f | _ | m | _, s', d, v⟩ <;>
    simp only [advance, hbody]
  · split <;> exact Or.inl rfl
  · exact Or.inr trivial
  · exact Or.inr trivial
  · split <;> exact Or.inl rfl

/-- A step that is refused is refused by its body, after which only the client is closed. -/
theorem advance_refused {c : Consumer} {id : ClientId} (hopen : c.client = some id)
    {body : Action (Stream × Consumer × World σ) (Option Item)}
    (hbody : body.Within (Action.Same polling)) {s : Stream} {r : Reading} {w : World σ}
    {f : Fault} {u : Reading × World σ} (h : advance L c s body (r, w) = (.error f, u))
    (hf : f.IsRefusal) : ∃ s' d v, body (s, c, w) = (.error f, s', d, v) ∧
      u.2.calls = (World.invoke L id .close v).2.calls := by
  have hkept := hbody (s, c, w)
  rcases hrun : body (s, c, w) with ⟨outcome, s', d, v⟩
  rw [hrun] at hkept
  have hclient : d.client = some id := (congrArg Prod.fst hkept).trans hopen
  obtain ⟨log, hclose⟩ := Consumer.close_open L hclient v
  have hending (hend : (∃ g, outcome = .error g) ∨ outcome = .ok (some .finished)) :
      ∃ s'' d' v', (outcome, s', d, v) = (.error f, s'', d', v') ∧
        u.2.calls = (World.invoke L id .close v').2.calls := by
    rw [advance_ending hrun hend hclose r] at h
    obtain ⟨houtcome, rfl⟩ := Prod.mk.inj h
    -- closing refuses nothing, so that the refusal is the outcome of the body
    have hrefused := afterClosing_refused (World.invoke_unrefused _ v) houtcome hf
    exact ⟨s', d, v, by rw [hrefused], rfl⟩
  rcases outcome with g | _ | m | _
  · exact hending (Or.inl ⟨g, rfl⟩)
  · simp only [advance, hrun] at h
    cases h
  · simp only [advance, hrun] at h
    cases h
  · exact hending (Or.inr rfl)

/-! ## Runs of a reading -/

/-- What the checks of a reading have seen to, wherever it stands: nothing was asked of any client
before its first step, and the polls of its stream pass their checks. -/
structure Accepted (q : ReadingRequest) (w : World σ) (t : Reading × World σ) : Prop where
  request : t.1.request = q
  unasked : t.1.phase = .unstarted → t.2.calls = w.calls ∧ t.2.rules = w.rules
  pollable : ∀ c s, t.1.phase = .reading c s → Pollable s c

variable {fuel : Nat} {w : World σ} {t : Reading × World σ}

theorem accepted_of_ended {r : Reading} {u : World σ} (h : r.request = q)
    (hended : r.phase = .ended) : Accepted q w (r, u) := by
  refine ⟨h, fun hphase => ?_, fun c s hphase => ?_⟩ <;> cases hended.symm.trans hphase

theorem advance_accepted {c : Consumer} {s : Stream} (h : Pollable s c)
    {body : Action (Stream × Consumer × World σ) (Option Item)}
    (hbody : body.Within (Action.Same polling)) {r : Reading} (hr : r.request = q) (u : World σ) :
    Accepted q w (advance L c s body (r, u)).2 := by
  rcases advance_phase (L := L) c s body r u with hphase | hphase
  · exact accepted_of_ended (by rw [hphase]; exact hr) (by rw [hphase])
  · refine ⟨by rw [hphase]; exact hr, fun hstart => ?_, fun d s' hreading => ?_⟩
    · rw [hphase] at hstart
      cases hstart
    · rw [hphase] at hreading
      cases hreading
      exact h.of_polling (hbody (s, c, u))

theorem Begun.pollable {g : Config} {x : Binary64} {u : World σ} (h : Begun q w g x u)
    (id : ClientId) (incremental : Bool) :
    Pollable { timeout := .float x, stop := q.stop } (Consumer.fresh id g incremental) :=
  ⟨rfl, some x, Check.timeout_of_milliseconds h.timeout "timeout"⟩

theorem take_accepted (h : Accepted q w t) (m : Move) : Accepted q w (take L fuel m t).2 := by
  obtain ⟨⟨q', phase⟩, u⟩ := t
  obtain ⟨rfl : q' = q, hunasked, hpollable⟩ := h
  cases m with
  | setStop flag =>
    have hrules : (u.setStop flag).rules = u.rules := by cases flag <;> rfl
    refine ⟨rfl, fun hphase => ?_, hpollable⟩
    obtain ⟨hcalls, hheld⟩ := hunasked hphase
    exact ⟨(World.calls_setStop flag u).trans hcalls, hrules.trans hheld⟩
  | giveUp =>
    have hstate : (take L fuel .giveUp (⟨q', phase⟩, u)).2 = (giveUp L (⟨q', phase⟩, u)).2 :=
      congrArg Prod.snd (Action.bind_pure_apply _ (fun _ => Reply.nothing) _)
    rw [hstate]
    cases phase <;> exact accepted_of_ended rfl rfl
  | next =>
    rw [take_next]
    cases phase with
    | ended => exact accepted_of_ended rfl rfl
    | reading c s =>
      have hpolling := Stream.next_polling (L := L) fuel
      exact advance_accepted (hpollable c s rfl) hpolling (r := ⟨q', .reading c s⟩) rfl u
    | unstarted =>
      rw [next_unstarted]
      rcases hstart : start L q' u with ⟨f | ⟨c, s⟩, v⟩
      · exact accepted_of_ended rfl rfl
      · obtain ⟨g, x, b, hbegun, -, rfl, rfl⟩ := start_ok hstart
        have hpolling := opening_polling (L := L) fuel q'
        exact advance_accepted (hbegun.pollable _ b) hpolling (r := ⟨q', .ended⟩) rfl v

theorem run_accepted (h : Accepted q w t) (moves : List Move) :
    Accepted q w (run L fuel moves t) := by
  induction moves generalizing t with
  | nil => exact h
  | cons m moves ih => exact ih (take_accepted h m)

theorem Begun.close_calls {g : Config} {x : Binary64} {u v : World σ} (h : Begun q u g x v) :
    (World.invoke L u.rules.length .close v).2.calls =
      u.calls ++ g.unusedCalls u.rules.length := by
  -- the client holds no start rule yet, by which it could follow an assignment while it is closed
  have hunruled : v.rule? u.rules.length = none := by simp [World.rule?, h.rules]
  obtain ⟨nested, hcalls, -, hnested⟩ : ∃ nested,
      (World.invoke L u.rules.length .close v).2.calls =
        v.calls ++ (u.rules.length, .close) :: nested ∧ _ := World.invoke_calls _ v
  rw [hcalls, hnested hunruled, h.calls, List.append_assoc]
  rfl

theorem next_refused (hL : L.CarriesBytes) (h : Accepted q w t) {f : Fault}
    {u : Reading × World σ} (hnext : Reading.next L fuel t = (.error f, u)) (hf : f.IsRefusal) :
    t.1.phase = .unstarted ∧ (q.preflight = .error f ∧ u.2 = t.2 ∨
      ∃ c b, q.preflight = .ok () ∧ q.config = .config c ∧
        Config.isIncremental c.properties = .ok b ∧
        (Consumer.fresh w.rules.length c b).request? q.subscription = some (.error f) ∧
        u.2.calls = w.calls ++ c.unusedCalls w.rules.length) := by
  obtain ⟨⟨q', phase⟩, v⟩ := t
  obtain ⟨rfl : q' = q, hunasked, hpollable⟩ := h
  cases phase with
  | ended => cases hnext
  | reading c s =>
    have hpoll := hpollable c s rfl
    obtain ⟨id, hopen⟩ := Option.isSome_iff_exists.mp hpoll.client
    obtain ⟨s', d, v', hbody, -⟩ := advance_refused hopen (Stream.next_polling fuel) hnext hf
    exact absurd hf (Stream.next_unrefused hL hpoll hbody)
  | unstarted =>
    obtain ⟨hcalls, hrules⟩ := hunasked rfl
    rw [next_unstarted] at hnext
    rcases hstart : start L q' v with ⟨g | ⟨c, s⟩, v'⟩ <;> rw [hstart] at hnext
    · cases hnext
      obtain ⟨hpreflight, hv⟩ := start_error hstart hf
      exact ⟨rfl, Or.inl ⟨hpreflight, hv⟩⟩
    · obtain ⟨g, x, b, hbegun, hincremental, rfl, rfl⟩ := start_ok hstart
      have hpoll := hbegun.pollable v.rules.length b
      obtain ⟨s', d, v'', hbody, hclosed⟩ := advance_refused rfl (opening_polling fuel q') hnext hf
      obtain ⟨hrequest, hsame⟩ := opening_refused hL hpoll hbody hf
      cases hsame
      rw [hbegun.close_calls, hcalls, hrules] at hclosed
      rw [hrules] at hrequest
      exact ⟨rfl, Or.inr ⟨g, b, hbegun.preflight, hbegun.config, hincremental, hrequest, hclosed⟩⟩

theorem next_of_refused (fuel : Nat) (h : Accepted q w t) (hphase : t.1.phase = .unstarted)
    {c : Consumer} {s : Stream} {v : World σ} (hstart : start L q t.2 = (.ok (c, s), v)) {f : Fault}
    (hrequest : c.request? q.subscription = some (.error f)) :
    (Reading.next L fuel t).1 =
        afterClosing (World.invoke L w.rules.length .close v).1 (.error f) ∧
      ∃ g, q.config = .config g ∧
        (Reading.next L fuel t).2.2.calls = w.calls ++ g.unusedCalls w.rules.length := by
  obtain ⟨⟨q', phase⟩, u⟩ := t
  obtain ⟨rfl : q' = q, hunasked, -⟩ := h
  obtain rfl : phase = .unstarted := hphase
  obtain ⟨hcalls, hrules⟩ := hunasked rfl
  obtain ⟨g, x, b, hbegun, -, rfl, rfl⟩ := start_ok hstart
  obtain ⟨log, hclose⟩ := Consumer.close_open L (c := .fresh u.rules.length g b) rfl v
  have hopening := opening_of_refused (L := L) rfl hrequest fuel
    { timeout := .float x, stop := q'.stop } v
  rw [next_unstarted, hstart, ← hrules, ← hcalls]
  dsimp only
  rw [advance_ending hopening (Or.inl ⟨f, rfl⟩) hclose]
  exact ⟨rfl, g, hbegun.config, hbegun.close_calls⟩

/-- A reading is refused at its first step or never. If it is refused by the checks before its
consumer is made, which are of its timeout, of its configuration and of whether a partition and an
offset are given together, then nothing is asked of any client and the world stays as it is. The
checks of its topic, its policy, its partition and its offset come after that: if they refuse it, a
client has been created, and is closed without any other call. -/
theorem refused_at_its_first_step (hL : L.CarriesBytes) (fuel : Nat) (q : ReadingRequest)
    (w : World σ) (moves : List Move) :
    let id := w.rules.length
    let t := run L fuel moves ({ request := q }, w)
    (∀ f u, take L fuel .next t = (.error f, u) → f.cls = .validation →
      t.1.phase = .unstarted ∧ t.2.calls = w.calls ∧
      (q.preflight = .error f ∧ u.2 = t.2 ∨
        ∃ c b, q.preflight = .ok () ∧ q.config = .config c ∧
          Config.isIncremental c.properties = .ok b ∧
          (Consumer.fresh id c b).request? q.subscription = some (.error f) ∧
          u.2.calls = w.calls ++ c.unusedCalls id)) ∧
    (t.1.phase = .unstarted →
      (∀ f, q.preflight = .error f →
        take L fuel .next t = (.error f, ({ t.1 with phase := .ended }, t.2))) ∧
      ∀ c s v f, start L q t.2 = (.ok (c, s), v) → c.request? q.subscription = some (.error f) →
        (take L fuel .next t).1 = afterClosing (World.invoke L id .close v).1 (.error f) ∧
        ∃ g, q.config = .config g ∧
          (take L fuel .next t).2.2.calls = w.calls ++ g.unusedCalls id) := by
  intro id t
  have hstart : Accepted q w ({ request := q }, w) :=
    ⟨rfl, fun _ => ⟨rfl, rfl⟩, fun c s h => by cases h⟩
  have haccepted : Accepted q w t := run_accepted hstart moves
  refine ⟨fun f u htake hf => ?_, fun hphase => ⟨fun f hf => ?_, fun c s v f hstart hf => ?_⟩⟩
  · rcases Action.bind_cases htake with ⟨item, v, -, hitem⟩ | ⟨g, hnext, hg⟩
    · cases hitem
    · cases hg
      obtain ⟨hphase, hrefused⟩ := next_refused hL haccepted hnext hf
      exact ⟨hphase, (haccepted.unasked hphase).1, hrefused⟩
  · rcases ht : t with ⟨⟨q', phase⟩, u⟩
    rw [ht] at haccepted hphase
    obtain rfl : q' = q := haccepted.request
    obtain rfl : phase = .unstarted := hphase
    rw [take_next, next_unstarted, start_of_preflight hf]
    rfl
  · rw [take_next]
    obtain ⟨houtcome, hcalls⟩ := next_of_refused fuel haccepted hphase hstart hf
    refine ⟨?_, hcalls⟩
    dsimp only
    rw [houtcome, map_afterClosing]
    rfl

/-- A reading with an unknown policy is refused after its client has been created. -/
theorem unknown_policy_is_refused_late :
    let c : Config := ⟨["a:1"], some "readers", none, .latest, []⟩
    let q : ReadingRequest :=
      { config := .config c, topic := .text "jobs", policy := .text "never", timeoutMs := .int 0 }
    let w : World (List (Option Message)) := { library := [] }
    Library.queue.CarriesBytes ∧ ∃ f u, take Library.queue 1 .next ({ request := q }, w) =
      (.error f, u) ∧ f.cls = .validation ∧ u.2.calls = c.unusedCalls 0 := by
  intro c q w
  refine ⟨Library.queue_carriesBytes, _, _, rfl, rfl, ?_⟩
  obtain ⟨hrefused, -⟩ := refused_at_its_first_step Library.queue_carriesBytes 1 q w []
  obtain ⟨-, -, ⟨hpreflight, -⟩ | ⟨g, -, -, hg, -, -, hcalls⟩⟩ := hrefused _ _ rfl rfl
  · cases hpreflight
  · cases hg
    exact hcalls

/-- A reading of a topic without a name is refused, but only after a client has been created for it,
which is then closed. -/
theorem blank_topic_is_refused_late :
    let c : Config := ⟨["b:1"], some "grp", none, .latest, []⟩
    let q : ReadingRequest := { config := .config c, topic := .text "", timeoutMs := .int 0 }
    let w : World (List (Option Message)) := { library := [] }
    Library.queue.CarriesBytes ∧ ∃ f u, take Library.queue 1 .next ({ request := q }, w) =
      (.error f, u) ∧ f.cls = .validation ∧ u.2.calls ≠ w.calls := by
  intro c q w
  refine ⟨Library.queue_carriesBytes, _, _, rfl, rfl, ?_⟩
  intro hnone
  cases congrArg List.length hnone

end Reading

end KafkaHandles
