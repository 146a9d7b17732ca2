import KafkaHandles.Operation
import KafkaHandles.Proofs.Consumer.Delivery
import KafkaHandles.Proofs.Handle.Creation

/-!
# Readings

A reading can be left at many places: before it has begun, at a check, while its consumer is made,
while this is subscribed, in a poll, and at a message that it has yielded. From every place where
there is a consumer the way out leads through closing it, and from the others none does. One of
these lies between its client and the consumer: there the client stays as it is.
-/

namespace KafkaHandles

/-- Whether an exchange has created a client. -/
def Exchange.creates : Exchange → Bool
  | ⟨_, .create .., .ok _⟩ => true
  | _ => false

/-- Whether a call closes a client. -/
def Call.isClosing : Call → Bool
  | .close => true
  | _ => false

theorem Call.not_isClosing_of_isReading {c : Call} (h : c.isReading) : ¬c.isClosing := by
  cases c <;> simp_all [isClosing, isReading, isPolling, isFollowing]

/-- Whether the properties that a reading's consumer reads when it is made have texts. -/
def ReadingRequest.TellsAssignment (q : ReadingRequest) : Prop :=
  ∀ c, q.config = .config c → Config.TellsAssignment c.properties

variable {σ : Type}

/-- A client library that assigns no partitions to a client while it closes it. -/
def Library.ClosesQuietly (L : Library σ) : Prop :=
  ∀ id s ps, Event.rebalance ps ∉ (L.serve id .close s).1

/-! ## Calls and answers -/

namespace World

variable {L : Library σ} {id : ClientId}

theorem handleAll_calls_of_unassigned {es : List Event} (h : ∀ ps, Event.rebalance ps ∉ es)
    (w : World σ) : (handleAll L id es w).2.calls = w.calls := by
  refine handleAll_within (R := Action.Same World.calls) (fun e he w => ?_) w
  cases e with
  | delivered note => exact (calls_enter _ w).trans (List.append_nil _)
  | report t r => rfl
  | rebalance ps => exact absurd he (h ps)
  | line l => exact forward_within (R := Action.Same World.calls) (fun _ _ _ => rfl) l w
  | stop flag => exact calls_setStop flag w

theorem close_calls (L : Library σ) (id : ClientId) (w : World σ) :
    ∃ nested, (invoke L id .close w).2.calls = w.calls ++ (id, .close) :: nested ∧
      (∀ e ∈ nested, e.1 = id ∧ e.2.isFollowing) ∧ (L.ClosesQuietly → nested = []) := by
  obtain ⟨nested, hcalls, hnested, -⟩ : ∃ nested,
      (invoke L id .close w).2.calls = w.calls ++ (id, .close) :: nested ∧ _ := invoke_calls _ w
  refine ⟨nested, hcalls, hnested, fun hL => ?_⟩
  have hquiet : (invoke L id .close w).2.calls = w.calls ++ [(id, .close)] := by
    have hall : (handleAll L id (begin L id .close w).1 (begin L id .close w).2).2.calls = _ :=
      handleAll_calls_of_unassigned (hL id w.library) _
    rw [begin_calls] at hall
    rw [invoke_state, ← hall]
    split <;> rename_i hr <;> simp [hr]
  rw [hcalls] at hquiet
  simpa using hquiet

abbrev Answers : World (σ × List Exchange) → World (σ × List Exchange) → Prop :=
  Action.Adds heard fun _ => True

theorem invoke_answers (c : Call) (w : World (σ × List Exchange)) :
    Answers w (invoke L.recorded id c w).2 := by
  obtain ⟨nested, -, ⟨f, -, hheard⟩ | ⟨a, s, -, -, hheard⟩⟩ := invoke_heard c w
  · exact ⟨nested, hheard, by simp⟩
  · exact ⟨nested ++ [⟨id, c, a⟩], by rw [hheard, List.append_assoc], by simp⟩

theorem create_heard (role : Role) (properties : Dict) (w : World (σ × List Exchange)) :
    ∃ a, (create L.recorded role properties w).1 =
        (a.mapError Fault.ofClient).map (fun _ => w.rules.length) ∧
      (create L.recorded role properties w).2.heard =
        w.heard ++ [⟨w.rules.length, .create role properties, a⟩] := by
  obtain ⟨a, ha, hheard⟩ := request_heard L w.rules.length (.create role properties)
    { w with rules := w.rules ++ [none] }
  rw [create_eq]
  exact ⟨a, congrArg (Except.map fun _ => w.rules.length) ha, hheard⟩

end World

namespace Consumer

/-- What a consumer does to subscribe and to read: it keeps its client, calls no other and does not
close it, and answers are added to those that were heard. -/
structure Reads (t u : Consumer × World (σ × List Exchange)) : Prop where
  uses : Uses t u
  heard : World.Answers t.2 u.2

instance : IsPreorder (Consumer × World (σ × List Exchange)) Reads where
  refl t := ⟨refl_of Uses t, refl_of World.Answers t.2⟩
  trans _ _ _ h h' := ⟨trans_of Uses h.uses h'.uses, trans_of World.Answers h.heard h'.heard⟩

variable {L : Library σ}

theorem demand_reads (r : Except Fault ModeRequest) : (demand L.recorded r).Within Reads := by
  refine demand_within (fun q c id w hc => ⟨?_, ?_⟩) r
  · exact perform_uses q hc w
  · obtain ⟨a, -, hheard⟩ := q.ask_heard (L := L) c id w
    have hanswers : World.Answers w (q.ask L.recorded c id w).2 := ⟨_, hheard, by simp⟩
    unfold ModeRequest.perform
    dsimp only
    split <;> rename_i hask <;> rw [hask] at hanswers <;> exact hanswers

theorem poll_reads : (timeout : Value) → (poll L.recorded timeout).Within Reads :=
  poll_within fun _ _ wait w hc => ⟨(polls_invoke hc wait w).uses, World.invoke_answers _ w⟩

theorem record_reads (r : LogRecord) (c : Consumer) (w : World (σ × List Exchange)) :
    Reads (c, w) (c, w.record r) :=
  ⟨⟨rfl, World.asks_of_eq rfl⟩, ⟨[], by simp [World.heard, World.record], by simp⟩⟩

end Consumer

namespace Reading

open Consumer (Reads)

variable {L : Library σ}

theorem subscribe_reads (q : ReadingRequest) : (subscribe L.recorded q).Within Reads := by
  intro ⟨c, w⟩
  unfold subscribe
  split
  · rw [Consumer.subscribeByTopic_apply]
    exact Consumer.demand_reads _ (c, w)
  · rw [Consumer.subscribeAtOffset_apply]
    exact Consumer.demand_reads _ (c, w)

/-- What a reading does with the consumer that it has made, up to the first message. -/
def opening (L : Library σ) (fuel : Nat) (q : ReadingRequest) :
    Action (Stream × Consumer × World σ) (Option Item) := do
  (subscribe L q).onSecond
  Stream.next L fuel

theorem next_reads (fuel : Nat) :
    (Stream.next L.recorded fuel).Within (Action.OnSecond Reads) :=
  Stream.next_within Consumer.record_reads Consumer.poll_reads fuel

theorem opening_reads (fuel : Nat) (q : ReadingRequest) :
    (opening L.recorded fuel q).Within (Action.OnSecond Reads) :=
  .bind (.onSecond (subscribe_reads q)) fun _ => next_reads fuel

/-! ## Where a reading stands -/

/-- The client that was created in a world belongs to an open consumer. -/
structure Opened (w : World (σ × List Exchange)) (c : Consumer) (u : World (σ × List Exchange)) :
    Prop where
  client : c.client = some w.rules.length
  asks : World.Asks (some w.rules.length) (¬·.isClosing) w u
  created : ∃ answered, u.heard = w.heard ++ answered ∧ ∃ x ∈ answered, x.creates

/-- Nothing was asked of any client in a world. -/
structure Untouched (w u : World (σ × List Exchange)) : Prop where
  calls : u.calls = w.calls
  heard : u.heard = w.heard
  rules : u.rules = w.rules

/-- No client was created in a world. -/
structure Missed (w u : World (σ × List Exchange)) : Prop where
  asks : World.Asks (some w.rules.length) (¬·.isClosing) w u
  answered : Action.Adds World.heard (fun x => ¬x.creates) w u

/-- A client was created in a world, and nothing else was asked of it. -/
structure Unclosed (w u : World (σ × List Exchange)) : Prop where
  calls : ∃ properties, u.calls = w.calls ++ [(w.rules.length, .create .consumer properties)]
  created : ∃ answered, u.heard = w.heard ++ answered ∧ ∃ x ∈ answered, x.creates

/-- The client that was created in a world has been closed. -/
structure Closed (L : Library σ) (w u : World (σ × List Exchange)) : Prop where
  calls : ∃ used nested, u.calls = w.calls ++ (used ++ (w.rules.length, .close) :: nested) ∧
    (∀ e ∈ used, e.1 = w.rules.length ∧ ¬e.2.isClosing) ∧
    (∀ e ∈ nested, e.1 = w.rules.length ∧ e.2.isFollowing) ∧ (L.ClosesQuietly → nested = [])
  created : ∃ answered, u.heard = w.heard ++ answered ∧ ∃ x ∈ answered, x.creates

/-- Where a reading stands that was begun in a world with a request. -/
inductive Stands (L : Library σ) (w : World (σ × List Exchange)) (q : ReadingRequest) :
    ReadingPhase → World (σ × List Exchange) → Prop
  | unstarted {u : World (σ × List Exchange)} (h : Untouched w u) : Stands L w q .unstarted u
  | reading {u : World (σ × List Exchange)} {c : Consumer} {s : Stream} (h : Opened w c u)
      (told : q.TellsAssignment) : Stands L w q (.reading c s) u
  | missed {u : World (σ × List Exchange)} (h : Missed w u) : Stands L w q .ended u
  | unclosed {u : World (σ × List Exchange)} (h : Unclosed w u) (untold : ¬q.TellsAssignment) :
      Stands L w q .ended u
  | closed {u : World (σ × List Exchange)} (h : Closed L w u) (told : q.TellsAssignment) :
      Stands L w q .ended u

variable {w u v : World (σ × List Exchange)} {c : Consumer} {q : ReadingRequest}

theorem Untouched.opened (h : Untouched w u) (ho : Opened u c v) : Opened w c v := by
  obtain ⟨hclient, hasks, answered, hanswered, hcreated⟩ := ho
  rw [h.rules] at hclient hasks
  rw [h.heard] at hanswered
  exact ⟨hclient, trans_of _ (World.asks_of_eq h.calls) hasks, answered, hanswered, hcreated⟩

theorem Untouched.missed (h : Untouched w u) (hm : Missed u v) : Missed w v := by
  obtain ⟨hasks, answered, hanswered, hnone⟩ := hm
  rw [h.rules] at hasks
  rw [h.heard] at hanswered
  exact ⟨trans_of _ (World.asks_of_eq h.calls) hasks, answered, hanswered, hnone⟩

theorem Untouched.unclosed (h : Untouched w u) (hc : Unclosed u v) : Unclosed w v := by
  obtain ⟨⟨properties, hcalls⟩, answered, hanswered, hcreated⟩ := hc
  rw [h.rules, h.calls] at hcalls
  rw [h.heard] at hanswered
  exact ⟨⟨properties, hcalls⟩, answered, hanswered, hcreated⟩

theorem Stands.untouched {phase : ReadingPhase} (h : Stands L w q phase u) (hu : Untouched u v) :
    Stands L w q phase v := by
  obtain ⟨hcalls, hheard, hrules⟩ := hu
  cases h with
  | unstarted h =>
    exact .unstarted ⟨hcalls.trans h.calls, hheard.trans h.heard, hrules.trans h.rules⟩
  | reading h told =>
    obtain ⟨hclient, hasks, hcreated⟩ := h
    exact .reading ⟨hclient, trans_of _ hasks (World.asks_of_eq hcalls), by rwa [hheard]⟩ told
  | missed h =>
    obtain ⟨hasks, answered, hanswered, hnone⟩ := h
    exact .missed ⟨trans_of _ hasks (World.asks_of_eq hcalls), answered, hheard.trans hanswered,
      hnone⟩
  | unclosed h untold =>
    obtain ⟨hcalled, hcreated⟩ := h
    exact .unclosed ⟨by rwa [hcalls], by rwa [hheard]⟩ untold
  | closed h told =>
    obtain ⟨hcalled, hcreated⟩ := h
    exact .closed ⟨by rwa [hcalls], by rwa [hheard]⟩ told

theorem Opened.reads {d : Consumer} (h : Opened w c u) (hr : Reads (c, u) (d, v)) :
    Opened w d v := by
  obtain ⟨⟨hclient, hasks⟩, more, hmore, -⟩ := hr
  obtain ⟨answered, hanswered, x, hx, hcreates⟩ := h.created
  refine ⟨hclient.trans h.client, ?_, answered ++ more, ?_, x, List.mem_append_left _ hx, hcreates⟩
  · refine trans_of _ h.asks ?_
    rw [← h.client]
    exact hasks.mono fun e he => ⟨he.1, Call.not_isClosing_of_isReading he.2⟩
  · rw [hmore, hanswered, List.append_assoc]

/-- An open consumer is closed by one call, during which the client makes those calls by which it
follows its start rule. -/
theorem Opened.close (h : Opened w c u) (log : List LogRecord) : Closed L w
    { (World.invoke L.recorded w.rules.length .close u).2 with log } := by
  obtain ⟨used, hused, hmade⟩ := h.asks
  obtain ⟨nested, hcalls, hnested, hquiet⟩ := World.close_calls L.recorded w.rules.length u
  obtain ⟨more, hmore, -⟩ : World.Answers u
    (World.invoke L.recorded w.rules.length .close u).2 := World.invoke_answers _ u
  obtain ⟨answered, hanswered, x, hx, hcreates⟩ := h.created
  refine ⟨⟨used, nested, ?_, ?_, hnested, ?_⟩, answered ++ more, ?_, x, List.mem_append_left _ hx,
    hcreates⟩
  · exact hcalls.trans (by rw [hused, List.append_assoc])
  · intro e he
    exact ⟨(Option.some.inj (hmade e he).1).symm, (hmade e he).2⟩
  · intro hL
    exact hquiet fun id s ps => hL id s.1 ps
  · exact hmore.trans (by rw [hanswered, List.append_assoc])

/-- How a reading starts: it asks for one client at most, and makes a consumer of that unless its
properties cannot be read. -/
inductive Starts (w : World (σ × List Exchange)) (q : ReadingRequest) :
    Except Fault (Consumer × Stream) × World (σ × List Exchange) → Prop
  | missed {f : Fault} {v : World (σ × List Exchange)} (h : Missed w v) : Starts w q (.error f, v)
  | unclosed {flaw : TextFlaw} {v : World (σ × List Exchange)} (h : Unclosed w v)
      (untold : ¬q.TellsAssignment) : Starts w q (.error (.untold flaw), v)
  | opened {c : Consumer} {s : Stream} {v : World (σ × List Exchange)} (h : Opened w c v)
      (told : q.TellsAssignment) : Starts w q (.ok (c, s), v)

theorem start_starts (q : ReadingRequest) (w : World (σ × List Exchange)) :
    Starts w q (start L.recorded q w) := by
  have hsame : Missed w w := ⟨refl_of _ w, refl_of _ w⟩
  unfold start
  split
  · exact .missed hsame
  rcases Check.milliseconds q.timeoutMs with f | timeout
  · exact .missed hsame
  simp only [Action.bind_apply, Action.lift_apply]
  rcases Consumer.make_cases L.recorded q.config w with ⟨f, hmake⟩ | ⟨c, hc, hmake⟩
  · rw [hmake]
    exact .missed hsame
  obtain ⟨a, ha, hheard⟩ :=
    World.create_heard (L := L) .consumer (c.allProperties .consumer) w
  have hcalls := World.create_calls (L := L.recorded) .consumer (c.allProperties .consumer) w
  have htold : q.TellsAssignment ↔ Config.TellsAssignment c.properties :=
    ⟨fun h => h c hc, fun h d hd => by cases hc.symm.trans hd; exact h⟩
  rw [hmake]
  rcases hcreate : World.create L.recorded .consumer (c.allProperties .consumer) w with ⟨f | id, u⟩
    <;> rw [hcreate] at ha hheard hcalls
  · cases a with
    | ok _ => cases ha
    | error e =>
      exact .missed ⟨Action.Adds.one hcalls ⟨rfl, by simp [Call.isClosing]⟩, _, hheard,
        by simp [Exchange.creates]⟩
  · cases a with
    | error e => cases ha
    | ok _ =>
      obtain rfl : id = w.rules.length := Except.ok.inj ha
      cases hincremental : Config.isIncremental c.properties with
      | error f =>
        obtain ⟨flaw, rfl⟩ := Config.isIncremental_error hincremental
        refine .unclosed ⟨⟨_, hcalls⟩, _, hheard, _, List.mem_singleton_self _, rfl⟩ ?_
        rw [htold, ← Config.exists_isIncremental, hincremental]
        rintro ⟨b, ⟨⟩⟩
      | ok b =>
        have htells : q.TellsAssignment :=
          htold.mpr (Config.exists_isIncremental.mp ⟨b, hincremental⟩)
        exact .opened ⟨rfl, Action.Adds.one hcalls ⟨rfl, by simp [Call.isClosing]⟩, _, hheard, _,
          List.mem_singleton_self _, rfl⟩ htells

/-! ## Steps -/

/-- The outcome of a reading whose client was closed: what closing raised takes the place of the
outcome of the body, unless it is an error of the client or a failure at run time. -/
def afterClosing {α : Type} (closed : Except Fault Unit) (outcome : Except Fault α) :
    Except Fault α :=
  match closed with
  | .ok _ => outcome
  | .error f => if f.cls.isClient || f.cls.isRuntime then outcome else .error f

/-- How a step of a reading follows from what its body came to. A message leaves the consumer open
for the next step; at an end or a fault its client is closed. -/
def Follows (L : Library σ) (id : ClientId)
    (body : Except Fault (Option Item) × Stream × Consumer × World σ) (r : Except Fault Reply)
    (t : Reading × World σ) : Prop :=
  match body with
  | (.ok (some (.message m)), (s, c, w)) =>
    r = .ok (.polled (.message m)) ∧ t.1.phase = .reading c s ∧ t.2 = w
  | (.ok none, (s, c, w)) => r = .ok .unfinished ∧ t.1.phase = .reading c s ∧ t.2 = w
  | (outcome, (_, _, w)) =>
    r = afterClosing (World.invoke L id .close w).1 (outcome.map .ofItem) ∧ t.1.phase = .ended

theorem map_afterClosing {α β : Type} (closed : Except Fault Unit) (outcome : Except Fault α)
    (f : α → β) : (afterClosing closed outcome).map f = afterClosing closed (outcome.map f) := by
  rcases closed with g | _
  · unfold afterClosing
    dsimp only
    split <;> rfl
  · rfl

theorem closing_afterClosing {α : Type} (closed : Except Fault Unit) (outcome : Except Fault α) :
    (Consumer.closing closed >>= fun _ => outcome) = afterClosing closed outcome := by
  rcases closed with f | _
  · unfold Consumer.closing afterClosing Consumer.isAbsorbed
    dsimp only
    by_cases hf : (f.cls.isClient || f.cls.isRuntime) = true
    · rw [if_pos hf, if_pos hf]
      rfl
    · rw [if_neg hf, if_neg hf]
      rfl
  · rfl

theorem Opened.ends (h : Opened w c u) :
    ∃ d v, Consumer.close L.recorded (c, u) =
        (Consumer.closing (World.invoke L.recorded w.rules.length .close u).1, (d, v)) ∧
      Closed L w v := by
  obtain ⟨log, hclose⟩ := Consumer.close_open L.recorded h.client u
  exact ⟨_, _, hclose, h.close log⟩

theorem advance_ending {s s' : Stream} {d d' : Consumer} {u v v' : World σ}
    {body : Action (Stream × Consumer × World σ) (Option Item)} {closed : Except Fault Unit}
    {outcome : Except Fault (Option Item)} (hbody : body (s, c, u) = (outcome, s', d, v))
    (hend : (∃ f, outcome = .error f) ∨ outcome = .ok (some .finished))
    (hclose : Consumer.close L (d, v) = (Consumer.closing closed, (d', v'))) (r : Reading) :
    advance L c s body (r, u) =
      (afterClosing closed outcome, ({ r with phase := .ended }, v')) := by
  rw [← closing_afterClosing]
  unfold advance
  rcases hend with ⟨f, rfl⟩ | rfl
  · simp only [hbody, hclose]
    rcases Consumer.closing closed with g | _ <;> rfl
  · simp only [hbody, hclose]
    rcases Consumer.closing closed with g | _ <;> rfl

theorem advance_follows (h : Opened w c u) (told : q.TellsAssignment)
    {body : Action (Stream × Consumer × World (σ × List Exchange)) (Option Item)}
    (hbody : body.Within (Action.OnSecond Reads)) (s : Stream) (r : Reading) :
    Stands L w q (advance L.recorded c s body (r, u)).2.1.phase
        (advance L.recorded c s body (r, u)).2.2 ∧
      Follows L.recorded w.rules.length (body (s, c, u))
        ((advance L.recorded c s body (r, u)).1.map .ofItem)
        (advance L.recorded c s body (r, u)).2 := by
  have hreads := hbody (s, c, u)
  rcases hb : body (s, c, u) with ⟨outcome, s', d, v⟩
  rw [hb] at hreads
  have hopened : Opened w d v := h.reads hreads
  obtain ⟨d', v', hclose, hends⟩ := hopened.ends (L := L)
  rcases outcome with f | _ | m | _
  · rw [advance_ending hb (Or.inl ⟨f, rfl⟩) hclose r]
    exact ⟨.closed hends told, map_afterClosing _ _ _, rfl⟩
  · simp only [advance, hb]
    exact ⟨.reading hopened told, rfl, rfl, rfl⟩
  · simp only [advance, hb]
    exact ⟨.reading hopened told, rfl, rfl, rfl⟩
  · rw [advance_ending hb (Or.inr rfl) hclose r]
    exact ⟨.closed hends told, map_afterClosing _ _ _, rfl⟩

/-! ## Moves -/

/-- A move of those who hold a reading or its stop flag. -/
inductive Move
  /-- Asks for the next message. -/
  | next
  | giveUp
  | setStop (flag : Option StopId)

section Moves

variable (L : Library σ) (fuel : Nat)

/-- What a move comes to. -/
def take : Move → Action (Reading × World σ) Reply
  | .next => do
    let item ← Reading.next L fuel
    pure (.ofItem item)
  | .giveUp => do
    Reading.giveUp L
    pure .nothing
  | .setStop flag => do
    Action.modify fun (r, w) => (r, w.setStop flag)
    pure .nothing

/-- What a run leaves. -/
def run (moves : List Move) (t : Reading × World σ) : Reading × World σ :=
  moves.foldl (fun t m => (take L fuel m t).2) t

end Moves

/-- What a move comes to for a reading whose consumer has the client `id`. -/
structure Settles (L : Library σ) (fuel : Nat) (id : ClientId) (t : Reading × World σ) (m : Move)
    (r : Except Fault Reply) (u : Reading × World σ) : Prop where
  /-- The first step goes on from a consumer, or fails without one. -/
  first : m = .next → t.1.phase = .unstarted → match start L t.1.request t.2 with
    | (.error f, w) => r = .error f ∧ u.1.phase = .ended ∧ u.2 = w
    | (.ok (c, s), w) => Follows L id (opening L fuel t.1.request (s, c, w)) r u
  later : m = .next → ∀ c s, t.1.phase = .reading c s →
    Follows L id (Stream.next L fuel (s, c, t.2)) r u
  /-- Giving a reading up closes its client. -/
  givenUp : m = .giveUp → ∀ c s, t.1.phase = .reading c s →
    r = afterClosing (World.invoke L id .close t.2).1 (.ok .nothing) ∧ u.1.phase = .ended
  /-- A reading that is given up before its first step does nothing. -/
  idle : m = .giveUp → t.1.phase = .unstarted →
    r = .ok .nothing ∧ u.1.phase = .ended ∧ u.2 = t.2
  /-- A reading that has come to its end does nothing any more. -/
  exhausted : t.1.phase = .ended →
    (m = .next → r = .ok .finished ∧ u = t) ∧ (m = .giveUp → r = .ok .nothing ∧ u = t)
  /-- A fault, no more messages, and giving up all bring a reading to its end. -/
  ends : (∃ f, r = .error f) ∨ r = .ok .finished ∨ m = .giveUp → u.1.phase = .ended

variable {fuel : Nat}

theorem take_next (t : Reading × World σ) : take L fuel .next t =
    ((Reading.next L fuel t).1.map .ofItem, (Reading.next L fuel t).2) :=
  Action.bind_pure_apply _ _ _

theorem Follows.ends {id : ClientId}
    {body : Except Fault (Option Item) × Stream × Consumer × World σ} {r : Except Fault Reply}
    {t : Reading × World σ} (h : Follows L id body r t)
    (hr : (∃ f, r = .error f) ∨ r = .ok .finished) : t.1.phase = .ended := by
  obtain ⟨outcome, s, c, w⟩ := body
  rcases outcome with f | _ | m | _
  · exact h.2
  · obtain ⟨rfl, -⟩ := h
    rcases hr with ⟨f, hf⟩ | hf <;> cases hf
  · obtain ⟨rfl, -⟩ := h
    rcases hr with ⟨f, hf⟩ | hf <;> cases hf
  · exact h.2

theorem next_unstarted (q : ReadingRequest) (u : World σ) :
    Reading.next L fuel (⟨q, .unstarted⟩, u) = match start L q u with
      | (.error f, v) => (.error f, (⟨q, .ended⟩, v))
      | (.ok (c, s), v) => advance L c s (opening L fuel q) (⟨q, .ended⟩, v) := by
  simp only [Reading.next, enterPhase, Action.bind_apply, Action.get_apply, Action.modify_apply,
    Action.onSecond]
  rcases start L q u with ⟨f | ⟨c, s⟩, v⟩
  · rfl
  · rfl

theorem giveUp_reading (q : ReadingRequest) (c : Consumer) (s : Stream) (u : World σ) :
    giveUp L (⟨q, .reading c s⟩, u) =
      ((Consumer.close L (c, u)).1, (⟨q, .ended⟩, (Consumer.close L (c, u)).2.2)) :=
  rfl

theorem run_concat (moves : List Move) (m : Move) (t : Reading × World σ) :
    run L fuel (moves ++ [m]) t = (take L fuel m (run L fuel moves t)).2 := by
  simp [run]

/-- Where a reading stands after a move that was made from a world, and what the move came to. -/
def Comes (L : Library σ) (fuel : Nat) (w : World (σ × List Exchange))
    (t : Reading × World (σ × List Exchange)) (m : Move) : Prop :=
  Stands L w t.1.request (take L.recorded fuel m t).2.1.phase (take L.recorded fuel m t).2.2 ∧
    Settles L.recorded fuel w.rules.length t m (take L.recorded fuel m t).1
      (take L.recorded fuel m t).2

theorem setStop_comes {t : Reading × World (σ × List Exchange)}
    (h : Stands L w t.1.request t.1.phase t.2) (flag : Option StopId) :
    Comes L fuel w t (.setStop flag) := by
  have huntouched : Untouched t.2 (t.2.setStop flag) := by
    refine ⟨World.calls_setStop flag t.2, World.heard_setStop flag t.2, ?_⟩
    cases flag <;> rfl
  refine ⟨h.untouched huntouched, nofun, nofun, nofun, nofun, fun _ => ⟨nofun, nofun⟩, ?_⟩
  rintro (⟨f, hf⟩ | hf | hf) <;> cases hf

theorem exhausted_comes {t : Reading × World (σ × List Exchange)}
    (h : Stands L w t.1.request .ended t.2) (ht : t.1.phase = .ended) {m : Move}
    (hm : ∀ flag, m ≠ .setStop flag) : Comes L fuel w t m := by
  obtain ⟨⟨q, phase⟩, u⟩ := t
  cases ht
  have hsame : (take L.recorded fuel m (⟨q, .ended⟩, u)).2 = (⟨q, .ended⟩, u) := by
    cases m with
    | setStop flag => exact absurd rfl (hm flag)
    | next | giveUp => rfl
  unfold Comes
  rw [hsame]
  refine ⟨h, nofun, nofun, nofun, nofun, fun _ => ⟨?_, ?_⟩, fun _ => rfl⟩
  · rintro rfl
    exact ⟨rfl, rfl⟩
  · rintro rfl
    exact ⟨rfl, rfl⟩

theorem first_comes (q : ReadingRequest) (h : Untouched w u) :
    Comes L fuel w (⟨q, .unstarted⟩, u) .next := by
  unfold Comes
  rw [take_next, next_unstarted]
  have hstarts := start_starts (L := L) q u
  rcases hstart : start L.recorded q u with ⟨_ | _, v⟩ <;> rw [hstart] at hstarts
  · have hstands : Stands L w q .ended v := by
      cases hstarts with
      | missed hmissed => exact .missed (h.missed hmissed)
      | unclosed hunclosed untold => exact .unclosed (h.unclosed hunclosed) untold
    refine ⟨hstands, fun _ _ => ?_, nofun, nofun, nofun, nofun, fun _ => rfl⟩
    dsimp only
    rw [hstart]
    exact ⟨rfl, rfl, rfl⟩
  · cases hstarts with | @opened c s _ hopened told => ?_
    obtain ⟨hstands, hfollows⟩ :=
      advance_follows (h.opened hopened) told (opening_reads fuel q) s ⟨q, .ended⟩
    refine ⟨hstands, fun _ _ => ?_, nofun, nofun, nofun, nofun, ?_⟩
    · dsimp only
      rw [hstart]
      exact hfollows
    · rintro (hr | hr | hr)
      · exact hfollows.ends (Or.inl hr)
      · exact hfollows.ends (Or.inr hr)
      · cases hr

theorem later_comes (told : q.TellsAssignment) (s : Stream) (h : Opened w c u) :
    Comes L fuel w (⟨q, .reading c s⟩, u) .next := by
  unfold Comes
  rw [take_next]
  obtain ⟨hstands, hfollows⟩ := advance_follows h told (next_reads fuel) s ⟨q, .reading c s⟩
  refine ⟨hstands, nofun, ?_, nofun, nofun, nofun, ?_⟩
  · rintro - c' s' ⟨⟩
    exact hfollows
  · rintro (hr | hr | hr)
    · exact hfollows.ends (Or.inl hr)
    · exact hfollows.ends (Or.inr hr)
    · cases hr

theorem giveUp_comes (told : q.TellsAssignment) (s : Stream) (h : Opened w c u) :
    Comes L fuel w (⟨q, .reading c s⟩, u) .giveUp := by
  obtain ⟨d, v, hclose, hends⟩ := h.ends (L := L)
  have hafter := closing_afterClosing
    (World.invoke L.recorded w.rules.length .close u).1 (.ok Reply.nothing)
  have htake : take L.recorded fuel .giveUp (⟨q, .reading c s⟩, u) =
      (afterClosing (World.invoke L.recorded w.rules.length .close u).1 (.ok .nothing),
        (⟨q, .ended⟩, v)) := by
    rw [← hafter, take, Action.bind_apply, giveUp_reading, hclose]
    rcases Consumer.closing (World.invoke L.recorded w.rules.length .close u).1 with g | _
    · rfl
    · rfl
  unfold Comes
  rw [htake]
  refine ⟨.closed hends told, nofun, nofun, ?_, nofun, nofun, fun _ => rfl⟩
  rintro - c' s' ⟨⟩
  exact ⟨rfl, rfl⟩

theorem take_comes {t : Reading × World (σ × List Exchange)}
    (h : Stands L w t.1.request t.1.phase t.2) (m : Move) : Comes L fuel w t m := by
  obtain ⟨⟨q, phase⟩, u⟩ := t
  cases m with
  | setStop flag => exact setStop_comes h flag
  | next =>
    cases h with
    | unstarted h => exact first_comes q h
    | @reading _ c s h told => exact later_comes told s h
    | missed h => exact exhausted_comes (.missed h) rfl nofun
    | unclosed h untold => exact exhausted_comes (.unclosed h untold) rfl nofun
    | closed h told => exact exhausted_comes (.closed h told) rfl nofun
  | giveUp =>
    cases h with
    | unstarted h =>
      refine ⟨?_, nofun, nofun, nofun, fun _ _ => ⟨rfl, rfl, rfl⟩, nofun, fun _ => rfl⟩
      exact .missed ⟨World.asks_of_eq h.calls, [], by rw [List.append_nil]; exact h.heard, by simp⟩
    | @reading _ c s h told => exact giveUp_comes told s h
    | missed h => exact exhausted_comes (.missed h) rfl nofun
    | unclosed h untold => exact exhausted_comes (.unclosed h untold) rfl nofun
    | closed h told => exact exhausted_comes (.closed h told) rfl nofun

theorem advance_request (c : Consumer) (s : Stream)
    (body : Action (Stream × Consumer × World σ) (Option Item)) (t : Reading × World σ) :
    (advance L c s body t).2.1.request = t.1.request := by
  unfold advance
  dsimp only
  split
  · rfl
  · rfl
  · split <;> rfl

theorem take_request (m : Move) (t : Reading × World σ) :
    (take L fuel m t).2.1.request = t.1.request := by
  obtain ⟨⟨q, phase⟩, u⟩ := t
  cases m with
  | setStop flag => rfl
  | next =>
    rw [take_next]
    cases phase with
    | unstarted =>
      rw [next_unstarted]
      rcases start L q u with ⟨f | ⟨c, s⟩, v⟩
      · rfl
      · exact advance_request c s _ _
    | reading c s => exact advance_request c s (Stream.next L fuel) (⟨q, .reading c s⟩, u)
    | ended => rfl
  | giveUp =>
    rw [take, Action.bind_pure_apply]
    cases phase with
    | reading c s => rw [giveUp_reading]
    | unstarted | ended => rfl

theorem run_request (moves : List Move) (t : Reading × World σ) :
    (run L fuel moves t).1.request = t.1.request := by
  induction moves generalizing t with
  | nil => rfl
  | cons m moves ih => exact (ih _).trans (take_request m t)

theorem run_stands {t : Reading × World (σ × List Exchange)}
    (h : Stands L w t.1.request t.1.phase t.2) (moves : List Move) :
    Stands L w t.1.request (run L.recorded fuel moves t).1.phase
      (run L.recorded fuel moves t).2 := by
  induction moves generalizing t with
  | nil => exact h
  | cons m moves ih =>
    have hcomes : Comes L fuel w t m := take_comes h m
    have hrequest : (take L.recorded fuel m t).2.1.request = t.1.request := take_request m t
    have hnext := hcomes.1
    rw [← hrequest] at hnext ⊢
    exact ih hnext

theorem Stands.accounts {phase : ReadingPhase} (h : Stands L w q phase u) :
    ∃ made answered, u.calls = w.calls ++ made ∧ u.heard = w.heard ++ answered ∧
      (phase = .unstarted → made = []) ∧
      (phase ≠ .ended → ∀ e ∈ made, ¬e.2.isClosing) ∧
      ((∀ x ∈ answered, ¬x.creates) → ∀ e ∈ made, ¬e.2.isClosing) ∧
      ((∃ x ∈ answered, x.creates) → q.TellsAssignment → phase = .ended → ∃ used nested,
        made = used ++ (w.rules.length, .close) :: nested ∧
        (∀ e ∈ used, e.1 = w.rules.length ∧ ¬e.2.isClosing) ∧
        (∀ e ∈ nested, e.1 = w.rules.length ∧ e.2.isFollowing) ∧
        (L.ClosesQuietly → nested = [])) ∧
      ((∃ x ∈ answered, x.creates) → ¬q.TellsAssignment → phase = .ended ∧
        ∃ properties, made = [(w.rules.length, .create .consumer properties)]) := by
  cases h with
  | unstarted h =>
    refine ⟨[], [], ?_, ?_, fun _ => rfl, by simp, by simp, by simp, by simp⟩
    · rw [List.append_nil, h.calls]
    · rw [List.append_nil, h.heard]
  | reading h told =>
    obtain ⟨made, hcalls, hmade⟩ := h.asks
    obtain ⟨answered, hanswered, -⟩ := h.created
    have hopen : ∀ e ∈ made, ¬e.2.isClosing := fun e he => (hmade e he).2
    exact ⟨made, answered, hcalls, hanswered, nofun, fun _ => hopen, fun _ => hopen,
      fun _ _ hended => (nomatch hended), fun _ untold => absurd told untold⟩
  | missed h =>
    obtain ⟨made, hcalls, hmade⟩ := h.asks
    obtain ⟨answered, hanswered, hnone⟩ := h.answered
    have hmissed : ¬∃ x ∈ answered, x.creates = true := fun ⟨x, hx, hcreates⟩ => hnone x hx hcreates
    exact ⟨made, answered, hcalls, hanswered, nofun, nofun, fun _ e he => (hmade e he).2,
      fun hcreated => absurd hcreated hmissed, fun hcreated => absurd hcreated hmissed⟩
  | unclosed h untold =>
    obtain ⟨properties, hcalls⟩ := h.calls
    obtain ⟨answered, hanswered, -⟩ := h.created
    exact ⟨_, answered, hcalls, hanswered, nofun, nofun, fun _ => by simp [Call.isClosing],
      fun _ told => absurd told untold, fun _ _ => ⟨rfl, properties, rfl⟩⟩
  | closed h told =>
    obtain ⟨used, nested, hcalls, hclosed⟩ := h.calls
    obtain ⟨answered, hanswered, x, hx, hcreates⟩ := h.created
    exact ⟨_, answered, hcalls, hanswered, nofun, nofun,
      fun hnone => absurd hcreates (hnone x hx), fun _ _ _ => ⟨used, nested, rfl, hclosed⟩,
      fun _ untold => absurd told untold⟩

/-- A reading closes the consumer that it makes once, and after everything else. Whatever it is
asked to do, whatever the client does, and however it is asked for messages, given up and stopped:
nothing is asked of any client before the first step; if a client is created and the reading has
come to its end, the client has been closed by one call, before which all other calls were made but
those that it makes itself while it is closed, because partitions are assigned to it; if no client
is created, none is closed. The exception is a client that is created with a property whose text the
consumer needs and which has none: the reading ends there, and its client is not closed. What a move
comes to is what its body does, unless closing raises something else, and after the end a move does
nothing any more. -/
theorem closes_its_consumer_once (L : Library σ) (fuel : Nat) (q : ReadingRequest)
    (w : World (σ × List Exchange)) (moves : List Move) :
    let id := w.rules.length
    let t := run L.recorded fuel moves ({ request := q }, w)
    (∃ made answered, t.2.calls = w.calls ++ made ∧ t.2.heard = w.heard ++ answered ∧
      (t.1.phase = .unstarted → made = []) ∧
      (t.1.phase ≠ .ended → ∀ e ∈ made, ¬e.2.isClosing) ∧
      ((∀ x ∈ answered, ¬x.creates) → ∀ e ∈ made, ¬e.2.isClosing) ∧
      ((∃ x ∈ answered, x.creates) → q.TellsAssignment → t.1.phase = .ended → ∃ used nested,
        made = used ++ (id, .close) :: nested ∧ (∀ e ∈ used, e.1 = id ∧ ¬e.2.isClosing) ∧
        (∀ e ∈ nested, e.1 = id ∧ e.2.isFollowing) ∧ (L.ClosesQuietly → nested = [])) ∧
      ((∃ x ∈ answered, x.creates) → ¬q.TellsAssignment → t.1.phase = .ended ∧
        ∃ properties, made = [(id, .create .consumer properties)])) ∧
    ∀ m, Settles L.recorded fuel id t m (take L.recorded fuel m t).1
      (take L.recorded fuel m t).2 := by
  intro id t
  have hstands : Stands L w q t.1.phase t.2 :=
    run_stands (t := ({ request := q }, w)) (.unstarted ⟨rfl, rfl, rfl⟩) moves
  have hrequest : t.1.request = q := run_request moves _
  exact ⟨hstands.accounts, fun m => (take_comes (hrequest.symm ▸ hstands) m).2⟩

/-- A reading that is given up at its first message closes its client, which is the last call. -/
theorem abandoned_reading_closes_its_client :
    let q : ReadingRequest :=
      { config := .config ⟨["a:1"], some "readers", none, .latest, []⟩, topic := .text "jobs" }
    let w : World (List (Option Message) × List Exchange) :=
      { library := ([none, some ⟨none, some [], "jobs", 0, 7⟩], []) }
    Library.queue.ClosesQuietly ∧ ∃ used,
      (run Library.queue.recorded 2 ([.next] ++ [.giveUp]) ({ request := q }, w)).2.calls =
        used ++ [(0, .close)] ∧ ∀ e ∈ used, ¬e.2.isClosing := by
  intro q w
  have hquiet : Library.queue.ClosesQuietly := nofun
  have hended := ((closes_its_consumer_once Library.queue 2 q w [.next]).2 .giveUp).ends
    (Or.inr (Or.inr rfl))
  rw [← run_concat] at hended
  have hany : (run Library.queue.recorded 2 ([.next] ++ [.giveUp])
      ({ request := q }, w)).2.heard.any Exchange.creates = true := by decide +kernel
  have htold : q.TellsAssignment := by
    rintro c ⟨⟩
    exact Config.exists_isIncremental.mp ⟨false, rfl⟩
  obtain ⟨⟨made, answered, hcalls, hheard, -, -, -, hclosed, -⟩, -⟩ :=
    closes_its_consumer_once Library.queue 2 q w ([.next] ++ [.giveUp])
  -- from here on the run is any that has created a client and come to its end
  generalize run Library.queue.recorded 2 ([.next] ++ [.giveUp]) ({ request := q }, w) = t at *
  have hcreated : ∃ x ∈ answered, x.creates := by
    rw [hheard] at hany
    exact List.any_eq_true.mp hany
  obtain ⟨used, nested, rfl, hused, -, hnested⟩ := hclosed hcreated htold hended
  obtain rfl := hnested hquiet
  exact ⟨hquiet, used, hcalls, fun e he => (hused e he).2⟩

/-- A group protocol that is an integer with too many digits: the reading creates a client, ends in
its first step, and leaves the client open. -/
theorem client_with_long_property_stays_open :
    let c : Config := ⟨["b:1"], some "grp", none, .latest,
      [(.text "group.protocol", .int Text.digitBound)]⟩
    let q : ReadingRequest := { config := .config c, topic := .text "t", timeoutMs := .int 0 }
    let w : World (List (Option Message) × List Exchange) := { library := ([], []) }
    let ended := take Library.queue.recorded 1 .next ({ request := q }, w)
    ended.1 = .error (.untold .digitsTooMany) ∧ ended.2.1.phase = .ended ∧
      (∃ x ∈ ended.2.2.heard, x.creates) ∧ ∀ x ∈ ended.2.2.calls, ¬x.2.isClosing := by
  intro c q w ended
  let u := (Blueprint.consumer.make Library.queue.recorded (.config c) w).2
  have hclient : Blueprint.consumer.make Library.queue.recorded (.config c) w = (.ok (0, c), u) :=
    rfl
  have hmake : Consumer.make Library.queue.recorded (.config c) w =
      (.error (.untold .digitsTooMany), u) := by
    rw [Consumer.make, Action.bind_ok hclient]
    exact Action.bind_error (Prod.ext Config.isIncremental_digitBound rfl)
  have hstart : start Library.queue.recorded q w = (.error (.untold .digitsTooMany), u) := by
    obtain ⟨x, hx⟩ : ∃ x, Check.milliseconds q.timeoutMs = .ok x := ⟨_, rfl⟩
    have hplace : (q.partition.isNone != q.offset.isNone) = false := rfl
    simp only [start, hplace, Bool.false_eq_true, if_false, Action.bind_apply, Action.lift_apply,
      hx]
    rw [hmake]
  have hended : ended = (.error (.untold .digitsTooMany), (⟨q, .ended⟩, u)) := by
    show take _ _ _ _ = _
    rw [take_next, next_unstarted, hstart]
    rfl
  rw [hended]
  refine ⟨rfl, rfl, ⟨_, List.mem_singleton_self _, rfl⟩, fun x hx => ?_⟩
  obtain rfl := List.mem_singleton.mp hx
  intro hclosing
  cases hclosing

end Reading

end KafkaHandles
