import KafkaHandles.Proofs.Consumer.Rounds
import KafkaHandles.Proofs.Handle.Scene

/-!
# Every message is delivered once

Several streams and direct polls share a consumer. Each data message that the client answers a poll
with is the outcome of the very move that made that poll, whole and at once, so that nothing is
lost, repeated or put in another order, however the moves are interleaved.
-/

namespace KafkaHandles

variable {σ : Type}

/-- The message that an operation gives its caller. -/
def Reply.message? : Except Fault Reply → Option Message
  | .ok (.polled (.message m)) => some m
  | _ => none

/-- The message that a move has given its caller. -/
def Taken.delivered? (x : Taken σ) : Option Message :=
  Reply.message? x.outcome

/-- Whether a move has brought a stream to its end, by its stop flag or by a fault. -/
def Taken.EndsStream (i : Nat) (x : Taken σ) : Prop :=
  x.move = .next i ∧ (x.outcome = .ok .finished ∨ ∃ f, x.outcome = .error f)

/-- What a move does with the answers to the polls that it makes, given the moves before it. -/
structure Taken.Delivers (fuel : Nat) (past : List (Taken (σ × List Exchange)))
    (x : Taken (σ × List Exchange)) : Prop where
  /-- The data messages that its polls were answered with are what it gives its caller. -/
  messages : x.after.world.fetched =
    x.before.world.fetched ++ x.delivered?.toList.map Message.fetched
  /-- A step of a stream comes from one loop head to the next, passing over the answers in between,
  until it ends at the last. -/
  steps : ∀ i s c, x.move = .next i → x.before.handle = .consumer c →
    x.before.streams[i]? = some s → s.status = .suspended →
    ∃ heads r, ((s, c, x.before.world) :: heads).IsChain Stream.PassesOver ∧
      Stream.Ends (heads.getLastD (s, c, x.before.world)) x.after.world r ∧
      x.outcome = r.map .ofItem ∧ (r = .ok none → heads.length = fuel)
  /-- A stream that has come to its end gives nothing and polls no more. -/
  ended : ∀ i, x.move = .next i → (∃ y ∈ past, y.EndsStream i) →
    x.outcome = .ok .finished ∧ x.after = x.before

variable {L : Library σ} {fuel : Nat}

/-! ## Deeds -/

namespace Consumer

theorem demand_fetched (r : Except Fault ModeRequest) (c : Consumer)
    (w : World (σ × List Exchange)) :
    (demand L.recorded r (c, w)).2.2.fetched = w.fetched := by
  simp only [demand]
  cases c.client with
  | none => rfl
  | some id =>
    cases r with
    | error f => rfl
    | ok q =>
      obtain ⟨a, -, hheard⟩ := q.ask_heard (L := L) c id w
      have hanswers : (q.ask L.recorded c id w).2.answers = w.answers :=
        World.answers_of_heard hheard fun x hx => by
          rw [List.mem_singleton.mp hx]
          cases q <;> rfl
      dsimp only [openClient, ModeRequest.perform]
      split <;> rename_i hask <;> rw [hask] at hanswers <;>
        exact World.fetched_of_answers hanswers

theorem close_fetched (c : Consumer) (w : World (σ × List Exchange)) :
    (close L.recorded (c, w)).2.2.fetched = w.fetched := by
  cases hc : c.client with
  | none => rw [close_closed _ hc]
  | some id =>
    obtain ⟨log, hclose⟩ := close_open L.recorded hc w
    rw [hclose]
    obtain ⟨nested, hnested, hheard⟩ := World.invoke_heard .close w
    refine World.fetched_of_answers ?_
    rcases hheard with ⟨f, -, hu⟩ | ⟨a, s, -, -, hu⟩
    · exact World.answers_of_heard hu fun x hx => Exchange.polled?_of_isFollowing (hnested x hx).2
    · rw [List.append_assoc] at hu
      refine World.answers_of_heard hu fun x hx => ?_
      rcases List.mem_append.mp hx with hx | hx
      · exact Exchange.polled?_of_isFollowing (hnested x hx).2
      · rw [List.mem_singleton.mp hx]
        rfl

/-- A deed gives its caller the data that its poll was answered with, if it polls at all. -/
theorem Deed.act_fetched (hL : L.CarriesBytes) (d : Deed) (c : Consumer)
    (w : World (σ × List Exchange)) :
    (d.act L.recorded (c, w)).2.2.fetched = w.fetched ++
      (Reply.message? (d.act L.recorded (c, w)).1).toList.map Message.fetched := by
  have hquiet {r : Except Fault Unit} {u : World (σ × List Exchange)}
      (h : u.fetched = w.fetched) : u.fetched =
        w.fetched ++ (Reply.message? (r.map fun _ => .nothing)).toList.map Message.fetched := by
    rw [h]
    cases r <;> exact (List.append_nil _).symm
  cases d with
  | subscribeByTopic topic policy =>
    rw [act, Action.bind_pure_apply, subscribeByTopic_apply]
    exact hquiet (demand_fetched _ c w)
  | subscribeAtOffset topic partition offset =>
    rw [act, Action.bind_pure_apply, subscribeAtOffset_apply]
    exact hquiet (demand_fetched _ c w)
  | close =>
    rw [act, Action.bind_pure_apply]
    exact hquiet (close_fetched c w)
  | poll timeout =>
    rw [act, Action.bind_pure_apply]
    obtain ⟨f, hpoll⟩ | ⟨id, a, r, u, -, hpoll, honce, hsays⟩ := poll_cases hL timeout c w
    · rw [hpoll]
      exact (List.append_nil _).symm
    · rw [hpoll]
      have hmessage : Reply.message? (r.map .ofPolled) = Polled.message? r := by
        rcases r with f | _ | m | e <;> rfl
      rw [hmessage, ← hsays.data]
      exact honce.fetched

end Consumer

/-! ## Steps of streams -/

namespace Stream

theorem PassesOver.fetched {t u : Stream × Consumer × World (σ × List Exchange)}
    (h : PassesOver t u) : u.2.2.fetched = t.2.2.fetched := by
  obtain ⟨id, a, -, honce, ha⟩ := h.polled
  rw [honce.fetched, Option.toList_some, List.filterMap_cons, PollAnswer.data?_of_isPassedOver ha]
  exact List.append_nil _

theorem fetched_of_isChain {t : Stream × Consumer × World (σ × List Exchange)}
    {heads : List (Stream × Consumer × World (σ × List Exchange))}
    (h : (t :: heads).IsChain PassesOver) :
    (heads.getLastD t).2.2.fetched = t.2.2.fetched := by
  induction heads generalizing t with
  | nil => rfl
  | cons u heads ih =>
    obtain ⟨hpasses, hchain⟩ := List.isChain_cons_cons.mp h
    rw [List.getLastD_cons, ih hchain, hpasses.fetched]

theorem Ends.fetched {t : Stream × Consumer × World (σ × List Exchange)}
    {w : World (σ × List Exchange)} {r : Except Fault (Option Item)} (h : Ends t w r) :
    w.fetched = t.2.2.fetched ++
      (Reply.message? (r.map .ofItem)).toList.map Message.fetched := by
  cases h with
  | stopped flag calls answers =>
    rw [World.fetched_of_answers answers]
    exact (List.append_nil _).symm
  | delivered running client polled => exact polled.fetched
  | @failed id a f running client polled fault =>
    have hnone : a.toList.filterMap PollAnswer.data? = [] := by
      cases a with
      | none => rfl
      | some b => simp [PollAnswer.data?_of_isFault (fault b rfl)]
    rw [polled.fetched, hnone]
    rfl
  | refused running same =>
    rw [same]
    exact (List.append_nil _).symm
  | unfinished same =>
    rw [same]
    exact (List.append_nil _).symm

end Stream

/-! ## Moves -/

namespace Scene

theorem take_handle_consumer {s : Scene σ} {c : Consumer} (hs : s.handle = .consumer c)
    (m : Move) : ∃ c', (s.take L fuel m).2.handle = .consumer c' := by
  rcases take_consumer L fuel hs m with
    ⟨byHost, op, d, -, -, htake⟩ | ⟨i, stream, -, -, htake⟩ | ⟨r, streams, stops, htake, -⟩
  · rw [htake]
    exact ⟨_, rfl⟩
  · rw [htake]
    exact ⟨_, rfl⟩
  · rw [htake]
    exact ⟨c, hs⟩

theorem take_next_ended {s : Scene σ} {c : Consumer} {i : Nat} {stream : Stream}
    (hs : s.handle = .consumer c) (hi : s.streams[i]? = some stream)
    (hended : stream.status = .ended) : s.take L fuel (.next i) = (.ok .finished, s) := by
  obtain ⟨handle, streams, world⟩ := s
  cases hs
  have hset : streams.set i stream = streams := by
    obtain ⟨hlt, rfl⟩ := List.getElem?_eq_some_iff.mp hi
    exact List.set_getElem_self hlt
  simp only [take, hi, Stream.next, hended, hset]
  rfl

/-- Asking a stream that is suspended takes rounds until one of them is the last. -/
theorem take_next_suspended (fuel : Nat) (hL : L.CarriesBytes) {s : Scene (σ × List Exchange)}
    {c : Consumer} {i : Nat} {stream : Stream} (hs : s.handle = .consumer c)
    (hi : s.streams[i]? = some stream) (hsuspended : stream.status = .suspended) :
    ∃ heads r stream', ((stream, c, s.world) :: heads).IsChain Stream.PassesOver ∧
      Stream.Ends (heads.getLastD (stream, c, s.world))
        (s.take L.recorded fuel (.next i)).2.world r ∧
      (s.take L.recorded fuel (.next i)).1 = r.map .ofItem ∧
      (r = .ok none → heads.length = fuel) ∧
      (s.take L.recorded fuel (.next i)).2.streams = s.streams.set i stream' ∧
      (r = .ok (some .finished) ∨ (∃ f, r = .error f) → stream'.status = .ended) := by
  obtain ⟨heads, r, u, hrounds, hchain, hends, hkept, hlength⟩ :=
    Stream.rounds_cases hL fuel (stream, c, s.world)
  simp only [take, hs, hi, Stream.next, hsuspended, hrounds]
  rcases r with f | _ | m | _
  · exact ⟨heads, _, _, hchain, hends, rfl, hlength, rfl, fun _ => rfl⟩
  · exact ⟨heads, _, _, hchain, hends, rfl, hlength, rfl, by simp⟩
  · exact ⟨heads, _, _, hchain, hends, rfl, hlength, rfl, by simp⟩
  · exact ⟨heads, _, _, hchain, hends, rfl, hlength, rfl, fun _ => rfl⟩

theorem take_ended {s : Scene σ} {c : Consumer} {i : Nat} {stream : Stream}
    (hs : s.handle = .consumer c) (hi : s.streams[i]? = some stream)
    (hended : stream.status = .ended) (m : Move) :
    ∃ stream', (s.take L fuel m).2.streams[i]? = some stream' ∧ stream'.status = .ended := by
  cases m with
  | operate byHost op =>
    rcases take_operate_consumer L fuel hs byHost op with ⟨d, -, htake⟩ | ⟨-, r, htake, -⟩
    · rw [htake]
      exact ⟨stream, hi, hended⟩
    · rw [htake]
      exact ⟨stream, hi, hended⟩
  | next j =>
    by_cases hij : j = i
    · subst hij
      rw [take_next_ended hs hi hended]
      exact ⟨stream, hi, hended⟩
    · simp only [take, hs]
      cases hj : s.streams[j]? with
      | none => exact ⟨stream, hi, hended⟩
      | some other =>
        refine ⟨stream, ?_, hended⟩
        dsimp only
        rw [List.getElem?_set_ne hij, hi]
  | stream timeout stop =>
    simp only [take, hs]
    refine ⟨stream, ?_, hended⟩
    rw [List.getElem?_append_left (List.getElem?_eq_some_iff.mp hi).1, hi]
  | giveUp j =>
    simp only [take]
    rw [List.getElem?_modify, hi]
    split
    · exact ⟨_, rfl, rfl⟩
    · exact ⟨stream, rfl, hended⟩
  | setStop flag => exact ⟨stream, hi, hended⟩

theorem take_fetched (hL : L.CarriesBytes) {s : Scene (σ × List Exchange)} {c : Consumer}
    (hs : s.handle = .consumer c) (m : Move) :
    (s.take L.recorded fuel m).2.world.fetched = s.world.fetched ++
      (Reply.message? (s.take L.recorded fuel m).1).toList.map Message.fetched := by
  rcases take_consumer L.recorded fuel hs m with
    ⟨byHost, op, d, -, -, htake⟩ | ⟨i, stream, rfl, hi, -⟩ | ⟨r, streams, stops, htake, hr⟩
  · rw [htake]
    exact d.act_fetched hL c s.world
  · cases hstatus : stream.status with
    | ended =>
      rw [take_next_ended hs hi hstatus]
      exact (List.append_nil _).symm
    | suspended =>
      obtain ⟨heads, r, stream', hchain, hends, houtcome, -⟩ :=
        take_next_suspended fuel hL hs hi hstatus
      rw [houtcome, hends.fetched, Stream.fetched_of_isChain hchain]
  · have hnone : Reply.message? r = none := by
      rcases r with f | reply
      · rfl
      · cases reply with
        | polled p => exact absurd rfl (hr p)
        | _ => rfl
    rw [htake, hnone]
    exact (List.append_nil _).symm

/-- What is known of the streams of a consumer, given the moves so far. -/
structure Streaming (past : List (Taken σ)) (s : Scene σ) : Prop where
  handle : ∃ c, s.handle = .consumer c
  ended : ∀ i, (∃ y ∈ past, y.EndsStream i) →
    ∃ stream, s.streams[i]? = some stream ∧ stream.status = .ended

variable {past : List (Taken (σ × List Exchange))} {s : Scene (σ × List Exchange)}

theorem Streaming.delivers (fuel : Nat) (hL : L.CarriesBytes) (h : Streaming past s) (m : Move) :
    (s.taken L.recorded fuel m).Delivers fuel past := by
  obtain ⟨c, hs⟩ := h.handle
  refine ⟨take_fetched hL hs m, ?_, ?_⟩
  · rintro i stream c' rfl hs' hi hsuspended
    obtain ⟨heads, r, stream', hchain, hends, houtcome, hlength, -⟩ :=
      take_next_suspended fuel hL hs' hi hsuspended
    exact ⟨heads, r, hchain, hends, houtcome, hlength⟩
  · rintro i rfl hpast
    obtain ⟨stream, hi, hended⟩ := h.ended i hpast
    simp only [taken, take_next_ended hs hi hended]
    exact ⟨trivial, trivial⟩

/-- Asking a stream that is there, and that this brings to its end, leaves it there. -/
theorem Streaming.ends (hL : L.CarriesBytes) (h : Streaming past s) {i : Nat} {m : Move}
    (hm : (s.taken L.recorded fuel m).EndsStream i) :
    ∃ stream, (s.take L.recorded fuel m).2.streams[i]? = some stream ∧ stream.status = .ended := by
  obtain ⟨c, hs⟩ := h.handle
  obtain ⟨rfl : m = .next i, hend⟩ := hm
  cases hi : s.streams[i]? with
  | none =>
    simp [taken, take, hs, hi, Reply.nothing] at hend
  | some stream =>
    cases hstatus : stream.status with
    | ended => exact take_ended hs hi hstatus _
    | suspended =>
      obtain ⟨heads, r, stream', -, -, houtcome, -, hstreams, hstatus'⟩ :=
        take_next_suspended fuel hL hs hi hstatus
      refine ⟨stream', ?_, hstatus' ?_⟩
      · rw [hstreams, List.getElem?_set_self (List.getElem?_eq_some_iff.mp hi).1]
      · simp only [taken, houtcome] at hend
        rcases r with f | _ | m | _
        · exact Or.inr ⟨f, rfl⟩
        · simp [Except.map, Reply.ofItem] at hend
        · simp [Except.map, Reply.ofItem] at hend
        · exact Or.inl rfl

theorem Streaming.next (hL : L.CarriesBytes) (h : Streaming past s) (m : Move) :
    Streaming (past ++ [s.taken L.recorded fuel m]) (s.taken L.recorded fuel m).after := by
  obtain ⟨c, hs⟩ := h.handle
  refine ⟨take_handle_consumer hs m, fun i hi => ?_⟩
  obtain ⟨y, hy, hend⟩ := hi
  rcases List.mem_append.mp hy with hy | hy
  · obtain ⟨stream, hi, hended⟩ := h.ended i ⟨y, hy, hend⟩
    exact take_ended hs hi hended m
  · rw [List.mem_singleton.mp hy] at hend
    exact h.ends hL hend

end Scene

/-- A client library that answers polls from a list, each with a message or with nothing. -/
def Library.queue : Library (List (Option Message)) where
  serve _ _ ms := ([], ms)
  answer _ c ms := match c with
    | .pollMessage _ => (.ok ((ms.headD none).map Message.fetched), ms.tail)
    | .pollReports _ | .outstanding => (.ok (0 : Nat), ms)
    | .flush _ => (.ok (0 : Int), ms)
    | .committed ps _ => (.ok ps, ms)
    | .create .. | .produce .. | .purge .. | .subscribe .. | .assign _ | .incrementalAssign _
    | .close => (.ok (), ms)

theorem Library.queue_carriesBytes : queue.CarriesBytes := by
  intro id wait ms f hf _
  obtain ⟨m, -, rfl⟩ : ∃ m, ms.headD none = some m ∧ m.fetched = f :=
    Option.map_eq_some_iff.mp (Except.ok.inj hf)
  exact ⟨m.key, m.value, rfl, rfl⟩

end KafkaHandles
