import KafkaHandles.Producer.Send
import KafkaHandles.Proofs.Client.Interruptions
import KafkaHandles.Proofs.Consumer.Operations

/-!
# What becomes of the answers of a client

A request for a mode is answered once. A poll of a consumer makes one poll of its client at most,
and everything it ends in is read off the answer to that poll: a message for data, the end of a
partition, nothing, or a fault.
-/

namespace KafkaHandles

/-! ## Requests -/

namespace ModeRequest

/-- The exchange in which a client answers a request. -/
def exchange (c : Consumer) (id : ClientId) (a : Except ClientFault Unit) : ModeRequest → Exchange
  | topic t policy => ⟨id, .subscribe [t] (c.ruleFor policy), a⟩
  | place p => ⟨id, .assign [p], a⟩

variable {σ : Type} {L : Library σ}

theorem ask_heard (q : ModeRequest) (c : Consumer) (id : ClientId)
    (w : World (σ × List Exchange)) :
    ∃ a, (q.ask L.recorded c id w).1 = a.mapError .ofClient ∧
      (q.ask L.recorded c id w).2.heard = w.heard ++ [q.exchange c id a] := by
  cases q with
  | topic t policy =>
    obtain ⟨a, ha, hheard⟩ := World.request_heard L id (.subscribe [t] (c.ruleFor policy)) w
    refine ⟨a, ?_, ?_⟩
    · simp only [ask, World.subscribe, Action.bind_apply]
      split <;> rename_i hr <;> rw [hr] at ha <;> exact ha
    · simp only [ask, World.subscribe_state]
      split <;> rename_i hr <;> rw [hr] at hheard <;> exact hheard
  | place p => exact World.request_heard L id (.assign [p]) w

end ModeRequest

/-! ## Polls -/

/-- What a client answers to a poll. -/
abbrev PollAnswer := Except ClientFault (Option Fetched)

namespace PollAnswer

/-- The data message in an answer. -/
def data? : PollAnswer → Option Fetched
  | .ok (some f) => if f.error.isNone then some f else none
  | _ => none

/-- Whether a stream passes over an answer: nothing, or the end of a partition. -/
def isPassedOver : PollAnswer → Bool
  | .ok none => true
  | .ok (some f) => f.error.any (·.code = ErrorCode.partitionEnd)
  | .error _ => false

/-- Whether an answer is an error of any kind. -/
def isFault : PollAnswer → Bool
  | .ok none => false
  | .ok (some f) => f.error.any (·.code ≠ ErrorCode.partitionEnd)
  | .error _ => true

theorem data?_of_isPassedOver {a : PollAnswer} (h : a.isPassedOver) : a.data? = none := by
  rcases a with e | _ | f
  · rfl
  · rfl
  · cases he : f.error with
    | none => simp [isPassedOver, he] at h
    | some e => simp [data?, he]

theorem data?_of_isFault {a : PollAnswer} (h : a.isFault) : a.data? = none := by
  rcases a with e | _ | f
  · rfl
  · rfl
  · cases he : f.error with
    | none => simp [isFault, he] at h
    | some e => simp [data?, he]

end PollAnswer

/-- The answer to a poll of a client. -/
def Exchange.polled? : Exchange → Option PollAnswer
  | ⟨_, .pollMessage _, a⟩ => some a
  | _ => none

theorem Exchange.polled?_of_isFollowing {x : Exchange} (h : x.call.isFollowing) :
    x.polled? = none := by
  obtain ⟨id, c, a⟩ := x
  cases c <;> first | rfl | cases h

/-- A message as the client hands it over. -/
def Message.fetched (m : Message) : Fetched where
  topic := m.topic
  partition := m.partition
  offset := m.offset
  key := bytesOrAbsent m.key
  value := bytesOrAbsent m.value
  error := none

/-- A client library whose data messages have bytes or nothing for their keys and values. -/
def Library.CarriesBytes {σ : Type} (L : Library σ) : Prop :=
  ∀ id wait s f, (L.answer id (.pollMessage wait) s).1 = .ok (some f) → f.error = none →
    ∃ key value, f.key = bytesOrAbsent key ∧ f.value = bytesOrAbsent value

namespace World

variable {σ : Type}

/-- The answers to all polls of clients. -/
def answers (w : World (σ × List Exchange)) : List PollAnswer :=
  w.heard.filterMap Exchange.polled?

/-- All data messages that clients have answered polls with. -/
def fetched (w : World (σ × List Exchange)) : List Fetched :=
  w.answers.filterMap PollAnswer.data?

/-- A client is polled once, with an answer unless this is broken off. All other calls are those by
which it follows its start rule. -/
structure PollsOnce (id : ClientId) (a : Option PollAnswer) (w u : World (σ × List Exchange)) :
    Prop where
  calls : ∃ wait nested, u.calls = w.calls ++ (id, .pollMessage wait) :: nested ∧
    ∀ e ∈ nested, e.1 = id ∧ e.2.isFollowing
  answers : u.answers = w.answers ++ a.toList

theorem answers_of_heard {w u : World (σ × List Exchange)} {xs : List Exchange}
    (h : u.heard = w.heard ++ xs) (hxs : ∀ x ∈ xs, x.polled? = none) : u.answers = w.answers := by
  rw [answers, h, List.filterMap_append, List.filterMap_eq_nil_iff.mpr hxs, List.append_nil]
  rfl

/-- A poll adds its answer to all others, unless it is broken off. -/
theorem invoke_polled (L : Library σ) (id : ClientId) (wait : Wait)
    (w : World (σ × List Exchange)) :
    (∃ f, (invoke L.recorded id (.pollMessage wait) w).1 = .error f ∧
      (invoke L.recorded id (.pollMessage wait) w).2.answers = w.answers) ∨
    ∃ a s, (invoke L.recorded id (.pollMessage wait) w).1 = a.mapError .ofClient ∧
      a = (L.answer id (.pollMessage wait) s).1 ∧
      (invoke L.recorded id (.pollMessage wait) w).2.answers = w.answers ++ [a] := by
  obtain ⟨nested, hnested, hheard⟩ := invoke_heard (L := L) (.pollMessage wait) w
  have hskip : ∀ x ∈ nested, x.polled? = none :=
    fun x hx => Exchange.polled?_of_isFollowing (hnested x hx).2
  rcases hheard with ⟨f, hr, hu⟩ | ⟨a, s, hr, ha, hu⟩
  · exact Or.inl ⟨f, hr, answers_of_heard hu hskip⟩
  · refine Or.inr ⟨a, s, hr, ha, ?_⟩
    rw [answers, hu, List.filterMap_append, List.filterMap_append,
      List.filterMap_eq_nil_iff.mpr hskip, List.append_nil]
    rfl

theorem fetched_of_answers {w u : World (σ × List Exchange)} (h : u.answers = w.answers) :
    u.fetched = w.fetched := by
  rw [fetched, h]
  rfl

theorem PollsOnce.fetched {id : ClientId} {a : Option PollAnswer}
    {w u : World (σ × List Exchange)} (h : w.PollsOnce id a u) :
    u.fetched = w.fetched ++ a.toList.filterMap PollAnswer.data? := by
  rw [World.fetched, h.answers, List.filterMap_append]
  rfl

end World

namespace Consumer

variable {σ : Type} {L : Library σ}

/-- What a poll says when the client has answered, or was broken off. -/
def Says (a : Option PollAnswer) (r : Except Fault (Option Polled)) : Prop :=
  match a with
  | none => ∃ f, r = .error f
  | some (.error e) => r = .error (brokerFault (.ofClient e))
  | some (.ok none) => r = .ok none
  | some (.ok (some f)) => match f.error with
    | some e =>
      if e.code = ErrorCode.partitionEnd then
        r = .ok (some (.partitionEnd ⟨f.topic, f.partition, f.offset⟩))
      else r = .error (.broker e)
    | none => ∃ m : Message, f = m.fetched ∧ r = .ok (some (.message m))

/-- The message in the outcome of a poll. -/
def Polled.message? : Except Fault (Option Polled) → Option Message
  | .ok (some (.message m)) => some m
  | _ => none

/-- A poll gives a message exactly if the answer holds data, and then all of it. -/
theorem Says.data {a : Option PollAnswer} {r : Except Fault (Option Polled)} (h : Says a r) :
    a.toList.filterMap PollAnswer.data? = (Polled.message? r).toList.map Message.fetched := by
  rcases a with _ | e | _ | f
  · obtain ⟨f, rfl⟩ := h
    rfl
  · obtain rfl : r = _ := h
    rfl
  · obtain rfl : r = _ := h
    rfl
  · simp only [Says] at h
    cases he : f.error with
    | none =>
      rw [he] at h
      obtain ⟨m, rfl, rfl⟩ := h
      rfl
    | some e =>
      simp only [he] at h
      have hnone : PollAnswer.data? (.ok (some f)) = none := by simp [PollAnswer.data?, he]
      rw [Option.toList_some, List.filterMap_cons, hnone]
      split at h <;> subst h <;> rfl

theorem checkBytes_bytesOrAbsent (bs : Option Bytes) (parameter : String) :
    Check.bytesOrNone (bytesOrAbsent bs) parameter = .ok bs := by
  cases bs <;> rfl

theorem says_classify (hL : L.CarriesBytes) {id : ClientId} {wait : Wait} {s : σ}
    {a : PollAnswer} (ha : a = (L.answer id (.pollMessage wait) s).1) :
    Says (some a) (match a.mapError Fault.ofClient with
      | .ok m => classify m
      | .error f => .error (brokerFault f)) := by
  rcases a with e | _ | f
  · rfl
  · rfl
  · show Says (some (.ok (some f))) (classify (some f))
    simp only [Says, classify]
    cases he : f.error with
    | some e =>
      dsimp only
      split <;> rfl
    | none =>
      obtain ⟨key, value, hkey, hvalue⟩ := hL id wait s f ha.symm he
      refine ⟨⟨key, value, f.topic, f.partition, f.offset⟩, ?_, ?_⟩
      · rw [Message.fetched, ← hkey, ← hvalue, ← he]
      · rw [hkey, hvalue, checkBytes_bytesOrAbsent, checkBytes_bytesOrAbsent]
        rfl

/-- A poll is refused before anything is asked of the client, or it polls the client once. -/
theorem poll_cases (hL : L.CarriesBytes) (timeout : Value) (c : Consumer)
    (w : World (σ × List Exchange)) :
    (∃ f, poll L.recorded timeout (c, w) = (.error f, (c, w))) ∨
    ∃ id a r u, c.client = some id ∧ poll L.recorded timeout (c, w) = (r, (c, u)) ∧
      w.PollsOnce id a u ∧ Says a r := by
  rw [poll_apply]
  cases hc : c.client with
  | none => exact Or.inl ⟨_, rfl⟩
  | some id =>
    dsimp only [openClient]
    cases Check.timeout timeout "timeout" with
    | error f => exact Or.inl ⟨f, rfl⟩
    | ok seconds =>
      refine Or.inr ?_
      obtain ⟨made, hcalls, hmade, -⟩ :=
        World.invoke_calls (L := L.recorded) (.pollMessage (waitFor seconds)) w
      have hpolled := World.invoke_polled L id (waitFor seconds) w
      rcases hinvoke : World.invoke L.recorded id (.pollMessage (waitFor seconds)) w with ⟨r, u⟩
      rw [hinvoke] at hcalls hpolled
      simp only [hinvoke]
      rcases hpolled with ⟨f, rfl, hanswers⟩ | ⟨a, s, rfl, ha, hanswers⟩
      · refine ⟨id, none, .error (brokerFault f), u, rfl, rfl, ⟨⟨_, made, hcalls, hmade⟩, ?_⟩,
          ⟨_, rfl⟩⟩
        rw [hanswers, Option.toList_none, List.append_nil]
      · refine ⟨id, some a, _, u, rfl, ?_, ⟨⟨_, made, hcalls, hmade⟩, hanswers⟩,
          says_classify hL ha⟩
        cases a <;> rfl

end Consumer

end KafkaHandles
