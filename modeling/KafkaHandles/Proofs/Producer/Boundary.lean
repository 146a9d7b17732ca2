import KafkaHandles.Proofs.Client.Interruptions
import KafkaHandles.Proofs.Producer.Progress
import KafkaHandles.Scripted.Client

/-!
# Client errors that leave a producer

A call of a producer that is answered with a client error ends the operation that made the call.
Where the call was to put a message into the queue, the error leaves the producer in the wrapping of
broker errors; where it was to serve reports or to flush, it leaves as the client raised it. In all
cases the producer is what it was before.
-/

namespace KafkaHandles

/-- The client error that a call was answered with, if it was. -/
def Exchange.error? (x : Exchange) : Option ClientError :=
  match x.answer with
  | .error (.error e) => some e
  | _ => none

namespace Call

/-- Whether a call puts a message into the queue. -/
def isProduce : Call → Bool
  | .produce .. => true
  | _ => false

/-- Whether a call serves delivery reports. -/
def isPollReports : Call → Bool
  | .pollReports _ => true
  | _ => false

/-- Whether a call waits for all messages. -/
def isFlush : Call → Bool
  | .flush _ => true
  | _ => false

/-- What a sender says of a client error in the answer to a call of its own. -/
def spoken? (e : ClientError) : Call → Option Fault
  | .produce .. => some (.broker e)
  | .pollReports _ => some (.client e)
  | _ => none

variable {c : Call}

theorem spoken?_of_isProduce (h : c.isProduce) (e : ClientError) :
    c.spoken? e = some (.broker e) := by
  cases c <;> first | rfl | cases h

theorem spoken?_of_isPollReports (h : c.isPollReports) (e : ClientError) :
    c.spoken? e = some (.client e) := by
  cases c <;> first | rfl | cases h

theorem spoken?_of_isFollowing (h : c.isFollowing) (e : ClientError) : c.spoken? e = none := by
  cases c <;> first | rfl | cases h

theorem not_isFlush_of_isFollowing (h : c.isFollowing) : ¬c.isFlush := by
  cases c <;> simp_all [isFlush, isFollowing]

end Call

variable {σ : Type} {L : Library σ}

/-! ## Senders -/

namespace Send

/-- New exchanges, after which a sender whose own call was answered with a client error has ended in
what it says of that. -/
def Speaks (stage : SendStage) (new : List Exchange) : Prop :=
  ∀ x ∈ new, ∀ e f, x.error? = some e → x.call.spoken? e = some f → stage = .finished (.error f)

theorem speaks_nil (stage : SendStage) : Speaks stage [] := by
  intro x hx
  cases hx

theorem speaks_following {stage : SendStage} {new : List Exchange}
    (h : ∀ x ∈ new, x.call.isFollowing) : Speaks stage new := by
  intro x hx e f _ hf
  rw [Call.spoken?_of_isFollowing (h x hx)] at hf
  cases hf

theorem finish_heard (client : ClientId) (c : Call) (g : Fault → Fault) (next : SendStage)
    (hg : ∀ e f, c.spoken? e = some f → g (.client e) = f) (w : World (σ × List Exchange)) :
    ∃ new, (World.finish L.recorded client c w).2.heard = w.heard ++ new ∧
      Speaks (match (World.finish L.recorded client c w).1 with
        | .ok _ => next
        | .error f => .finished (.error (g f))) new := by
  obtain ⟨a, hr, -, hheard⟩ := World.finish_heard L client c w
  refine ⟨_, hheard, ?_⟩
  intro x hx e f he hf
  rw [List.mem_singleton] at hx
  subst hx
  cases a with
  | ok v => cases he
  | error raised =>
    cases raised with
    | raised k text => cases he
    | error e' =>
      obtain rfl := Option.some.inj he
      rw [hr, ← hg e' f hf]
      rfl

theorem step_heard (s : Send) (w : World (σ × List Exchange)) :
    ∃ new, (s.step L.recorded w).2.heard = w.heard ++ new ∧
      Speaks (s.step L.recorded w).1.stage new := by
  have hquiet {u : World (σ × List Exchange)} {stage : SendStage} (h : u.heard = w.heard) :
      ∃ new, u.heard = w.heard ++ new ∧ Speaks stage new :=
    ⟨[], by rw [h, List.append_nil], speaks_nil stage⟩
  have hevent (client : ClientId) (e : Event) (stage : SendStage) :
      ∃ new, (World.handle L.recorded client e w).2.heard = w.heard ++ new ∧
        Speaks stage new := by
    have hheeds : World.Heeds client _ (World.handle L.recorded client e) :=
      World.handle_heeds (List.mem_singleton_self e)
    obtain ⟨new, hfollows⟩ := hheeds w
    exact ⟨new, hfollows.heard, speaks_following fun x hx => (hfollows.following x hx).2⟩
  obtain ⟨client, message, stage⟩ := s
  cases stage with
  | ready => exact hquiet rfl
  | producing t es =>
    cases es with
    | nil =>
      have h := finish_heard (L := L) client (.produce message (some t)) produceFault (.looping t)
        (fun e f hf => Option.some.inj hf) w
      rcases hr : World.finish L.recorded client (.produce message (some t)) w with ⟨f | _, u⟩ <;>
        rw [hr] at h <;> simp only [step, produceCall, hr] <;> exact h
    | cons e es =>
      have h := hevent client e
      rcases hr : World.handle L.recorded client e w with ⟨f | _, u⟩ <;>
        rw [hr] at h <;> simp only [step, hr] <;> exact h _
  | looping t => exact hquiet rfl
  | polling t es =>
    cases es with
    | nil =>
      have h := finish_heard (L := L) client pollCall id (.waiting t)
        (fun e f hf => Option.some.inj hf) w
      rcases hr : World.finish L.recorded client pollCall w with ⟨f | _, u⟩ <;>
        rw [hr] at h <;> simp only [step, hr] <;> exact h
    | cons e es =>
      have h := hevent client e
      rcases hr : World.handle L.recorded client e w with ⟨f | _, u⟩ <;>
        rw [hr] at h <;> simp only [step, hr] <;> exact h _
  | waiting t => exact hquiet rfl
  | collecting t => exact hquiet rfl
  | finished r => exact hquiet rfl

/-- The error that ends a sender ends it for good. -/
theorem after_heard (n : Nat) (s : Send) (w : World (σ × List Exchange)) :
    ∃ new, (after L.recorded n s w).2.heard = w.heard ++ new ∧
      Speaks (after L.recorded n s w).1.stage new := by
  induction n generalizing s w with
  | zero => exact ⟨[], by rw [after, List.append_nil], speaks_nil _⟩
  | succ n ih =>
    obtain ⟨first, hfirst, hspeaks⟩ := step_heard (L := L) s w
    obtain ⟨rest, hrest, hlater⟩ := ih (s.step L.recorded w).1 (s.step L.recorded w).2
    refine ⟨first ++ rest, by rw [after, hrest, hfirst, List.append_assoc], ?_⟩
    intro x hx e f he hf
    rw [after]
    rcases List.mem_append.mp hx with hx | hx
    · have hended := hspeaks x hx e f he hf
      rw [after_finished hended]
      exact hended
    · exact hlater x hx e f he hf

end Send

/-! ## Producers -/

namespace Producer

theorem send_heard {p : Producer} {id : ClientId} (hopen : p.client = some id)
    {topic value key partition : Value} {m : Outgoing}
    (hm : Outgoing.check topic value key partition = .ok m) (fuel : Nat)
    (w : World (σ × List Exchange)) :
    ∃ new, (send L.recorded fuel topic value key partition (p, w)).2.2.heard = w.heard ++ new ∧
      ∀ x ∈ new, ∀ e f, x.error? = some e → x.call.spoken? e = some f → ∀ n > fuel,
        (send L.recorded n topic value key partition (p, w)).1 = .error f := by
  obtain ⟨new, hheard, hspeaks⟩ :=
    Send.after_heard (L := L) fuel { client := id, message := m } w
  refine ⟨new, ?_, ?_⟩
  · rw [send_open hopen hm, Send.run_world]
    exact hheard
  · intro x hx e f he hf n hn
    rw [send_open hopen hm]
    exact Send.run_reply_of_after hn (hspeaks x hx e f he hf)

theorem flush_heard {p : Producer} {id : ClientId} (hopen : p.client = some id) {timeout : Value}
    {seconds : Option Binary64} (htimeout : Check.timeout timeout "timeout" = .ok seconds)
    (w : World (σ × List Exchange)) :
    ∃ new, (flush L.recorded timeout (p, w)).2.2.heard = w.heard ++ new ∧
      ∀ x ∈ new, ∀ e, x.error? = some e → x.call.isFlush →
        (flush L.recorded timeout (p, w)).1 = .error (.client e) := by
  have hflush : ∀ r u, World.invoke L.recorded id (.flush seconds) w = (r, u) →
      flush L.recorded timeout (p, w) = (r.bind Flush.verdict, (p, u)) := by
    intro r u hr
    rw [flush_apply, hopen]
    simp only [openClient, htimeout, hr]
    cases r <;> rfl
  obtain ⟨nested, hnested, hheard⟩ := World.invoke_heard (.flush seconds) w
  have hquiet : ∀ x ∈ nested, ¬x.call.isFlush :=
    fun x hx => Call.not_isFlush_of_isFollowing (hnested x hx).2
  rcases hr : World.invoke L.recorded id (.flush seconds) w with ⟨r, u⟩
  rw [hr] at hheard
  rw [hflush r u hr]
  rcases hheard with ⟨f, -, hu⟩ | ⟨a, t, ha, -, hu⟩
  · exact ⟨nested, hu, fun x hx e _ hx' => absurd hx' (hquiet x hx)⟩
  · refine ⟨nested ++ [⟨id, .flush seconds, a⟩], by rw [hu, List.append_assoc], ?_⟩
    intro x hx e he hx'
    rcases List.mem_append.mp hx with hx | hx
    · exact absurd hx' (hquiet x hx)
    · obtain rfl := List.mem_singleton.mp hx
      rcases a with (e' | ⟨k, text⟩) | left
      · obtain rfl := Option.some.inj he
        rw [show r = _ from ha]
        rfl
      · cases he
      · cases he

/-- Whatever the client does, a client error in the answer to a call of a send or a flush ends it at
once, and the producer is what it was. The error of putting a message into the queue is told as a
broker error, whole. The error of a call that serves reports or flushes is not: it leaves as the
client raised it. -/
theorem client_errors_end_operations (L : Library σ) {p : Producer} {id : ClientId}
    (hopen : p.client = some id) (w : World (σ × List Exchange)) :
    (∀ topic value key partition m, Outgoing.check topic value key partition = .ok m →
      let ended (n : Nat) := send L.recorded n topic value key partition (p, w)
      ∀ fuel, (ended fuel).2.1 = p ∧ ∃ new, (ended fuel).2.2.heard = w.heard ++ new ∧
        ∀ x ∈ new, ∀ e, x.error? = some e → ∀ n > fuel,
          (x.call.isProduce → (ended n).1 = .error (.broker e)) ∧
          (x.call.isPollReports → (ended n).1 = .error (.client e))) ∧
    ∀ timeout seconds, Check.timeout timeout "timeout" = .ok seconds →
      let ended := flush L.recorded timeout (p, w)
      ended.2.1 = p ∧ ∃ new, ended.2.2.heard = w.heard ++ new ∧
        ∀ x ∈ new, ∀ e, x.error? = some e → x.call.isFlush → ended.1 = .error (.client e) := by
  constructor
  · intro topic value key partition m hm ended fuel
    obtain ⟨new, hheard, hspeaks⟩ := send_heard (L := L) hopen hm fuel w
    refine ⟨(send_uses fuel topic value key partition (p, w)).handle, new, hheard, ?_⟩
    intro x hx e he n hn
    constructor
    · intro hcall
      exact hspeaks x hx e _ he (Call.spoken?_of_isProduce hcall e) n hn
    · intro hcall
      exact hspeaks x hx e _ he (Call.spoken?_of_isPollReports hcall e) n hn
  · intro timeout seconds htimeout ended
    exact ⟨(flush_uses timeout (p, w)).handle, flush_heard hopen htimeout w⟩

/-- The world of one scripted producer, which meets one error of the broker in some method. -/
def faultyWorld (m : Method) (e : ClientError) : World (Scripted × List Exchange) :=
  let client : ScriptedClient :=
    { label := "p", role := .producer, script := { faults := [(m, some (.error e))] } }
  { library := ({ clients := [client] }, []), rules := [none] }

theorem refused_message_is_a_broker_error :
    let e := ClientError.ofCode ErrorCode.invalidArgument none
    let ended (n : Nat) := send Scripted.library.recorded n (.text "jobs") (.bytes [118]) .none
      .none (⟨some 0⟩, faultyWorld .produce e)
    ∀ n > 2, (ended n).1 = .error (.broker e) := by
  intro e ended n hn
  obtain ⟨hsend, -⟩ := client_errors_end_operations Scripted.library (p := ⟨some 0⟩) rfl
    (faultyWorld .produce e)
  obtain ⟨-, new, hheard, hnew⟩ := hsend (.text "jobs") (.bytes [118]) .none .none _ rfl 2
  obtain rfl : new = [⟨0, .produce ⟨"jobs", .bytes [118], .none, none⟩ (some 0),
    .error (.error e)⟩] := hheard.symm
  exact (hnew _ List.mem_cons_self e rfl n hn).1 rfl

theorem run_faulty_poll (e : ClientError) :
    let ended := Send.run Scripted.library.recorded 5
      { client := 0, message := ⟨"jobs", .bytes [118], .none, none⟩ } (faultyWorld .poll e)
    ended.1 = .error (.client e) ∧
      ended.2.heard = [⟨0, .produce ⟨"jobs", .bytes [118], .none, none⟩ (some 0), .ok ()⟩,
        ⟨0, Send.pollCall, .error (.error e)⟩] := by
  refine ⟨Send.run_reply_of_after (m := 4) (r := .error (.client e)) (Nat.lt_add_one 4) rfl, ?_⟩
  rw [Send.run_world]
  rfl

/-- A poll for reports and a flush that meet an error of the broker. -/
theorem poll_and_flush_errors_are_not_broker_errors :
    let e := ClientError.ofCode ErrorCode.timedOut none
    let sent := send Scripted.library.recorded 5 (.text "jobs") (.bytes [118]) .none .none
      (⟨some 0⟩, faultyWorld .poll e)
    let flushed := flush Scripted.library.recorded .none (⟨some 0⟩, faultyWorld .flush e)
    (∃ x ∈ sent.2.2.heard, x.call.isPollReports ∧ x.error? = some e) ∧
      sent.1 = .error (.client e) ∧
    (∃ x ∈ flushed.2.2.heard, x.call.isFlush ∧ x.error? = some e) ∧
      flushed.1 = .error (.client e) ∧
    Fault.client e ≠ .broker e := by
  intro e
  obtain ⟨hended, hheard⟩ := run_faulty_poll e
  have hne (e : ClientError) : Fault.client e ≠ .broker e := nofun
  dsimp only
  rw [send_open rfl rfl]
  dsimp only [bytesOrAbsent]
  rw [hheard, hended]
  exact ⟨⟨_, List.mem_cons_of_mem _ List.mem_cons_self, rfl, rfl⟩, rfl,
    ⟨_, List.mem_cons_self, rfl, rfl⟩, rfl, hne e⟩

end Producer

end KafkaHandles
