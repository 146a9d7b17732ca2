import KafkaHandles.Proofs.Client.Faults
import KafkaHandles.Proofs.Client.Interruptions
import KafkaHandles.Proofs.Consumer.Delivery

/-!
# What a poll comes to

A poll of an open consumer is one poll of its client. What it ends in is read off the answer, or off
what has broken the poll off: an error that the client library raised, in whichever call, is the
error that a broker reported, and everything else that was raised leaves the poll as it is.
-/

namespace KafkaHandles.Consumer

variable {σ : Type} {L : Library σ}

/-- What the client library raised, and what the caller of a consumer is told. -/
inductive RaisedAs : ClientFault → Fault → Prop
  | error (e : ClientError) : RaisedAs (.error e) (.broker e)
  | other (k : GeneralClass) (text : String) : RaisedAs (.raised k text) (.raised k text)

theorem brokerFault_ofClient (g : ClientFault) : RaisedAs g (brokerFault (.ofClient g)) := by
  cases g with
  | error e => exact .error e
  | raised k text => exact .other k text

/-- What a poll makes of the answer of its client. -/
inductive Classified : PollAnswer → Except Fault (Option Polled) → Prop
  | nothing : Classified (.ok none) (.ok none)
  | partitionEnd {f : Fetched} {e : ClientError} (he : f.error = some e) (hcode : e.code = -191) :
      Classified (.ok (some f)) (.ok (some (.partitionEnd ⟨f.topic, f.partition, f.offset⟩)))
  | failed {f : Fetched} {e : ClientError} (he : f.error = some e) (hcode : e.code ≠ -191) :
      Classified (.ok (some f)) (.error (.broker e))
  | message (m : Message) : Classified (.ok (some m.fetched)) (.ok (some (.message m)))
  | raised {g : ClientFault} {r : Fault} (h : RaisedAs g r) : Classified (.error g) (.error r)

theorem Says.classified {a : PollAnswer} {r : Except Fault (Option Polled)}
    (h : Says (some a) r) : Classified a r := by
  rcases a with g | _ | f
  · obtain rfl : r = _ := h
    exact .raised (brokerFault_ofClient g)
  · obtain rfl : r = _ := h
    exact .nothing
  · simp only [Says] at h
    cases he : f.error with
    | none =>
      rw [he] at h
      obtain ⟨m, rfl, rfl⟩ := h
      exact .message m
    | some e =>
      simp only [he] at h
      split at h
      · rename_i hcode
        subst h
        exact .partitionEnd he hcode
      · rename_i hcode
        subst h
        exact .failed he hcode

/-- How a poll ends: the exchanges by which its client has followed a start rule, the answer to the
poll itself if it was not broken off, and what the caller is told. -/
inductive PollEnds (es : List Event) :
    List Exchange → Option PollAnswer → Except Fault (Option Polled) → Prop
  | answered {nested : List Exchange} {a : PollAnswer} {r : Except Fault (Option Polled)}
      (fine : ∀ x ∈ nested, x.fault? = none) (h : Classified a r) : PollEnds es nested (some a) r
  | broken {nested : List Exchange} {x : Exchange} {g : ClientFault} {r : Fault}
      (fine : ∀ x ∈ nested, x.fault? = none) (hx : x.fault? = some g) (h : RaisedAs g r) :
      PollEnds es (nested ++ [x]) none (.error r)
  | stuck {nested : List Exchange} {l : LogLine} {f : Fault}
      (fine : ∀ x ∈ nested, x.fault? = none) (hl : .line l ∈ es)
      (h : l.record Logger.client.name = .error f) : PollEnds es nested none (.error f)

theorem brokerFault_of_record {l : LogLine} {logger : String} {f : Fault}
    (h : l.record logger = .error f) : brokerFault f = f := by
  rcases LogLine.record_error h with rfl | ⟨kind, rfl⟩ <;> rfl

theorem pollEnds_of_comesTo {es : List Event} {nested : List Exchange} {f : Fault}
    (h : World.ComesTo (World.Stuck es) nested (.error f : Except Fault Unit)) :
    PollEnds es nested none (.error (brokerFault f)) := by
  cases h with
  | own fine hstuck =>
    obtain ⟨l, hl, hf⟩ := hstuck
    rw [brokerFault_of_record hf]
    exact .stuck fine hl hf
  | broken fine hx => exact .broken fine hx (brokerFault_ofClient _)

/-- Every outcome of the one poll that an open consumer makes of its client. -/
theorem polls_are_classified (hL : L.CarriesBytes) {c : Consumer} {id : ClientId}
    (hopen : c.client = some id) {timeout : Value} {seconds : Option Binary64}
    (htimeout : Check.timeout timeout "timeout" = .ok seconds) (w : World (σ × List Exchange)) :
    let call := Call.pollMessage (waitFor seconds)
    ∃ r u nested a, poll L.recorded timeout (c, w) = (r, (c, u)) ∧
      u.calls = w.calls ++ (id, call) :: nested.map Exchange.asked ∧
      (∀ x ∈ nested, x.client = id ∧ x.call.isFollowing) ∧
      u.heard = w.heard ++ nested ++ (a.map fun a => ⟨id, call, a⟩).toList ∧
      PollEnds (L.serve id call w.library.1).1 nested a r := by
  intro call
  rw [poll_apply, hopen]
  simp only [openClient, htimeout]
  have hends : World.CallEnds L id call _ w (World.invoke L.recorded id call w).2
    (World.invoke L.recorded id call w).1 := World.invoke_ends call w
  rcases hinvoke : World.invoke L.recorded id call w with ⟨r, u⟩
  rw [hinvoke] at hends
  cases hends with
  | @answered nested a s calls heard following fine answer =>
    refine ⟨_, u, nested, some a, ?_, calls, following, heard, .answered fine
      (says_classify hL answer).classified⟩
    cases a <;> rfl
  | @broken nested f calls heard following outcome =>
    exact ⟨_, u, nested, none, rfl, calls, following, by rw [heard]; simp,
      pollEnds_of_comesTo outcome⟩

/-- A client that is assigned a partition at each poll, and fails to look up what is committed. -/
def unsettled (e : ClientError) : Library (List (Option Message)) where
  serve _ call ms := match call with
    | .pollMessage _ => ([.rebalance [⟨"jobs", 0, -1001⟩]], ms)
    | _ => ([], ms)
  answer id call ms := match call with
    | .committed .. => (.error (.error e), ms)
    | call => Library.queue.answer id call ms

/-- The message that waits in the queue is not fetched. -/
theorem failed_lookup_breaks_poll_off :
    let e : ClientError := ⟨-185, "Local: Timed out", false, true⟩
    let c : Consumer := ⟨some 0, some .subscribe, .latest, false⟩
    let w : World (List (Option Message) × List Exchange) :=
      { library := ([some ⟨none, some [], "jobs", 0, 7⟩], []), rules := [some ⟨-2, false⟩] }
    (unsettled e).CarriesBytes ∧ ∃ u nested a,
      poll (unsettled e).recorded .none (c, w) = (.error (.broker e), (c, u)) ∧
        u.calls = (0, .pollMessage .forever) :: nested.map Exchange.asked ∧
        PollEnds [.rebalance [⟨"jobs", 0, -1001⟩]] nested a (.error (.broker e)) := by
  intro e c w
  have hL : (unsettled e).CarriesBytes := fun id wait s => Library.queue_carriesBytes id wait s
  have hopen : c.client = some 0 := rfl
  have htimeout : Check.timeout .none "timeout" = .ok none := rfl
  obtain ⟨r, u, nested, a, hpoll, hcalls, -, -, hends⟩ :=
    polls_are_classified hL hopen htimeout w
  obtain rfl : .error (.broker e) = r := congrArg Prod.fst hpoll
  exact ⟨hL, u, nested, a, hpoll, hcalls, hends⟩

end KafkaHandles.Consumer
