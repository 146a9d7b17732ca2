import KafkaHandles.Proofs.Consumer.Answers
import Mathlib.Data.List.Chain

/-!
# The rounds of a stream

Between two messages a stream goes from one loop head to the next, with one poll in between whose
answer it passes over. The last head decides how the step ends: the stop flag is seen there, or the
poll that follows is answered with data or with a fault.
-/

namespace KafkaHandles.Stream

variable {σ : Type}

/-- A step of a stream leaves its consumer, its stop flag and its status as they are. -/
structure Kept (t u : Stream × Consumer × World (σ × List Exchange)) : Prop where
  consumer : u.2.1 = t.2.1
  stop : u.1.stop = t.1.stop
  status : u.1.status = t.1.status

/-- From one head of the loop to the next: the stop flag is not set at the first, and the client is
polled once, with an answer that is passed over. -/
structure PassesOver (t u : Stream × Consumer × World (σ × List Exchange)) : Prop where
  running : t.1.isStopped t.2.2 = false
  polled : ∃ id a, t.2.1.client = some id ∧ t.2.2.PollsOnce id (some a) u.2.2 ∧ a.isPassedOver
  kept : Kept t u

/-- How a step ends from the last head of its loop, with the world that it leaves. -/
inductive Ends (t : Stream × Consumer × World (σ × List Exchange))
    (w : World (σ × List Exchange)) : Except Fault (Option Item) → Prop
  /-- The stop flag is seen set, and no poll is made. -/
  | stopped (flag : t.1.isStopped t.2.2 = true) (calls : w.calls = t.2.2.calls)
      (answers : w.answers = t.2.2.answers) : Ends t w (.ok (some .finished))
  /-- The one poll that is made is answered with a message. -/
  | delivered {id : ClientId} {m : Message} (running : t.1.isStopped t.2.2 = false)
      (client : t.2.1.client = some id)
      (polled : t.2.2.PollsOnce id (some (.ok (some m.fetched))) w) :
      Ends t w (.ok (some (.message m)))
  /-- The one poll that is made is answered with a fault, or broken off. -/
  | failed {id : ClientId} {a : Option PollAnswer} {f : Fault}
      (running : t.1.isStopped t.2.2 = false) (client : t.2.1.client = some id)
      (polled : t.2.2.PollsOnce id a w) (fault : ∀ b, a = some b → b.isFault = true) :
      Ends t w (.error f)
  /-- The poll is refused: the consumer has been closed, or the timeout is none. -/
  | refused {f : Fault} (running : t.1.isStopped t.2.2 = false) (same : w = t.2.2) :
      Ends t w (.error f)
  /-- No more rounds are allowed. -/
  | unfinished (same : w = t.2.2) : Ends t w (.ok none)

/-- What a stream gives for the answer to a poll. -/
def item? : Option Polled → Option Item
  | some (.message m) => some (.message m)
  | _ => none

/-- Counting a poll and telling the log about it changes nothing else. -/
theorem received_apply (polled : Option Polled) (s : Stream) (c : Consumer) (w : World σ) :
    ∃ polls messages log, received polled (s, c, w) =
      (.ok (item? polled), ({ s with polls, messages }, c, { w with log })) := by
  rcases polled with _ | m | e
  · simp only [received, Action.bind_apply, Action.modify_apply, Action.get_apply]
    split <;> exact ⟨_, _, _, rfl⟩
  · exact ⟨_, _, _, rfl⟩
  · simp only [received, Action.bind_apply, Action.modify_apply, Action.get_apply]
    split <;> exact ⟨_, _, _, rfl⟩

theorem pollsOnce_log {id : ClientId} {a : Option PollAnswer} {w u : World (σ × List Exchange)}
    (h : w.PollsOnce id a u) (log : List LogRecord) : w.PollsOnce id a { u with log } :=
  ⟨h.calls, h.answers⟩

/-- What is said about an answer, as a stream sees it. -/
theorem says_cases {a : Option PollAnswer} {r : Except Fault (Option Polled)}
    (h : Consumer.Says a r) :
    (∃ f, r = .error f ∧ ∀ b, a = some b → b.isFault = true) ∨
    (∃ m : Message, r = .ok (some (.message m)) ∧ a = some (.ok (some m.fetched))) ∨
    ∃ p b, r = .ok p ∧ item? p = none ∧ a = some b ∧ b.isPassedOver = true := by
  rcases a with _ | e | _ | f
  · obtain ⟨f, rfl⟩ := h
    exact Or.inl ⟨f, rfl, fun _ h => by cases h⟩
  · obtain rfl : r = _ := h
    exact Or.inl ⟨_, rfl, fun b hb => by cases hb; rfl⟩
  · obtain rfl : r = _ := h
    exact Or.inr (Or.inr ⟨none, _, rfl, rfl, rfl, rfl⟩)
  · simp only [Consumer.Says] at h
    cases he : f.error with
    | none =>
      rw [he] at h
      obtain ⟨m, rfl, rfl⟩ := h
      exact Or.inr (Or.inl ⟨m, rfl, rfl⟩)
    | some e =>
      simp only [he] at h
      split at h
      · rename_i hcode
        subst h
        exact Or.inr (Or.inr ⟨_, _, rfl, rfl, rfl, by simp [PollAnswer.isPassedOver, he, hcode]⟩)
      · rename_i hcode
        subst h
        refine Or.inl ⟨_, rfl, fun b hb => ?_⟩
        cases hb
        simp [PollAnswer.isFault, he, hcode]

variable {L : Library σ}

/-- A round goes from one head of the loop to the next, or it is the last. -/
theorem round_cases (hL : L.CarriesBytes) (t : Stream × Consumer × World (σ × List Exchange)) :
    (∃ u, round L.recorded t = (.ok none, u) ∧ PassesOver t u) ∨
    ∃ r u, round L.recorded t = (r, u) ∧ r ≠ .ok none ∧ Ends t u.2.2 r ∧ Kept t u := by
  obtain ⟨s, c, w⟩ := t
  simp only [round, Action.bind_apply, Action.get_apply]
  cases hstop : s.isStopped w with
  | true => exact Or.inr ⟨_, _, rfl, by simp, .stopped hstop rfl rfl, ⟨rfl, rfl, rfl⟩⟩
  | false =>
    simp only [Bool.false_eq_true, if_false, Action.bind_apply, Action.onSecond]
    obtain ⟨f, hpoll⟩ | ⟨id, a, r, u, hc, hpoll, honce, hsays⟩ :=
      Consumer.poll_cases hL s.timeout c w
    · rw [hpoll]
      exact Or.inr ⟨_, _, rfl, by simp, .refused hstop rfl, ⟨rfl, rfl, rfl⟩⟩
    · rw [hpoll]
      obtain ⟨f, rfl, hfault⟩ | ⟨m, rfl, rfl⟩ | ⟨p, b, rfl, hp, rfl, hb⟩ := says_cases hsays
      · exact Or.inr ⟨_, _, rfl, by simp, .failed hstop hc honce hfault, ⟨rfl, rfl, rfl⟩⟩
      · obtain ⟨polls, messages, log, hreceived⟩ := received_apply (some (.message m)) s c u
        exact Or.inr ⟨_, _, hreceived, by simp [item?],
          .delivered hstop hc (pollsOnce_log honce log), ⟨rfl, rfl, rfl⟩⟩
      · obtain ⟨polls, messages, log, hreceived⟩ := received_apply p s c u
        rw [hp] at hreceived
        exact Or.inl ⟨_, hreceived, hstop, ⟨id, b, hc, pollsOnce_log honce log, hb⟩, rfl, rfl, rfl⟩

theorem Kept.trans {t u v : Stream × Consumer × World (σ × List Exchange)} (h : Kept t u)
    (h' : Kept u v) : Kept t v :=
  ⟨h'.consumer.trans h.consumer, h'.stop.trans h.stop, h'.status.trans h.status⟩

/-- The heads that the rounds of a step come by, and how the step ends from the last of them. -/
theorem rounds_cases (hL : L.CarriesBytes) (fuel : Nat)
    (t : Stream × Consumer × World (σ × List Exchange)) :
    ∃ heads r u, rounds L.recorded fuel t = (r, u) ∧ (t :: heads).IsChain PassesOver ∧
      Ends (heads.getLastD t) u.2.2 r ∧ Kept t u ∧ (r = .ok none → heads.length = fuel) := by
  induction fuel generalizing t with
  | zero =>
    exact ⟨[], _, t, rfl, List.isChain_singleton t, .unfinished rfl, ⟨rfl, rfl, rfl⟩, fun _ => rfl⟩
  | succ fuel ih =>
    simp only [rounds, Action.bind_apply]
    obtain ⟨u, hround, hpasses⟩ | ⟨r, u, hround, hr, hends, hkept⟩ := round_cases hL t
    · obtain ⟨heads, r, v, hrounds, hchain, hends, hkept, hlength⟩ := ih u
      rw [hround]
      refine ⟨u :: heads, r, v, hrounds, List.isChain_cons_cons.mpr ⟨hpasses, hchain⟩, ?_,
        hpasses.kept.trans hkept, fun h => by rw [List.length_cons, hlength h]⟩
      rwa [List.getLastD_cons]
    · rw [hround]
      refine ⟨[], r, u, ?_, List.isChain_singleton t, hends, hkept, fun h => absurd h hr⟩
      rcases r with f | _ | item
      · rfl
      · exact absurd rfl hr
      · rfl

end KafkaHandles.Stream
