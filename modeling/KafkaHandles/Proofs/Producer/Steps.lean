import KafkaHandles.Proofs.Client.Frame
import KafkaHandles.Proofs.Producer.Team

/-!
# What the steps of a team do

One inversion for every kind of thread: all that a step does, said of what the history tells about
it. The waiters change exactly as the history says, and the journal is only added to.
-/

namespace KafkaHandles

open World

variable {σ : Type} {L : Library σ}

/-- The waiters after something that a step did. -/
def Act.waitersAfter (a : Option Act) (waiters : List Waiter) : List Waiter :=
  match a with
  | some (.handed _ _) => waiters ++ [.start]
  | some (.reported t r) => waiters.modify t (·.resolve r)
  | _ => waiters

/-- The ticket of a sender that did something about its message. -/
def Act.ticket? : Act → Option Ticket
  | .looked t _ | .collected t _ | .broken t _ => some t
  | _ => none

/-- The journal is only added to. -/
abbrev World.JournalGrows (w u : World σ) : Prop :=
  Action.Adds World.journal (fun _ => True) w u

theorem World.journalGrows_enter (e : Entry) (w : World σ) : JournalGrows w (w.enter e) :=
  Action.Adds.one rfl trivial

theorem World.journalGrows_of_eq {w u : World σ} (h : u.journal = w.journal) : JournalGrows w u :=
  ⟨[], by simp [h], by simp⟩

/-! ## What happens while a call is under way -/

theorem World.handle_waiters (id : ClientId) {e : Event} (h : ∀ t r, e ≠ .report t r)
    (w : World σ) : (handle L id e w).2.waiters = w.waiters := by
  have hrequest : ∀ c : Call, (request L id c).Within (Action.Same World.waiters) :=
    fun _ => request_within (fun _ _ => rfl) fun _ => rfl
  have hstop : ∀ flag (w : World σ), Action.Same World.waiters w (w.setStop flag) :=
    fun flag _ => by cases flag <;> rfl
  exact handle_within (R := Action.Same World.waiters) (fun c _ => hrequest c) (fun _ _ _ => rfl)
    (fun _ _ => rfl) hstop e (fun t r he => absurd he (h t r)) w

theorem World.handle_journalGrows (id : ClientId) (e : Event) :
    (handle L id e).Within (JournalGrows (σ := σ)) := by
  refine handle_within (fun c _ => ?_) (fun _ _ _ => journalGrows_of_eq rfl)
    (fun note w => journalGrows_enter _ w) (fun flag w => ?_) e
    fun _ _ _ _ => journalGrows_of_eq rfl
  · exact request_within (fun _ _ => journalGrows_of_eq rfl) fun w => journalGrows_enter _ w
  · cases flag <;> exact journalGrows_of_eq rfl

theorem Event.report_cases (e : Event) :
    (∃ t r, e = .report t r) ∨ ∀ t r, e ≠ .report t r := by
  cases e with
  | report t r => exact Or.inl ⟨t, r, rfl⟩
  | _ => exact Or.inr nofun

/-! ## Senders -/

section Labels

variable {client : ClientId} {message : Outgoing} {t : Ticket} {e : Event} {es : List Event}

theorem Send.act?_producing (h : ∀ t r, e ≠ .report t r) :
    act? ⟨client, message, .producing t (e :: es)⟩ ⟨client, message, .producing t es⟩ = none := by
  cases e with
  | report x r => exact absurd rfl (h x r)
  | _ => rfl

theorem Send.act?_polling (h : ∀ t r, e ≠ .report t r) :
    act? ⟨client, message, .polling t (e :: es)⟩ ⟨client, message, .polling t es⟩ = none := by
  cases e with
  | report x r => exact absurd rfl (h x r)
  | _ => rfl

theorem Send.act?_producing_broken (f : Fault) :
    act? ⟨client, message, .producing t (e :: es)⟩ ⟨client, message, .finished (.error f)⟩ =
      some (.broken t f) := by
  cases e <;> rfl

theorem Send.act?_polling_broken (f : Fault) :
    act? ⟨client, message, .polling t (e :: es)⟩ ⟨client, message, .finished (.error f)⟩ =
      some (.broken t f) := by
  cases e <;> rfl

end Labels

/-- All that a step of a sender does. -/
structure Send.Stepped (s : Send) (w : World σ) (a : Option Act) (t : Send) (u : World σ) :
    Prop where
  waiters : u.waiters = Act.waitersAfter a w.waiters
  journal : JournalGrows w u
  message : t.message = s.message
  client : t.client = s.client
  handed : ∀ x m, a = some (.handed x m) →
    x = w.waiters.length ∧ m = s.message ∧ .called s.client (.produce m (some x)) ∈ u.journal
  kept : ∀ x, t.ticket? = some x → s.ticket? = some x ∨ a = some (.handed x s.message)
  own : ∀ x, a.bind Act.ticket? = some x → s.ticket? = some x
  looked : ∀ x b, a = some (.looked x b) → b = (w.waiter x).isDone
  collecting : ∀ x, t.stage = .collecting x → a = some (.looked x true)
  collected : ∀ x o, a = some (.collected x o) → s.stage = .collecting x ∧ o = (w.waiter x).receipt
  ended : ∀ i, t.outcome?.toList =
    s.outcome?.toList ++ (a.bind fun b => Moment.ended? i ⟨.worker i, b⟩).toList

/-- A step that only goes on to another stage, with nothing that others may notice. -/
theorem Send.Stepped.quiet {s : Send} {w u : World σ} {stage : SendStage}
    (hw : u.waiters = w.waiters) (hj : JournalGrows w u)
    (hticket : ({ s with stage } : Send).ticket? = s.ticket?)
    (hcollecting : ∀ x, stage ≠ .collecting x)
    (hended : ({ s with stage } : Send).outcome? = s.outcome?) :
    s.Stepped w none { s with stage } u where
  waiters := hw
  journal := hj
  message := rfl
  client := rfl
  handed _ _ h := by cases h
  kept x h := Or.inl (hticket ▸ h)
  own _ h := by cases h
  looked _ _ h := by cases h
  collecting x h := absurd h (hcollecting x)
  collected _ _ h := by cases h
  ended _ := by simp [hended]

/-- A step that serves a report. -/
theorem Send.Stepped.serves {s : Send} {w u : World σ} {stage : SendStage} {x : Ticket}
    {r : DeliveryReport} (hw : u.waiters = w.waiters.modify x (·.resolve r))
    (hj : JournalGrows w u) (hticket : ({ s with stage } : Send).ticket? = s.ticket?)
    (hcollecting : ∀ x, stage ≠ .collecting x)
    (hended : ({ s with stage } : Send).outcome? = s.outcome?) :
    s.Stepped w (some (.reported x r)) { s with stage } u where
  waiters := hw
  journal := hj
  message := rfl
  client := rfl
  handed _ _ h := by cases h
  kept x h := Or.inl (hticket ▸ h)
  own _ h := by cases h
  looked _ _ h := by cases h
  collecting x h := absurd h (hcollecting x)
  collected _ _ h := by cases h
  ended _ := by simp [hended, Moment.ended?]

/-- A step that ends in a fault of the client. -/
theorem Send.Stepped.breaks {s : Send} {w u : World σ} {x : Ticket} {f : Fault}
    (hw : u.waiters = w.waiters) (hj : JournalGrows w u) (hticket : s.ticket? = some x)
    (hended : s.outcome? = none) :
    s.Stepped w (some (.broken x f)) { s with stage := .finished (.error f) } u where
  waiters := hw
  journal := hj
  message := rfl
  client := rfl
  handed _ _ h := by cases h
  kept _ h := by cases h
  own _ h := by cases h; exact hticket
  looked _ _ h := by cases h
  collecting _ h := by cases h
  collected _ _ h := by cases h
  ended _ := by
    rw [hended]
    simp [outcome?, Moment.ended?]

theorem Send.step_stepped (s : Send) (w : World σ) :
    s.Stepped w (s.act? (s.step L w).1) (s.step L w).1 (s.step L w).2 := by
  obtain ⟨client, message, stage⟩ := s
  have hwaiters (c : Call) : (World.finish L client c w).2.waiters = w.waiters :=
    finish_waiters c w
  have hfinish (c : Call) : JournalGrows w (World.finish L client c w).2 := by
    rw [finish_state]
    exact journalGrows_of_eq rfl
  cases stage with
  | ready =>
    constructor <;> simp [step, act?, addWaiter, World.begin, Act.waitersAfter, ticket?, enter,
      produceCall, Act.ticket?, outcome?, Moment.ended?]
    exact journalGrows_enter _ _
  | producing t es =>
    cases es with
    | nil =>
      have hw := hwaiters (.produce message (some t))
      have hj := hfinish (.produce message (some t))
      rcases h : World.finish L client (.produce message (some t)) w with ⟨f | _, u⟩ <;>
        rw [h] at hw hj <;> simp only [step, produceCall, h]
      · exact .breaks hw hj rfl rfl
      · exact .quiet hw hj rfl (by simp) rfl
    | cons e es =>
      obtain ⟨x, r, rfl⟩ | hr := e.report_cases
      · exact .serves rfl (journalGrows_of_eq rfl) rfl (by simp) rfl
      · have hw := handle_waiters (L := L) client hr w
        have hj := handle_journalGrows (L := L) client e w
        rcases h : World.handle L client e w with ⟨f | _, u⟩ <;>
          rw [h] at hw hj <;> simp only [step, h]
        · rw [act?_producing_broken]
          exact .breaks hw hj rfl rfl
        · rw [act?_producing hr]
          exact .quiet hw hj rfl (by simp) rfl
  | looping t => exact .quiet rfl (journalGrows_enter _ _) rfl (by simp) rfl
  | polling t es =>
    cases es with
    | nil =>
      have hw := hwaiters pollCall
      have hj := hfinish pollCall
      rcases h : World.finish L client pollCall w with ⟨f | _, u⟩ <;>
        rw [h] at hw hj <;> simp only [step, h]
      · exact .breaks hw hj rfl rfl
      · exact .quiet hw hj rfl (by simp) rfl
    | cons e es =>
      obtain ⟨x, r, rfl⟩ | hr := e.report_cases
      · exact .serves rfl (journalGrows_of_eq rfl) rfl (by simp) rfl
      · have hw := handle_waiters (L := L) client hr w
        have hj := handle_journalGrows (L := L) client e w
        rcases h : World.handle L client e w with ⟨f | _, u⟩ <;>
          rw [h] at hw hj <;> simp only [step, h]
        · rw [act?_polling_broken]
          exact .breaks hw hj rfl rfl
        · rw [act?_polling hr]
          exact .quiet hw hj rfl (by simp) rfl
  | waiting t =>
    have hj : JournalGrows w w := journalGrows_of_eq rfl
    rcases h : (w.waiter t).isDone <;> simp only [step, h] <;>
      constructor <;>
        simp_all [act?, Act.waitersAfter, ticket?, Act.ticket?, outcome?, Moment.ended?]
  | collecting t =>
    have hj : JournalGrows w w := journalGrows_of_eq rfl
    constructor <;>
      simp_all [step, act?, Act.waitersAfter, ticket?, Act.ticket?, outcome?, Moment.ended?]
  | finished o => exact .quiet rfl (journalGrows_of_eq rfl) rfl (by simp) rfl

/-! ## Workers -/

/-- All that a step of a worker does. -/
structure Worker.Stepped (p : Producer) (k : Worker) (w : World σ) (a : Option Act) (l : Worker)
    (u : World σ) : Prop where
  waiters : u.waiters = Act.waitersAfter a w.waiters
  journal : JournalGrows w u
  handed : ∀ x m, a = some (.handed x m) → x = w.waiters.length ∧
    ∃ s, k.current = some s ∧ .called s.client (.produce m (some x)) ∈ u.journal
  client : ∀ t, l.current = some t →
    p.client = some t.client ∨ ∃ s, k.current = some s ∧ s.client = t.client
  kept : ∀ t x, l.current = some t → t.ticket? = some x →
    a = some (.handed x t.message) ∨
      ∃ s, k.current = some s ∧ s.message = t.message ∧ s.ticket? = some x
  own : ∀ x, a.bind Act.ticket? = some x → ∃ s, k.current = some s ∧ s.ticket? = some x
  looked : ∀ x b, a = some (.looked x b) → b = (w.waiter x).isDone
  collecting : ∀ t x, l.current = some t → t.stage = .collecting x → a = some (.looked x true)
  collected : ∀ x o, a = some (.collected x o) →
    (∃ s, k.current = some s ∧ s.stage = .collecting x) ∧ o = (w.waiter x).receipt
  ended : ∀ i, l.ended = k.ended ++ (a.bind fun b => Moment.ended? i ⟨.worker i, b⟩).toList

/-- A step of a worker that takes its sender a step further. -/
theorem Worker.Stepped.ofSend {p : Producer} {k : Worker} {s t : Send} {w u : World σ}
    {a : Option Act} (hs : k.current = some s) (h : s.Stepped w a t u) :
    k.Stepped p w a { k with current := some t } u where
  waiters := h.waiters
  journal := h.journal
  handed x m ha := by
    obtain ⟨hx, rfl, hcalled⟩ := h.handed x m ha
    exact ⟨hx, s, hs, hcalled⟩
  client t' ht := by
    cases ht
    exact Or.inr ⟨s, hs, h.client.symm⟩
  kept t' x ht hx := by
    cases ht
    rw [h.message]
    rcases h.kept x hx with hx | ha
    · exact Or.inr ⟨s, hs, rfl, hx⟩
    · exact Or.inl ha
  own x ha := ⟨s, hs, h.own x ha⟩
  looked := h.looked
  collecting t' x ht hx := by
    cases ht
    exact h.collecting x hx
  collected x o ha := ⟨⟨s, hs, (h.collected x o ha).1⟩, (h.collected x o ha).2⟩
  ended i := by
    simp only [Worker.ended, hs, Option.bind_some]
    rw [h.ended i, List.append_assoc]

/-- A step of a worker that leaves it without a ticket, and the world alone. -/
theorem Worker.Stepped.alone {p : Producer} {k l : Worker} {w : World σ} {a : Option Act}
    (ha : a = none ∨ ∃ f, a = some (.refused f))
    (hl : ∀ t, l.current = some t → p.client = some t.client ∧ t.stage = .ready)
    (hended : ∀ i, l.ended = k.ended ++ (a.bind fun b => Moment.ended? i ⟨.worker i, b⟩).toList) :
    k.Stepped p w a l w where
  waiters := by rcases ha with rfl | ⟨f, rfl⟩ <;> rfl
  journal := journalGrows_of_eq rfl
  handed x m h := by rcases ha with rfl | ⟨f, rfl⟩ <;> cases h
  client t ht := Or.inl (hl t ht).1
  kept t x ht hx := by simp [Send.ticket?, (hl t ht).2] at hx
  own x h := by rcases ha with rfl | ⟨f, rfl⟩ <;> cases h
  looked x b h := by rcases ha with rfl | ⟨f, rfl⟩ <;> cases h
  collecting t x ht hx := by simp [(hl t ht).2] at hx
  collected x o h := by rcases ha with rfl | ⟨f, rfl⟩ <;> cases h
  ended := hended

/-- A send begins with the client of the producer, or its arguments are refused. -/
theorem Worker.start_cases (p : Producer) (k : Worker) (a : SendArguments)
    (rest : List SendArguments) :
    (∃ s, start p k a rest = { k with todo := rest, current := some s } ∧
      p.client = some s.client ∧ s.stage = .ready) ∨
    ∃ f, start p k a rest = { k with todo := rest }.conclude (.error f) := by
  unfold start
  rcases hp : p.client with _ | id
  · exact Or.inr ⟨_, rfl⟩
  · rcases hm : Outgoing.check a.topic a.value a.key a.partition with f | m
    · exact Or.inr ⟨f, rfl⟩
    · exact Or.inl ⟨{ client := id, message := m }, rfl, rfl, rfl⟩

theorem Worker.step_stepped (p : Producer) (k : Worker) (w : World σ) :
    k.Stepped p w (k.act? (k.step L p w).1) (k.step L p w).1 (k.step L p w).2 := by
  obtain ⟨todo, current, outcomes⟩ := k
  cases current with
  | some s =>
    cases ho : s.outcome? with
    | some r =>
      simp only [step, ho]
      exact .alone (Or.inl rfl) (fun _ h => by cases h) fun i => by simp [act?, conclude, ended, ho]
    | none =>
      simp only [step, ho]
      exact .ofSend rfl (s.step_stepped w)
  | none =>
    cases todo with
    | nil =>
      simp only [step]
      exact .alone (Or.inl (by simp [act?])) (fun _ h => by cases h) fun i => by simp [act?]
    | cons a rest =>
      simp only [step]
      obtain ⟨s, hstart, hp, hs⟩ | ⟨f, hstart⟩ := start_cases p ⟨a :: rest, none, outcomes⟩ a rest
      · rw [hstart]
        refine .alone (Or.inl rfl) (fun t ht => ?_)
          fun i => by simp [act?, ended, Send.outcome?, hs]
        cases ht
        exact ⟨hp, hs⟩
      · rw [hstart]
        exact .alone (Or.inr ⟨f, by simp [act?, conclude]⟩) (fun _ h => by cases h) fun i => by
          simp [act?, conclude, ended, Moment.ended?]

/-! ## Flushes -/

/-- A step of a flush serves a report or does nothing that others may notice. -/
theorem Flush.step_stepped (f : Flush) (w : World σ) :
    (f.step L w).2.waiters = Act.waitersAfter (f.act? (f.step L w).1) w.waiters ∧
      JournalGrows w (f.step L w).2 ∧
      ∀ a, f.act? (f.step L w).1 = some a → ∃ x r, a = .reported x r := by
  obtain ⟨client, timeout, stage⟩ := f
  cases stage with
  | ready => exact ⟨rfl, journalGrows_enter _ _, fun _ h => by cases h⟩
  | serving es =>
    cases es with
    | nil =>
      have hw : (World.finish L client (.flush timeout) w).2.waiters = w.waiters :=
        finish_waiters _ w
      have hj : JournalGrows w (World.finish L client (.flush timeout) w).2 := by
        rw [finish_state]
        exact journalGrows_of_eq rfl
      rcases h : World.finish L client (.flush timeout) w with ⟨x | left, u⟩ <;>
        rw [h] at hw hj <;> simp only [step, h] <;> exact ⟨hw, hj, fun _ ha => by cases ha⟩
    | cons e es =>
      obtain ⟨x, r, rfl⟩ | hr := e.report_cases
      · exact ⟨rfl, journalGrows_of_eq rfl, fun a ha => ⟨x, r, by cases ha; rfl⟩⟩
      · have hw := handle_waiters (L := L) client hr w
        have hj := handle_journalGrows (L := L) client e w
        have hnone (stage : FlushStage) :
            act? ⟨client, timeout, .serving (e :: es)⟩ ⟨client, timeout, stage⟩ = none := by
          cases e with
          | report x r => exact absurd rfl (hr x r)
          | _ => rfl
        rcases h : World.handle L client e w with ⟨x | _, u⟩ <;>
          rw [h] at hw hj <;> simp only [step, h, hnone] <;>
            exact ⟨hw, hj, fun _ ha => by cases ha⟩
  | finished o => exact ⟨rfl, journalGrows_of_eq rfl, fun _ ha => by cases ha⟩

end KafkaHandles
