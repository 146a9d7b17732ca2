import KafkaHandles.Proofs.Producer.Outcomes
import KafkaHandles.Proofs.Producer.Progress

/-!
# The course of a sender

A sender that runs alone makes one call after the other: the one that puts its message into the
queue, and then polls for reports. Its course is these calls made whole, without a look at the
waiter in between. The steps of a sender follow its course, and leave it when a call fails or when a
report on the message has been served by the end of a poll.
-/

namespace KafkaHandles

variable {σ : Type}

/-- The report that an event gives on the message with a ticket. -/
def Event.report? (t : Ticket) : Event → Option DeliveryReport
  | .report t' r => if t' = t then some r else none
  | _ => none

/-! ## Reports that are served during a call -/

namespace World

/-- The reports on the message with a ticket that a call serves. -/
def served (L : Library σ) (id : ClientId) (c : Call) (t : Ticket) (w : World σ) :
    List DeliveryReport :=
  (begin L id c w).1.filterMap (Event.report? t)

variable {L : Library σ} {id : ClientId} {w u : World σ} {t : Ticket}

theorem handle_reports (id : ClientId) (e : Event) (ht : t < w.waiters.length) :
    ((handle L id e w).2.waiter t).report = (w.waiter t).report.or (e.report? t) ∧
      (handle L id e w).2.waiters.length = w.waiters.length := by
  obtain ⟨x, r, rfl⟩ | hr := e.report_cases
  · exact ⟨waiter_resolve w t x r ht, List.length_modify ..⟩
  · have hsame := handle_waiters (L := L) id hr w
    have hnone : e.report? t = none := by
      cases e with
      | report x r => exact absurd rfl (hr x r)
      | _ => rfl
    rw [hnone, Option.or_none, waiter, hsame]
    exact ⟨rfl, rfl⟩

theorem handleAll_reports {es : List Event} (h : handleAll L id es w = (.ok (), u))
    (ht : t < w.waiters.length) :
    (u.waiter t).report = (w.waiter t).report.or (es.filterMap (Event.report? t)).head? ∧
      u.waiters.length = w.waiters.length := by
  induction es generalizing w with
  | nil =>
    cases h
    exact ⟨Option.or_none.symm, rfl⟩
  | cons e es ih =>
    obtain ⟨⟨⟩, v, he, hes⟩ := Action.bind_ok_cases h
    obtain ⟨hreport, hlength⟩ := handle_reports (L := L) id e ht
    rw [he] at hreport hlength
    obtain ⟨hreports, hlengths⟩ := ih hes (hlength.symm ▸ ht)
    refine ⟨?_, hlengths.trans hlength⟩
    rw [hreports, hreport, Option.or_assoc]
    cases hhead : e.report? t <;> simp [hhead]

/-- After a call that succeeds, a waiter knows the first report that it has been given before or
during the call. -/
theorem invoke_reports {c : Call} {v : c.Answer} (h : invoke L id c w = (.ok v, u))
    (ht : t < w.waiters.length) :
    (u.waiter t).report = (w.waiter t).report.or (served L id c t w).head? ∧
      u.waiters.length = w.waiters.length := by
  have h : (handleAll L id (begin L id c w).1 >>= fun _ => World.finish L id c)
      (begin L id c w).2 = (.ok v, u) := h
  obtain ⟨⟨⟩, x, hevents, hfinish⟩ := Action.bind_ok_cases h
  have hwaiters : (World.finish L id c x).2.waiters = x.waiters := finish_waiters c x
  rw [hfinish] at hwaiters
  obtain ⟨hreport, hlength⟩ := handleAll_reports hevents ht
  rw [waiter, hwaiters]
  exact ⟨hreport, hlength⟩

end World

/-! ## Calls that are made -/

namespace World

/-- What calls on a client add to the journal: the calls themselves, with those by which the client
follows a start rule in between, if it holds one. -/
def Makes (id : ClientId) (made : List Call) (w u : World σ) : Prop :=
  ∃ new, u.calls = w.calls ++ new ∧
    new.filter (fun e => !e.2.isFollowing) = made.map (Prod.mk id) ∧
    (w.rule? id = none → new = made.map (Prod.mk id))

variable {L : Library σ} {id : ClientId} {w u : World σ} {c : Call}

theorem makes_invoke (id : ClientId) (hc : c.isFollowing = false) (w : World σ) :
    Makes id [c] w (invoke L id c w).2 := by
  obtain ⟨nested, hcalls, hnested, hnone⟩ := @invoke_calls _ L id c w
  refine ⟨(id, c) :: nested, hcalls, ?_, fun h => by rw [hnone h]; rfl⟩
  have hnil : nested.filter (fun e => !e.2.isFollowing) = [] :=
    List.filter_eq_nil_iff.mpr fun e he => by simp [(hnested e he).2]
  rw [List.filter_cons_of_pos (by simp [hc]), hnil]
  rfl

theorem Makes.snoc {made : List Call} (h : Makes id made w u) (hrules : u.rules = w.rules)
    (hc : c.isFollowing = false) : Makes id (made ++ [c]) w (invoke L id c u).2 := by
  obtain ⟨first, hfirst, hfirstMade, hfirstAll⟩ := h
  obtain ⟨last, hlast, hlastMade, hlastAll⟩ := makes_invoke (L := L) id hc u
  refine ⟨first ++ last, by rw [hlast, hfirst, List.append_assoc], ?_, fun hrule => ?_⟩
  · rw [List.filter_append, hfirstMade, hlastMade, List.map_append]
  · rw [hfirstAll hrule, hlastAll (by rw [rule?_of_rules hrules, hrule]), List.map_append]

end World

/-! ## Courses -/

namespace Send

section Course

variable (L : Library σ) (id : ClientId) (m : Outgoing)

/-- Puts a message into the queue, and then polls for reports some number of times. -/
def course : Nat → Action (World σ) Unit
  | 0 => fun w => World.invoke L id (.produce m (some w.waiters.length)) w.addWaiter.2
  | n + 1 => do
    course n
    let _ ← World.invoke L id pollCall
    pure ()

/-- The reports on its message that a course serves, in order. -/
def reports (w : World σ) : Nat → List DeliveryReport
  | 0 => World.served L id (.produce m (some w.waiters.length)) w.waiters.length w.addWaiter.2
  | n + 1 => reports w n ++ World.served L id pollCall w.waiters.length (course L id m n w).2

end Course

variable {L : Library σ} {id : ClientId} {m : Outgoing} {w u : World σ} {n : Nat}

theorem course_succ_ok (h : course L id m n w = (.ok (), u)) :
    course L id m (n + 1) w =
      ((World.invoke L id pollCall u).1.map fun _ => (), (World.invoke L id pollCall u).2) := by
  rw [course, Action.bind_ok h, Action.bind_apply]
  rcases World.invoke L id pollCall u with ⟨f | _, v⟩ <;> rfl

theorem course_ok_of_succ (h : course L id m (n + 1) w = (.ok (), u)) :
    ∃ v k, course L id m n w = (.ok (), v) ∧ World.invoke L id pollCall v = (.ok k, u) := by
  obtain ⟨⟨⟩, v, hcourse, hrest⟩ := Action.bind_ok_cases h
  obtain ⟨k, x, hpoll, hdone⟩ := Action.bind_ok_cases hrest
  cases hdone
  exact ⟨v, k, hcourse, hpoll⟩

theorem course_ok_of_le {j : Nat} (h : (course L id m n w).1 = .ok ()) (hj : j ≤ n) :
    (course L id m j w).1 = .ok () := by
  induction n with
  | zero => rwa [Nat.le_zero.mp hj]
  | succ n ih =>
    rcases Nat.le_succ_iff.mp hj with hlt | rfl
    · obtain ⟨v, k, hcourse, -⟩ := course_ok_of_succ (Prod.ext h rfl)
      exact ih (by rw [hcourse]) hlt
    · exact h

theorem course_rules (id : ClientId) (m : Outgoing) (n : Nat) (w : World σ) :
    (course L id m n w).2.rules = w.rules := by
  induction n with
  | zero => exact World.invoke_rules _ _
  | succ n ih =>
    rcases h : course L id m n w with ⟨f | ⟨⟩, u⟩ <;> rw [h] at ih
    · rw [course, Action.bind_error h]
      exact ih
    · rw [course_succ_ok h]
      exact (World.invoke_rules _ u).trans ih

/-- A course makes the call that puts the message into the queue and its polls, in order, up to the
first that fails. -/
theorem course_makes (h : ∀ j < n, (course L id m j w).1 = .ok ()) :
    World.Makes id (.produce m (some w.waiters.length) :: List.replicate n pollCall) w
      (course L id m n w).2 := by
  induction n with
  | zero => exact World.makes_invoke id rfl w.addWaiter.2
  | succ n ih =>
    have hmakes := ih fun j hj => h j (Nat.lt_succ_of_lt hj)
    have hrules := course_rules (L := L) id m n w
    obtain ⟨u, hu⟩ : ∃ u, course L id m n w = (.ok (), u) :=
      ⟨_, Prod.ext (h n (Nat.lt_succ_self n)) rfl⟩
    rw [hu] at hmakes hrules
    rw [course_succ_ok hu, List.replicate_succ', ← List.cons_append]
    exact hmakes.snoc hrules rfl

theorem course_reports (h : course L id m n w = (.ok (), u)) :
    (u.waiter w.waiters.length).report = (reports L id m w n).head? ∧
      w.waiters.length < u.waiters.length := by
  have hadded : w.waiters.length < w.addWaiter.2.waiters.length := by simp [World.addWaiter]
  induction n generalizing u with
  | zero =>
    obtain ⟨hreport, hlength⟩ := World.invoke_reports h hadded
    have hstart : (w.addWaiter.2.waiter w.waiters.length).report = none := by
      simp [World.addWaiter, World.waiter, Waiter.start]
    rw [hstart, Option.none_or] at hreport
    exact ⟨hreport, hlength ▸ hadded⟩
  | succ n ih =>
    obtain ⟨v, k, hcourse, hpoll⟩ := course_ok_of_succ h
    obtain ⟨hbefore, hlt⟩ := ih hcourse
    obtain ⟨hreport, hlength⟩ := World.invoke_reports hpoll hlt
    refine ⟨?_, hlength ▸ hlt⟩
    rw [hreport, hbefore, reports, hcourse, List.head?_append]

/-! ## Steps along a course -/

/-- Where a sender stands after a call: at the next stage, or at its end if the call has failed. -/
def settle {α : Type} (id : ClientId) (m : Outgoing) (next : SendStage) (say : Fault → Fault) :
    Except Fault α × World σ → Send × World σ
  | (.ok _, u) => (⟨id, m, next⟩, u)
  | (.error f, u) => (⟨id, m, .finished (.error (say f))⟩, u)

/-- The steps by which a call is served, one for each event and one for the answer, come to what the
call does as a whole. -/
theorem after_call (c : Call) (during : List Event → SendStage) (next : SendStage)
    (say : Fault → Fault)
    (hevent : ∀ e es w, step L ⟨id, m, during (e :: es)⟩ w =
      settle id m (during es) say (World.handle L id e w))
    (hanswer : ∀ w, step L ⟨id, m, during []⟩ w = settle id m next say (World.finish L id c w))
    (es : List Event) (w : World σ) :
    after L (es.length + 1) ⟨id, m, during es⟩ w =
      settle id m next say ((World.handleAll L id es >>= fun _ => World.finish L id c) w) := by
  induction es generalizing w with
  | nil => exact hanswer w
  | cons e es ih =>
    rw [after, hevent, World.handleAll, Action.bind_bind, Action.bind_apply]
    rcases World.handle L id e w with ⟨f | ⟨⟩, u⟩
    · exact after_finished rfl _ u
    · exact ih u

theorem after_produce (id : ClientId) (m : Outgoing) (w : World σ) :
    ∃ n, after L n ⟨id, m, .ready⟩ w =
      settle id m (.looping w.waiters.length) produceFault (course L id m 0 w) := by
  let c : Call := .produce m (some w.waiters.length)
  let begun := World.begin L id c w.addWaiter.2
  refine ⟨begun.1.length + 1 + 1, ?_⟩
  refine after_call c (.producing w.waiters.length) (.looping w.waiters.length) produceFault
    (fun e es v => ?_) (fun v => ?_) begun.1 begun.2
  · rcases h : World.handle L id e v with ⟨f | _, u⟩ <;> simp only [step, settle, h]
  · rcases h : World.finish L id c v with ⟨f | _, u⟩ <;> simp only [step, settle, h, produceCall, c]

theorem after_poll (id : ClientId) (m : Outgoing) (t : Ticket) (w : World σ) :
    ∃ n, after L (n + 1) ⟨id, m, .looping t⟩ w =
      settle id m (.waiting t) (fun f => f) (World.invoke L id pollCall w) := by
  let begun := World.begin L id pollCall w
  refine ⟨begun.1.length + 1, ?_⟩
  refine after_call pollCall (.polling t) (.waiting t) (fun f => f) (fun e es v => ?_)
    (fun v => ?_) begun.1 begun.2
  · rcases h : World.handle L id e v with ⟨f | _, u⟩ <;> simp only [step, settle, h]
  · rcases h : World.finish L id pollCall v with ⟨f | _, u⟩ <;> simp only [step, settle, h]

/-! ## Where a course leads -/

/-- As long as its course serves no report, a sender comes back to the point before a poll. -/
theorem after_course {k : Nat} (h : course L id m k w = (.ok (), u))
    (hk : k = 0 ∨ reports L id m w k = []) :
    ∃ n ≥ k, after L n ⟨id, m, .ready⟩ w = (⟨id, m, .looping w.waiters.length⟩, u) := by
  induction k generalizing u with
  | zero =>
    obtain ⟨n, hn⟩ := after_produce (L := L) id m w
    exact ⟨n, Nat.zero_le n, by rw [hn, h, settle]⟩
  | succ k ih =>
    have hreports : reports L id m w (k + 1) = [] := hk.resolve_left (Nat.succ_ne_zero k)
    obtain ⟨v, count, hcourse, hpoll⟩ := course_ok_of_succ h
    obtain ⟨n, hn, hafter⟩ := ih hcourse (Or.inr (List.append_eq_nil_iff.mp hreports).1)
    obtain ⟨j, hj⟩ := after_poll (L := L) id m w.waiters.length v
    have hnone : (u.waiter w.waiters.length).isDone = false := by
      rw [Waiter.isDone, (course_reports h).1, hreports]
      rfl
    refine ⟨n + (j + 1 + 1), by omega, ?_⟩
    rw [after_add, hafter, after_add, hj, hpoll]
    simp [after, step, settle, hnone]

theorem course_refused {f : Fault} (h : course L id m 0 w = (.error f, u)) :
    ∃ n, after L n ⟨id, m, .ready⟩ w = (⟨id, m, .finished (.error (produceFault f))⟩, u) := by
  obtain ⟨n, hn⟩ := after_produce (L := L) id m w
  exact ⟨n, by rw [hn, h, settle]⟩

theorem course_failed {k : Nat} {f : Fault} {v : World σ} (h : course L id m k w = (.ok (), v))
    (hk : k = 0 ∨ reports L id m w k = []) (hpoll : World.invoke L id pollCall v = (.error f, u)) :
    ∃ n, after L n ⟨id, m, .ready⟩ w = (⟨id, m, .finished (.error f)⟩, u) := by
  obtain ⟨n, -, hafter⟩ := after_course h hk
  obtain ⟨j, hj⟩ := after_poll (L := L) id m w.waiters.length v
  exact ⟨n + (j + 1), by rw [after_add, hafter, hj, hpoll, settle]⟩

/-- A sender ends with the first report that its course has served by the end of a poll. -/
theorem course_reported {k : Nat} {r : DeliveryReport}
    (h : course L id m (k + 1) w = (.ok (), u)) (hk : k = 0 ∨ reports L id m w k = [])
    (hr : (reports L id m w (k + 1)).head? = some r) :
    ∃ n, after L n ⟨id, m, .ready⟩ w = (⟨id, m, .finished r.outcome⟩, u) := by
  obtain ⟨v, count, hcourse, hpoll⟩ := course_ok_of_succ h
  obtain ⟨n, -, hafter⟩ := after_course hcourse hk
  obtain ⟨j, hj⟩ := after_poll (L := L) id m w.waiters.length v
  have hreport : (u.waiter w.waiters.length).report = some r := by rw [(course_reports h).1, hr]
  refine ⟨n + (j + 1 + 2), ?_⟩
  rw [after_add, hafter, after_add, hj, hpoll]
  simp [after, step, settle, Waiter.isDone, Waiter.receipt, hreport]

theorem course_endless (h : ∀ k, (course L id m k w).1 = .ok () ∧ reports L id m w k = [])
    (n : Nat) : (after L n ⟨id, m, .ready⟩ w).1.outcome? = none := by
  have hcourse : course L id m n w = (.ok (), (course L id m n w).2) := Prod.ext (h n).1 rfl
  obtain ⟨j, hj, hafter⟩ := after_course hcourse (Or.inr (h n).2)
  cases houtcome : (after L n ⟨id, m, .ready⟩ w).1.outcome? with
  | none => rfl
  | some r =>
    -- an end would last, but after `j` steps the sender is about to poll again
    obtain ⟨i, rfl⟩ := Nat.exists_eq_add_of_le hj
    rw [after_add, after_finished (outcome?_eq_some.mp houtcome)] at hafter
    exact houtcome.symm.trans (congrArg (fun x => x.1.outcome?) hafter)

end Send

end KafkaHandles
