import KafkaHandles.Proofs.Producer.Operations

/-!
# Senders, step by step

A sender that runs alone takes steps until it has come to its end, and stays there. What a whole run
does follows from what single steps do: the first puts the message into the queue, and all others
only serve reports.
-/

namespace KafkaHandles

/-- The calls that a sender makes once its message is in the queue, with those by which clients
follow a start rule. -/
def Call.isServing : Call → Bool
  | .pollReports _ => true
  | c => c.isFollowing

theorem Call.isServing_of_isFollowing {c : Call} (h : c.isFollowing) : c.isServing := by
  cases c <;> simp_all [isServing, isFollowing]

namespace Send

variable {σ : Type} (L : Library σ)

/-- A sender after some steps, with nobody else in between. -/
def after : Nat → Send → World σ → Send × World σ
  | 0, s, w => (s, w)
  | n + 1, s, w => after n (s.step L w).1 (s.step L w).2

/-- What a run answers for a sender that stands somewhere. -/
def reply (s : Send) : Except Fault (Option Receipt) :=
  match s.outcome? with
  | some r => r.map some
  | none => .ok none

variable {L} {s : Send}

theorem outcome?_eq_some {r : Except Fault Receipt} :
    s.outcome? = some r ↔ s.stage = .finished r := by
  unfold outcome?
  cases s.stage <;> simp

/-! ## Runs -/

theorem step_finished {r : Except Fault Receipt} (h : s.stage = .finished r) (w : World σ) :
    s.step L w = (s, w) := by
  unfold step
  rw [h]

theorem after_finished {r : Except Fault Receipt} (h : s.stage = .finished r) (n : Nat)
    (w : World σ) : after L n s w = (s, w) := by
  induction n with
  | zero => rfl
  | succ n ih => rw [after, step_finished h, ih]

theorem after_add (m n : Nat) (s : Send) (w : World σ) :
    after L (m + n) s w = after L n (after L m s w).1 (after L m s w).2 := by
  induction m generalizing s w with
  | zero => rw [Nat.zero_add, after]
  | succ m ih => rw [Nat.add_right_comm, after, ih, after]

theorem run_finished {r : Except Fault Receipt} (h : s.stage = .finished r) (n : Nat)
    (w : World σ) : run L (n + 1) s w = (r.map some, w) := by
  unfold run
  rw [h]
  cases r <;> rfl

theorem run_unfinished (h : ∀ r, s.stage ≠ .finished r) (n : Nat) (w : World σ) :
    run L (n + 1) s w = run L n (s.step L w).1 (s.step L w).2 := by
  rw [run]
  split
  · rename_i r hr
    exact absurd hr (h _)
  · rename_i f hf
    exact absurd hf (h _)
  · rfl

theorem finished_or (s : Send) : (∃ r, s.stage = .finished r) ∨ ∀ r, s.stage ≠ .finished r := by
  cases s.stage with
  | finished r => exact Or.inl ⟨r, rfl⟩
  | _ => exact Or.inr nofun

theorem run_world (n : Nat) (s : Send) (w : World σ) :
    (run L n s w).2 = (after L n s w).2 := by
  induction n generalizing s w with
  | zero => rfl
  | succ n ih =>
    rcases s.finished_or with ⟨r, hr⟩ | hr
    · rw [run_finished hr, after_finished hr]
    · rw [run_unfinished hr, ih, after]

theorem run_reply (n : Nat) (s : Send) (w : World σ) :
    (run L (n + 1) s w).1 = (after L n s w).1.reply := by
  induction n generalizing s w with
  | zero =>
    rcases s.finished_or with ⟨r, hr⟩ | hr
    · rw [run_finished hr, after, reply, outcome?_eq_some.mpr hr]
    · have hnone : s.outcome? = none :=
        Option.eq_none_iff_forall_not_mem.mpr fun r h => hr r (outcome?_eq_some.mp h)
      rw [run_unfinished hr, after, reply, hnone]
      rfl
  | succ n ih =>
    rcases s.finished_or with ⟨r, hr⟩ | hr
    · rw [run_finished hr, after_finished hr, reply, outcome?_eq_some.mpr hr]
    · rw [run_unfinished hr, ih, after]

/-- A sender that has come to its end within some steps has the outcome of every longer run. -/
theorem run_reply_of_after {m n : Nat} (hmn : m < n) {w : World σ} {r : Except Fault Receipt}
    (h : (after L m s w).1.stage = .finished r) : (run L n s w).1 = r.map some := by
  obtain ⟨k, rfl⟩ := Nat.exists_eq_add_of_lt hmn
  rw [run_reply, after_add, after_finished h, reply, outcome?_eq_some.mpr h]

/-! ## Calls -/

theorem step_serves (h : s.stage ≠ .ready) (w : World σ) : (s.step L w).1.stage ≠ .ready ∧
    World.Asks (some s.client) (·.isServing) w (s.step L w).2 := by
  have hhandle (e : Event) : World.Asks (some s.client) (·.isServing) w
      (World.handle L s.client e w).2 :=
    (World.handle_asks e w).mono fun _ h => ⟨h.1, Call.isServing_of_isFollowing h.2⟩
  have hfinish (c : Call) : World.Asks (some s.client) (·.isServing) w
      (World.finish L s.client c w).2 :=
    World.asks_of_eq (World.finish_calls c w)
  obtain ⟨client, message, stage⟩ := s
  cases stage with
  | ready => exact absurd rfl h
  | producing t es =>
    cases es with
    | nil =>
      have hcall := hfinish (.produce message (some t))
      rcases hr : World.finish L client (.produce message (some t)) w with ⟨f | _, u⟩ <;>
        rw [hr] at hcall <;> simp only [step, produceCall, hr] <;> exact ⟨nofun, hcall⟩
    | cons e es =>
      have hcall := hhandle e
      rcases hr : World.handle L client e w with ⟨f | _, u⟩ <;>
        rw [hr] at hcall <;> simp only [step, hr] <;> exact ⟨nofun, hcall⟩
  | looping t => exact ⟨nofun, Action.Adds.one (World.begin_calls pollCall w) ⟨rfl, rfl⟩⟩
  | polling t es =>
    cases es with
    | nil =>
      have hcall := hfinish pollCall
      rcases hr : World.finish L client pollCall w with ⟨f | _, u⟩ <;>
        rw [hr] at hcall <;> simp only [step, hr] <;> exact ⟨nofun, hcall⟩
    | cons e es =>
      have hcall := hhandle e
      rcases hr : World.handle L client e w with ⟨f | _, u⟩ <;>
        rw [hr] at hcall <;> simp only [step, hr] <;> exact ⟨nofun, hcall⟩
  | waiting t =>
    simp only [step]
    split
    · exact ⟨nofun, World.asks_of_eq rfl⟩
    · exact ⟨nofun, World.asks_of_eq rfl⟩
  | collecting t => exact ⟨nofun, World.asks_of_eq rfl⟩
  | finished r => exact ⟨nofun, World.asks_of_eq rfl⟩

theorem after_serves (n : Nat) (h : s.stage ≠ .ready) (w : World σ) :
    World.Asks (some s.client) (·.isServing) w (after L n s w).2 := by
  induction n generalizing s w with
  | zero => exact World.asks_of_eq rfl
  | succ n ih =>
    obtain ⟨hstage, hasks⟩ := step_serves (L := L) h w
    have hrest := ih hstage (s.step L w).2
    rw [step_client] at hrest
    exact trans_of (World.Asks (some s.client) (·.isServing)) hasks hrest

/-- A run begins with the call that puts the message into the queue, and makes no other such
call. -/
theorem run_calls (n : Nat) (id : ClientId) (m : Outgoing) (w : World σ) :
    ∃ rest, (run L (n + 1) { client := id, message := m } w).2.calls =
        w.calls ++ (id, .produce m (some w.waiters.length)) :: rest ∧
      ∀ e ∈ rest, e.1 = id ∧ e.2.isServing := by
  let s : Send := { client := id, message := m }
  have hstage : (s.step L w).1.stage ≠ .ready := by
    intro h
    cases h
  obtain ⟨rest, hcalls, hrest⟩ : World.Asks (some id) (·.isServing) (s.step L w).2
    (after L n (s.step L w).1 (s.step L w).2).2 := after_serves n hstage (s.step L w).2
  refine ⟨rest, ?_, fun e he => ⟨(Option.some.inj (hrest e he).1).symm, (hrest e he).2⟩⟩
  have hfirst : (s.step L w).2.calls = w.calls ++ [(id, .produce m (some w.waiters.length))] :=
    World.begin_calls (.produce m (some w.waiters.length)) w.addWaiter.2
  rw [run_world]
  show (after L n (s.step L w).1 (s.step L w).2).2.calls = _
  rw [hcalls, hfirst, List.append_assoc]
  rfl

end Send

end KafkaHandles
