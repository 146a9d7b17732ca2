import KafkaHandles.Proofs.Client.Frame

/-!
# The calls of a journal

A call on a client is entered before it acts, so the journal tells of every call that was begun,
however it ended. While a call is under way, only calls are made by which the client follows its
start rule, and none if it holds no rule.
-/

namespace KafkaHandles

/-- The call that an entry of the journal tells of. -/
def Entry.call? : Entry → Option (ClientId × Call)
  | .called id c => some (id, c)
  | .delivered .. => none

namespace World

variable {σ : Type} {L : Library σ} {id : ClientId}

/-- All calls that were begun, in order. -/
def calls (w : World σ) : List (ClientId × Call) :=
  w.journal.filterMap Entry.call?

/-- Only calls of some kind are made on a client, and none if there is no client. -/
abbrev Asks (client : Option ClientId) (P : Call → Prop) : World σ → World σ → Prop :=
  Action.Adds World.calls fun e => client = some e.1 ∧ P e.2

theorem asks_of_eq {client : Option ClientId} {P : Call → Prop} {w u : World σ}
    (h : u.calls = w.calls) : Asks client P w u :=
  ⟨[], by simp [h], by simp⟩

theorem Asks.calls_of_none {P : Call → Prop} {w u : World σ} (h : Asks none P w u) :
    u.calls = w.calls := by
  obtain ⟨new, hu, hnew⟩ := h
  cases new with
  | nil => simpa using hu
  | cons e new => cases (hnew e (by simp)).1

@[simp] theorem calls_enter (e : Entry) (w : World σ) :
    (w.enter e).calls = w.calls ++ e.call?.toList := by
  cases h : e.call? <;> simp [calls, enter, h]

@[simp] theorem calls_setStop (flag : Option StopId) (w : World σ) :
    (w.setStop flag).calls = w.calls := by
  cases flag <;> rfl

@[simp] theorem begin_calls (c : Call) (w : World σ) :
    (begin L id c w).2.calls = w.calls ++ [(id, c)] :=
  calls_enter (.called id c) w

@[simp] theorem finish_calls (c : Call) (w : World σ) :
    (World.finish L id c w).2.calls = w.calls := by
  rw [finish_state]
  rfl

@[simp] theorem request_calls (c : Call) (w : World σ) :
    (request L id c w).2.calls = w.calls ++ [(id, c)] := by
  rw [request_state]
  exact calls_enter (.called id c) w

theorem subscribe_state (topics : List String) (rule : Option StartRule) (w : World σ) :
    (subscribe L id topics rule w).2 =
      match request L id (.subscribe topics rule) w with
      | (.ok _, w) => { w with rules := w.rules.set id rule }
      | (.error _, w) => w := by
  unfold subscribe
  rw [Action.bind_apply]
  split <;> rename_i h <;> simp [h]

@[simp] theorem subscribe_calls (topics : List String) (rule : Option StartRule) (w : World σ) :
    (subscribe L id topics rule w).2.calls = w.calls ++ [(id, .subscribe topics rule)] := by
  rw [subscribe_state]
  have h : (request L id (.subscribe topics rule) w).2.calls = _ := request_calls _ w
  split <;> rename_i hr <;> rw [hr] at h <;> exact h

/-! ## Calls while a call is under way -/

theorem handle_asks (e : Event) (w : World σ) :
    Asks (some id) (·.isFollowing) w (handle L id e w).2 := by
  refine handle_within (fun c hc w => ?_) (fun r _ w => asks_of_eq rfl) (fun note w => asks_of_eq ?_)
    (fun flag w => asks_of_eq ?_) e (fun t r _ w => asks_of_eq rfl) w
  · exact Action.Adds.one (request_calls c w) ⟨rfl, hc⟩
  · simp [Entry.call?]
  · simp

theorem handleAll_asks (es : List Event) (w : World σ) :
    Asks (some id) (·.isFollowing) w (handleAll L id es w).2 :=
  handleAll_within (fun e _ => handle_asks e) w

theorem handle_rules (e : Event) (w : World σ) : (handle L id e w).2.rules = w.rules := by
  have hstop (flag : Option StopId) (w : World σ) : Action.Same World.rules w (w.setStop flag) := by
    cases flag <;> rfl
  refine handle_within (R := Action.Same World.rules) (fun c _ w => ?_) (fun _ _ _ => rfl)
    (fun _ _ => rfl) hstop e (fun _ _ _ _ => rfl) w
  show (request L id c w).2.rules = w.rules
  rw [request_state]
  rfl

/-- A client without a start rule makes no calls on its own. -/
theorem handle_calls_of_rule_none (e : Event) (w : World σ) (h : w.rule? id = none) :
    (handle L id e w).2.calls = w.calls := by
  cases e with
  | delivered note => simp [handle, Entry.call?]
  | report t r => rfl
  | rebalance ps =>
    simp [handle, rebalance, Action.bind_apply, h]
  | line l => exact forward_within (R := Action.Same World.calls) (fun _ _ _ => rfl) l w
  | stop flag => simp [handle]

theorem rule?_of_rules {w u : World σ} (h : u.rules = w.rules) : u.rule? id = w.rule? id := by
  simp only [rule?, h]

theorem handleAll_calls_of_rule_none (es : List Event) (w : World σ) (h : w.rule? id = none) :
    (handleAll L id es w).2.calls = w.calls := by
  induction es generalizing w with
  | nil => rfl
  | cons e es ih =>
    have he := handle_calls_of_rule_none (L := L) e w h
    have hrules : (handle L id e w).2.rules = w.rules := handle_rules e w
    simp only [handleAll, Action.bind_apply]
    rcases hs : handle L id e w with ⟨_ | _, u⟩ <;> rw [hs] at he hrules
    · exact he
    · exact (ih u (by rw [rule?_of_rules hrules, h])).trans he

theorem handleAll_rules (es : List Event) (w : World σ) :
    (handleAll L id es w).2.rules = w.rules :=
  handleAll_within (R := Action.Same World.rules) (fun e _ => handle_rules e) w

/-! ## Whole calls -/

theorem invoke_state (c : Call) (w : World σ) :
    (invoke L id c w).2 =
      match handleAll L id (begin L id c w).1 (begin L id c w).2 with
      | (.ok _, w) => (World.finish L id c w).2
      | (.error _, w) => w := by
  unfold invoke Action.andThen
  dsimp only
  split <;> rename_i h <;> simp [h]

theorem invoke_calls (c : Call) (w : World σ) :
    ∃ nested, (invoke L id c w).2.calls = w.calls ++ (id, c) :: nested ∧
      (∀ e ∈ nested, e.1 = id ∧ e.2.isFollowing) ∧ (w.rule? id = none → nested = []) := by
  obtain ⟨nested, hcalls, hnested⟩ : Asks (some id) (·.isFollowing) (begin L id c w).2
      (handleAll L id (begin L id c w).1 (begin L id c w).2).2 := handleAll_asks _ _
  have hinvoke : (invoke L id c w).2.calls =
      (handleAll L id (begin L id c w).1 (begin L id c w).2).2.calls := by
    rw [invoke_state]
    split <;> rename_i h <;> simp [h]
  refine ⟨nested, ?_, fun e he => ⟨(Option.some.inj (hnested e he).1).symm, (hnested e he).2⟩,
    fun h => ?_⟩
  · rw [hinvoke, hcalls, begin_calls, List.append_assoc]
    rfl
  · have hnone := handleAll_calls_of_rule_none (L := L) (begin L id c w).1 (begin L id c w).2 h
    rw [hnone] at hcalls
    exact List.self_eq_append_right.mp hcalls

theorem invoke_calls_of_rule_none {w : World σ} (c : Call) (h : w.rule? id = none) :
    (invoke L id c w).2.calls = w.calls ++ [(id, c)] := by
  obtain ⟨nested, hcalls, -, hnone⟩ := invoke_calls (L := L) c w
  rw [hcalls, hnone h]

theorem invoke_asks {P : Call → Prop} {c : Call} (hc : P c) (hP : ∀ c : Call, c.isFollowing → P c)
    (w : World σ) : Asks (some id) P w (invoke L id c w).2 := by
  obtain ⟨nested, hcalls, hnested, -⟩ := invoke_calls (L := L) c w
  refine ⟨_, hcalls, fun e he => ?_⟩
  rcases List.mem_cons.mp he with rfl | he
  · exact ⟨rfl, hc⟩
  · exact ⟨by rw [(hnested e he).1], hP _ (hnested e he).2⟩

theorem invoke_rules (c : Call) (w : World σ) : (invoke L id c w).2.rules = w.rules := by
  have h : (handleAll L id (begin L id c w).1 (begin L id c w).2).2.rules = w.rules :=
    handleAll_rules _ _
  rw [invoke_state]
  split <;> rename_i ha <;> rw [ha] at h
  · rw [finish_state]
    exact h
  · exact h

end World

end KafkaHandles
