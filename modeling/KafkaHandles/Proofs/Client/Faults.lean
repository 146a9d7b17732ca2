import KafkaHandles.Producer.Send
import KafkaHandles.Proofs.Client.Frame

/-!
# The faults of calls

A call ends in what the client library raises, or in what keeps one of its log lines from being
forwarded. Neither refuses an argument: a refusal is always made on this side, before any call.
-/

namespace KafkaHandles

/-- Whether a fault refuses an argument. -/
def Fault.IsRefusal (f : Fault) : Prop :=
  f.cls = .validation

namespace Fault

theorem ofClient_not_isRefusal (f : ClientFault) : ¬(ofClient f).IsRefusal := by
  cases f <;> simp [IsRefusal, ofClient, cls]

theorem untold_not_isRefusal (flaw : TextFlaw) : ¬(untold flaw).IsRefusal := by
  cases flaw <;> simp [IsRefusal, cls, TextFlaw.cls]

section Wrapping

variable {wrap : ClientError → Fault} {code : Int} {text : String}

theorem wrapping_told (h : Char.ofNat 0 ∉ text.toList) :
    wrapping wrap code text = wrap ⟨code, text, false, false⟩ := by
  have hreason : ClientError.isReason text = true := by simpa [ClientError.isReason] using h
  simp only [wrapping, hreason, if_true]
  rfl

theorem wrapping_untold (h : Char.ofNat 0 ∈ text.toList) :
    wrapping wrap code text = .textHoldsNul := by
  have hreason : ClientError.isReason text = false := by simpa [ClientError.isReason] using h
  simp [wrapping, hreason]

end Wrapping

theorem wrapping_not_isRefusal {wrap : ClientError → Fault} (h : ∀ e, ¬(wrap e).IsRefusal)
    (code : Int) (reason : String) : ¬(wrapping wrap code reason).IsRefusal := by
  unfold wrapping
  split
  · exact h _
  · simp [IsRefusal, cls]

end Fault

/-- An action that never refuses an argument. -/
abbrev Action.Unrefused {S α : Type} (a : Action S α) : Prop :=
  a.Raises fun f => ¬f.IsRefusal

open KafkaHandles.Action (Unrefused Raises)

/-- A line is not recorded if its level is no number, or is not whole. -/
theorem LogLine.record_error {l : LogLine} {logger : String} {f : Fault}
    (h : l.record logger = .error f) :
    f = .levelNotInteger ∨ ∃ kind, f = .notComparable ">" kind := by
  unfold LogLine.record LogLevel.clamp at h
  cases hlevel : l.level with
  | float x =>
    rw [hlevel] at h
    dsimp only [bind, Except.bind] at h
    split at h <;> cases h
    exact Or.inl rfl
  | bool b | int n =>
    rw [hlevel] at h
    cases h
  | _ =>
    rw [hlevel] at h
    cases h
    exact Or.inr ⟨_, rfl⟩

theorem LogLine.record_unrefused {l : LogLine} {logger : String} {f : Fault}
    (h : l.record logger = .error f) : ¬f.IsRefusal := by
  rcases record_error h with rfl | ⟨kind, rfl⟩ <;> simp [Fault.IsRefusal, Fault.cls]

namespace World

variable {σ : Type} {L : Library σ} {id : ClientId}

theorem say_unrefused (logger : Logger) (level : Int) (text : String) :
    (say (σ := σ) logger level text).Unrefused :=
  .modify _

theorem finish_unrefused (c : Call) : (World.finish L id c).Unrefused := by
  intro w f h
  rw [finish_answer] at h
  cases ha : (L.answer id c w.library).1 with
  | ok v =>
    rw [ha] at h
    cases h
  | error e =>
    rw [ha] at h
    cases h
    exact Fault.ofClient_not_isRefusal e

theorem request_unrefused (c : Call) : (request L id c).Unrefused :=
  .bind (.modify _) fun _ => finish_unrefused c

theorem follow_unrefused (rule : StartRule) (ps : List TopicPartition) :
    (follow L id rule ps).Unrefused := by
  unfold follow
  split
  · exact .pure _
  · refine .bind (request_unrefused _) fun committed => ?_
    dsimp only
    split
    · exact .bind (request_unrefused _) fun _ => .bind (say_unrefused _ _ _) fun _ => .pure _
    · exact .bind (request_unrefused _) fun _ => .bind (say_unrefused _ _ _) fun _ => .pure _

theorem handle_unrefused (e : Event) : (handle L id e).Unrefused := by
  cases e with
  | delivered note => exact .modify _
  | report t r => exact .modify _
  | rebalance ps =>
    refine .bind (.bind .get fun w => ?_) fun _ => .pure _
    split
    · exact follow_unrefused _ _
    · exact .pure _
  | line l => exact .bind (.lift fun _ => LogLine.record_unrefused) fun _ => .modify _
  | stop flag => exact .modify _

theorem handleAll_unrefused (es : List Event) : (handleAll L id es).Unrefused := by
  induction es with
  | nil => exact .pure _
  | cons e es ih => exact .bind (handle_unrefused e) fun _ => ih

/-- No call refuses an argument, whatever happens while it is under way. -/
theorem invoke_unrefused (c : Call) : (invoke L id c).Unrefused := by
  intro w
  exact Raises.bind (handleAll_unrefused (begin L id c w).1) (fun _ => finish_unrefused c)
    (begin L id c w).2

theorem subscribe_unrefused (topics : List String) (rule : Option StartRule) :
    (subscribe L id topics rule).Unrefused :=
  .bind (request_unrefused _) fun _ => .modify _

theorem invoke_ok {c : Call} {w u : World σ} {v : c.Answer} (h : invoke L id c w = (.ok v, u)) :
    ∃ s, (L.answer id c s).1 = .ok v := by
  have hcall : (handleAll L id (begin L id c w).1 >>= fun _ => World.finish L id c)
      (begin L id c w).2 = (.ok v, u) := h
  obtain ⟨⟨⟩, t, -, hfinish⟩ := Action.bind_ok_cases hcall
  have hanswer := congrArg Prod.fst hfinish
  rw [finish_answer] at hanswer
  refine ⟨t.library, ?_⟩
  cases ha : (L.answer id c t.library).1 with
  | ok x =>
    rw [ha] at hanswer
    cases hanswer
    rfl
  | error e =>
    rw [ha] at hanswer
    cases hanswer

end World

/-! ## Senders -/

theorem Waiter.receipt_unrefused {w : Waiter} {f : Fault} (h : w.receipt = .error f) :
    ¬f.IsRefusal := by
  unfold receipt at h
  cases hr : w.report with
  | none =>
    rw [hr] at h
    cases h
    simp [Fault.IsRefusal, Fault.cls]
  | some r =>
    rw [hr] at h
    simp only [DeliveryReport.outcome] at h
    cases he : r.error with
    | none =>
      rw [he] at h
      cases h
    | some e =>
      simp only [he] at h
      split at h <;> cases h
      simp [Fault.IsRefusal, Fault.cls]

namespace Send

variable {σ : Type} {L : Library σ}

theorem produceFault_not_isRefusal {f : Fault} (h : ¬f.IsRefusal) :
    ¬(produceFault f).IsRefusal := by
  unfold produceFault
  split
  · split
    · exact Fault.wrapping_not_isRefusal (fun e => by simp [Fault.IsRefusal, Fault.cls]) _ _
    · exact h
  · split
    · simp [Fault.IsRefusal, Fault.cls]
    · exact h

/-- A sender has not ended in a refusal. -/
def Unrefused (s : Send) : Prop :=
  ∀ f, s.stage = .finished (.error f) → ¬f.IsRefusal

theorem step_unrefused {s : Send} (hs : s.Unrefused) (w : World σ) : (s.step L w).1.Unrefused := by
  unfold step
  split
  · intro f h
    cases h
  · rename_i t e es _
    have he : ∀ f, (World.handle L s.client e w).1 = .error f → ¬f.IsRefusal :=
      World.handle_unrefused e w
    split <;> rename_i hr <;> intro f h <;> cases h
    exact produceFault_not_isRefusal (he _ (congrArg Prod.fst hr))
  · rename_i t _
    have hc : ∀ f, (World.finish L s.client (s.produceCall t) w).1 = .error f → ¬f.IsRefusal :=
      World.finish_unrefused _ w
    split <;> rename_i hr <;> intro f h <;> cases h
    exact produceFault_not_isRefusal (hc _ (congrArg Prod.fst hr))
  · intro f h
    cases h
  · rename_i t e es _
    have he : ∀ f, (World.handle L s.client e w).1 = .error f → ¬f.IsRefusal :=
      World.handle_unrefused e w
    split <;> rename_i hr <;> intro f h <;> cases h
    exact he _ (congrArg Prod.fst hr)
  · have hc : ∀ f, (World.finish L s.client pollCall w).1 = .error f → ¬f.IsRefusal :=
      World.finish_unrefused _ w
    split <;> rename_i hr <;> intro f h <;> cases h
    exact hc _ (congrArg Prod.fst hr)
  · intro f h
    dsimp only at h
    split at h <;> cases h
  · intro f h
    exact Waiter.receipt_unrefused (SendStage.finished.inj h)
  · exact hs

theorem run_unrefused (fuel : Nat) {s : Send} (hs : s.Unrefused) :
    (Send.run L fuel s).Unrefused := by
  induction fuel generalizing s with
  | zero => exact .pure _
  | succ fuel ih =>
    intro w f h
    unfold run at h
    split at h
    · cases h
    · rename_i f' hstage
      cases h
      exact hs _ hstage
    · exact ih (step_unrefused hs w) _ f h

end Send

end KafkaHandles
