import KafkaHandles.Proofs.Client.Recorded

/-!
# Calls that are broken off

What happens while a call is under way is dealt with up to the first fault, which breaks the call
off. The fault is that of a call by which the client follows its start rule, as the client library
raised it, or that of a log line that cannot be forwarded.
-/

namespace KafkaHandles

namespace Exchange

/-- What was asked of which client. -/
def asked (x : Exchange) : ClientId × Call :=
  (x.client, x.call)

/-- What the client library raised in the place of an answer. -/
def fault? (x : Exchange) : Option ClientFault :=
  match x.answer with
  | .error f => some f
  | .ok _ => none

end Exchange

namespace World

variable {σ α β : Type} {L : Library σ} {id : ClientId} {own : Fault → Prop}

/-! ## Outcomes -/

/-- What exchanges come to: only the last of them can have ended in a fault, and then that is the
outcome. Faults of other kinds are those of `own`. -/
inductive ComesTo (own : Fault → Prop) : List Exchange → Except Fault α → Prop
  | value {xs : List Exchange} (v : α) (h : ∀ x ∈ xs, x.fault? = none) : ComesTo own xs (.ok v)
  | own {xs : List Exchange} {f : Fault} (h : ∀ x ∈ xs, x.fault? = none) (hf : own f) :
      ComesTo own xs (.error f)
  | broken {xs : List Exchange} {x : Exchange} {g : ClientFault} (h : ∀ x ∈ xs, x.fault? = none)
      (hx : x.fault? = some g) : ComesTo own (xs ++ [x]) (.error (.ofClient g))

theorem ComesTo.after {xs ys : List Exchange} {r : Except Fault α} (h : ComesTo own ys r)
    (hxs : ∀ x ∈ xs, x.fault? = none) : ComesTo own (xs ++ ys) r := by
  have hall {zs : List Exchange} (hzs : ∀ x ∈ zs, x.fault? = none) :
      ∀ x ∈ xs ++ zs, x.fault? = none := List.forall_mem_append.mpr ⟨hxs, hzs⟩
  cases h with
  | value v h => exact .value v (hall h)
  | own h hf => exact .own (hall h) hf
  | broken h hx =>
    rw [← List.append_assoc]
    exact .broken (hall h) hx

theorem ComesTo.fine {xs : List Exchange} {v : α} (h : ComesTo own xs (.ok v)) :
    ∀ x ∈ xs, x.fault? = none := by
  cases h
  assumption

/-- Exchanges by which a client follows its start rule, between two worlds, and their outcome. -/
structure Follows (id : ClientId) (own : Fault → Prop) (w u : World (σ × List Exchange))
    (xs : List Exchange) (r : Except Fault α) : Prop where
  calls : u.calls = w.calls ++ xs.map Exchange.asked
  heard : u.heard = w.heard ++ xs
  following : ∀ x ∈ xs, x.client = id ∧ x.call.isFollowing
  outcome : ComesTo own xs r

/-- An action that ends at the first fault of its exchanges, by which a client follows its start
rule. -/
def Heeds (id : ClientId) (own : Fault → Prop) (a : Action (World (σ × List Exchange)) α) : Prop :=
  ∀ w, ∃ xs, Follows id own w (a w).2 xs (a w).1

namespace Heeds

theorem pure (v : α) : Heeds (σ := σ) id own (pure v) :=
  fun _ => ⟨[], by simp, by simp, by simp, .value v (by simp)⟩

theorem modify {f : World (σ × List Exchange) → World (σ × List Exchange)}
    (hcalls : ∀ w, (f w).calls = w.calls) (hheard : ∀ w, (f w).heard = w.heard) :
    Heeds id own (Action.modify f) :=
  fun w => ⟨[], by simp [hcalls], by simp [hheard], by simp, .value () (by simp)⟩

theorem lift {e : Except Fault α} (h : ∀ f, e = .error f → own f) :
    Heeds (σ := σ) id own (Action.lift e) := by
  refine fun w => ⟨[], by simp, by simp, by simp, ?_⟩
  cases e with
  | ok v => exact .value v (by simp)
  | error f => exact .own (by simp) (h f rfl)

theorem request {c : Call} (hc : c.isFollowing) : Heeds id own (request L.recorded id c) := by
  intro w
  obtain ⟨a, ha, hheard⟩ := request_heard L id c w
  have hnone : ∀ x ∈ ([] : List Exchange), x.fault? = none := by simp
  refine ⟨[⟨id, c, a⟩], by rw [request_calls]; rfl, hheard, by simpa using hc, ?_⟩
  rw [ha]
  cases a with
  | ok v => exact .value v (by simp [Exchange.fault?])
  | error g => exact .broken hnone rfl

theorem bind {a : Action (World (σ × List Exchange)) α}
    {next : α → Action (World (σ × List Exchange)) β} (ha : Heeds id own a)
    (hn : ∀ v, Heeds id own (next v)) : Heeds id own (a >>= next) := by
  intro w
  obtain ⟨xs, hfirst⟩ := ha w
  rw [Action.bind_apply]
  rcases haw : a w with ⟨f | v, u⟩ <;> rw [haw] at hfirst
  · refine ⟨xs, hfirst.calls, hfirst.heard, hfirst.following, ?_⟩
    cases hfirst.outcome with
    | own h hf => exact .own h hf
    | broken h hx => exact .broken h hx
  · obtain ⟨ys, hsecond⟩ := hn v u
    refine ⟨xs ++ ys, ?_, ?_, List.forall_mem_append.mpr ⟨hfirst.following, hsecond.following⟩,
      hsecond.outcome.after hfirst.outcome.fine⟩
    · rw [hsecond.calls, hfirst.calls, List.map_append, List.append_assoc]
    · rw [hsecond.heard, hfirst.heard, List.append_assoc]

theorem get : Heeds (σ := σ) id own Action.get :=
  fun w => ⟨[], by simp, by simp, by simp, .value w (by simp)⟩

end Heeds

/-! ## What happens while a call is under way -/

theorem say_heeds (logger : Logger) (level : Int) (text : String) :
    Heeds (σ := σ) id own (say logger level text) :=
  .modify (fun _ => rfl) fun _ => rfl

theorem follow_heeds (rule : StartRule) (ps : List TopicPartition) :
    Heeds id own (follow L.recorded id rule ps) := by
  unfold follow
  split
  · exact .pure ps
  · refine .bind (.request rfl) fun committed => ?_
    dsimp only
    split
    · exact .bind (.request rfl) fun _ => .bind (say_heeds _ _ _) fun _ => .pure _
    · exact .bind (.request rfl) fun _ => .bind (say_heeds _ _ _) fun _ => .pure _

/-- A log line among events cannot be forwarded. -/
def Stuck (es : List Event) (f : Fault) : Prop :=
  ∃ l, .line l ∈ es ∧ l.record Logger.client.name = .error f

theorem handle_heeds {es : List Event} {e : Event} (he : e ∈ es) :
    Heeds id (Stuck es) (handle L.recorded id e) := by
  cases e with
  | delivered note => exact .modify (by simp [Entry.call?]) fun _ => rfl
  | report t r => exact .modify (fun _ => rfl) fun _ => rfl
  | rebalance ps =>
    refine .bind (.bind .get fun w => ?_) fun _ => .pure ()
    split
    · exact follow_heeds _ _
    · exact .pure _
  | line l =>
    exact .bind (.lift fun f hf => ⟨l, he, hf⟩) fun _ => .modify (fun _ => rfl) fun _ => rfl
  | stop flag => exact .modify (calls_setStop flag) (heard_setStop flag)

theorem handleAll_heeds {es : List Event} :
    Heeds id (Stuck es) (handleAll L.recorded id es) := by
  suffices h : ∀ served, (∀ e ∈ served, e ∈ es) →
      Heeds id (Stuck es) (handleAll L.recorded id served) from h es fun _ he => he
  intro served hserved
  induction served with
  | nil => exact .pure ()
  | cons e served ih =>
    obtain ⟨he, hserved⟩ := List.forall_mem_cons.mp hserved
    exact .bind (handle_heeds he) fun _ => ih hserved

/-! ## Whole calls -/

/-- How a call ends, given what happens while it is under way. -/
inductive CallEnds (L : Library σ) (id : ClientId) (c : Call) (es : List Event)
    (w u : World (σ × List Exchange)) : Except Fault c.Answer → Prop
  /-- Nothing has broken it off, and it is answered. -/
  | answered {nested : List Exchange} {a : Except ClientFault c.Answer} {s : σ}
      (calls : u.calls = w.calls ++ (id, c) :: nested.map Exchange.asked)
      (heard : u.heard = w.heard ++ nested ++ [⟨id, c, a⟩])
      (following : ∀ x ∈ nested, x.client = id ∧ x.call.isFollowing)
      (fine : ∀ x ∈ nested, x.fault? = none) (answer : a = (L.answer id c s).1) :
      CallEnds L id c es w u (a.mapError .ofClient)
  /-- It is broken off, and it is not answered. -/
  | broken {nested : List Exchange} {f : Fault}
      (calls : u.calls = w.calls ++ (id, c) :: nested.map Exchange.asked)
      (heard : u.heard = w.heard ++ nested)
      (following : ∀ x ∈ nested, x.client = id ∧ x.call.isFollowing)
      (outcome : ComesTo (Stuck es) nested (.error f : Except Fault Unit)) :
      CallEnds L id c es w u (.error f)

theorem invoke_ends (c : Call) (w : World (σ × List Exchange)) :
    CallEnds L id c (L.serve id c w.library.1).1 w (invoke L.recorded id c w).2
      (invoke L.recorded id c w).1 := by
  have hall : Heeds id (Stuck (begin L.recorded id c w).1)
      (handleAll L.recorded id (begin L.recorded id c w).1) := handleAll_heeds
  obtain ⟨nested, hcalls, hheard, hfollowing, houtcome⟩ := hall (begin L.recorded id c w).2
  rw [begin_calls, List.append_assoc] at hcalls
  rw [begin_heard] at hheard
  unfold invoke Action.andThen
  dsimp only
  rcases h : handleAll L.recorded id (begin L.recorded id c w).1 (begin L.recorded id c w).2 with
    ⟨f | _, u⟩ <;> rw [h] at hcalls hheard houtcome
  · exact .broken hcalls hheard hfollowing houtcome
  · obtain ⟨a, ha, hanswer, hu⟩ := finish_heard L id c u
    dsimp only
    rw [ha]
    refine .answered ?_ ?_ hfollowing houtcome.fine hanswer
    · rw [finish_calls]
      exact hcalls
    · rw [hu, hheard]

/-- A call is written down last, after those that were made while it was under way, unless one of
these, or anything else, has broken it off. -/
theorem invoke_heard (c : Call) (w : World (σ × List Exchange)) :
    ∃ nested, (∀ x ∈ nested, x.client = id ∧ x.call.isFollowing) ∧
      ((∃ f, (invoke L.recorded id c w).1 = .error f ∧
        (invoke L.recorded id c w).2.heard = w.heard ++ nested) ∨
      ∃ a s, (invoke L.recorded id c w).1 = a.mapError .ofClient ∧ a = (L.answer id c s).1 ∧
        (invoke L.recorded id c w).2.heard = w.heard ++ nested ++ [⟨id, c, a⟩]) := by
  have hends : CallEnds L id c _ w (invoke L.recorded id c w).2 (invoke L.recorded id c w).1 :=
    invoke_ends c w
  rcases hinvoke : invoke L.recorded id c w with ⟨r, u⟩
  rw [hinvoke] at hends
  cases hends with
  | answered calls heard following fine answer =>
    exact ⟨_, following, Or.inr ⟨_, _, rfl, answer, heard⟩⟩
  | broken calls heard following outcome => exact ⟨_, following, Or.inl ⟨_, rfl, heard⟩⟩

end World

end KafkaHandles
