import KafkaHandles.Proofs.Client.Calls
import KafkaHandles.Proofs.Producer.Flushing

/-!
# What the operations of a producer come to

One equation for every operation, checks first, and the calls they make: a producer that is open
asks only its own client, and one that is destroyed asks nobody.
-/

namespace KafkaHandles

/-- The calls that a producer makes before it is destroyed, with those by which clients follow a
start rule. -/
def Call.isSending : Call → Bool
  | .produce .. | .pollReports _ | .flush _ | .outstanding => true
  | c => c.isFollowing

theorem Call.isSending_of_isFollowing {c : Call} (h : c.isFollowing) : c.isSending := by
  cases c <;> simp_all [isSending, isFollowing]

variable {σ : Type} {L : Library σ}

namespace Producer

theorem send_apply (fuel : Nat) (topic value key partition : Value) (p : Producer) (w : World σ) :
    send L fuel topic value key partition (p, w) =
      match openClient .producer p.client with
      | .error f => (.error f, (p, w))
      | .ok id => match Outgoing.check topic value key partition with
        | .error f => (.error f, (p, w))
        | .ok m => match Send.run L fuel { client := id, message := m } w with
          | (r, w) => (r, (p, w)) := by
  simp only [send, native, Action.bind_apply, Action.get_apply, Action.lift_apply]
  rcases openClient .producer p.client with f | id
  · rfl
  rcases Outgoing.check topic value key partition with f | m
  · rfl
  · rfl

theorem send_open {p : Producer} {id : ClientId} (hopen : p.client = some id)
    {topic value key partition : Value} {m : Outgoing}
    (hm : Outgoing.check topic value key partition = .ok m) (fuel : Nat) (w : World σ) :
    send L fuel topic value key partition (p, w) =
      ((Send.run L fuel { client := id, message := m } w).1, p,
        (Send.run L fuel { client := id, message := m } w).2) := by
  rw [send_apply, hopen]
  simp only [openClient, hm]

theorem flush_apply (timeout : Value) (p : Producer) (w : World σ) :
    flush L timeout (p, w) =
      match openClient .producer p.client with
      | .error f => (.error f, (p, w))
      | .ok id => match Check.timeout timeout "timeout" with
        | .error f => (.error f, (p, w))
        | .ok t => match World.invoke L id (.flush t) w with
          | (.ok left, w) => (Flush.verdict left, (p, w))
          | (.error f, w) => (.error f, (p, w)) := by
  simp only [flush, native, Action.bind_apply, Action.get_apply, Action.lift_apply]
  rcases openClient .producer p.client with f | id
  · rfl
  rcases Check.timeout timeout "timeout" with f | t
  · rfl
  simp only [Action.onSecond]
  rcases World.invoke L id (.flush t) w with ⟨f | left, u⟩
  · rfl
  · dsimp only [Flush.verdict]
    split <;> rfl

theorem size_apply (p : Producer) (w : World σ) :
    size L (p, w) =
      match openClient .producer p.client with
      | .error f => (.error f, (p, w))
      | .ok id => match World.invoke L id .outstanding w with
        | (r, w) => (r, (p, w)) := by
  simp only [size, native, Action.bind_apply, Action.get_apply, Action.lift_apply]
  rcases openClient .producer p.client with f | id
  · rfl
  · rfl

theorem destroy_closed {p : Producer} (h : p.client = none) (w : World σ) :
    destroy L (p, w) = (.ok (), (p, w)) := by
  simp [destroy, Action.bind_apply, h]

theorem destroy_open {p : Producer} {id : ClientId} (h : p.client = some id) (w : World σ) :
    destroy L (p, w) =
      match World.invoke L id (.purge true true false) w with
      | (.error f, w) => (.error f, (⟨none⟩, w))
      | (.ok _, w) => match World.invoke L id (.pollReports .instant) w with
        | (.error f, w) => (.error f, (⟨none⟩, w))
        | (.ok _, w) =>
          (.ok (), (⟨none⟩, (World.say .producer LogLevel.info "Destroyed producer" w).2)) := by
  simp only [destroy, Action.bind_apply, Action.get_apply, h, Action.modify_apply, Action.onSecond]
  rcases World.invoke L id (.purge true true false) w with ⟨f | _, u⟩
  · rfl
  dsimp only
  rcases World.invoke L id (.pollReports .instant) u with ⟨f | _, v⟩
  · rfl
  · rfl

/-- Destroying an open producer whose client holds no start rule is one call, and a second one
unless that fails. -/
theorem destroy_calls {p : Producer} {id : ClientId} (h : p.client = some id) {w : World σ}
    (hrule : w.rule? id = none) :
    ∃ rest, (destroy L (p, w)).2.2.calls = w.calls ++ (id, .purge true true false) :: rest ∧
      (rest = [] ∨ rest = [(id, .pollReports .instant)]) := by
  have hpurged := World.invoke_calls_of_rule_none (L := L) (.purge true true false) hrule
  have hrules : (World.invoke L id (.purge true true false) w).2.rules = w.rules :=
    World.invoke_rules _ w
  rw [destroy_open h]
  rcases hpurge : World.invoke L id (.purge true true false) w with ⟨f | _, u⟩ <;>
    rw [hpurge] at hpurged hrules
  · exact ⟨[], hpurged, Or.inl rfl⟩
  · have hserved := World.invoke_calls_of_rule_none (L := L) (.pollReports .instant)
      ((World.rule?_of_rules hrules).trans hrule)
    rw [hpurged, List.append_assoc] at hserved
    refine ⟨_, ?_, Or.inr rfl⟩
    dsimp only
    rcases hserve : World.invoke L id (.pollReports .instant) u with ⟨f | _, v⟩ <;>
      rw [hserve] at hserved <;> exact hserved

end Producer

/-! ## Calls of a sender -/

namespace Send

theorem step_client (s : Send) (w : World σ) : (s.step L w).1.client = s.client := by
  unfold step
  split
  · rfl
  · split <;> rfl
  · split <;> rfl
  · rfl
  · split <;> rfl
  · split <;> rfl
  · rfl
  · rfl
  · rfl

section Within

variable {R : World σ → World σ → Prop} [IsPreorder (World σ) R] {s : Send}

/-- A step of a sender respects a relation if the parts of its calls do. -/
theorem step_within (hwaiter : ∀ w : World σ, R w w.addWaiter.2)
    (hbegin : ∀ c w, c.isSending → R w (World.begin L s.client c w).2)
    (hhandle : ∀ e w, R w (World.handle L s.client e w).2)
    (hfinish : ∀ c w, R w (World.finish L s.client c w).2) (w : World σ) :
    R w (s.step L w).2 := by
  unfold step
  split
  · exact trans_of R (hwaiter w) (hbegin _ _ rfl)
  · rename_i t e es _
    have h := hhandle e w
    split <;> rename_i he <;> rw [he] at h <;> exact h
  · rename_i t _
    have h := hfinish (s.produceCall t) w
    split <;> rename_i hc <;> rw [hc] at h <;> exact h
  · exact hbegin _ _ rfl
  · rename_i t e es _
    have h := hhandle e w
    split <;> rename_i he <;> rw [he] at h <;> exact h
  · have h := hfinish pollCall w
    split <;> rename_i hc <;> rw [hc] at h <;> exact h
  · exact refl_of R w
  · exact refl_of R w
  · exact refl_of R w

theorem run_within {id : ClientId} (hwaiter : ∀ w : World σ, R w w.addWaiter.2)
    (hbegin : ∀ c w, c.isSending → R w (World.begin L id c w).2)
    (hhandle : ∀ e w, R w (World.handle L id e w).2)
    (hfinish : ∀ c w, R w (World.finish L id c w).2) (fuel : Nat) (hs : s.client = id) :
    (Send.run L fuel s).Within R := by
  intro w
  induction fuel generalizing s w with
  | zero => exact refl_of R w
  | succ fuel ih =>
    subst hs
    have hstep := step_within hwaiter hbegin hhandle hfinish w
    unfold run
    split
    · exact refl_of R w
    · exact refl_of R w
    · exact trans_of R hstep (ih (s.step_client w) _)

end Within

theorem run_asks (fuel : Nat) (s : Send) (w : World σ) :
    World.Asks (some s.client) (·.isSending) w (Send.run L fuel s w).2 := by
  refine run_within (R := World.Asks (some s.client) (·.isSending))
    (fun _ => World.asks_of_eq rfl) (fun c w hc => ?_) (fun e w => ?_)
    (fun c w => World.asks_of_eq (World.finish_calls c w)) fuel rfl w
  · exact Action.Adds.one (World.begin_calls c w) ⟨rfl, hc⟩
  · exact (World.handle_asks e w).mono fun _ h => ⟨h.1, Call.isSending_of_isFollowing h.2⟩

theorem run_rules (fuel : Nat) (s : Send) (w : World σ) :
    (Send.run L fuel s w).2.rules = w.rules :=
  run_within (R := Action.Same World.rules) (fun _ => rfl) (fun _ _ _ => rfl)
    (fun e w => World.handle_rules e w)
    (fun c w => by rw [Action.Same, World.finish_state]) fuel rfl w

end Send

/-! ## Calls of a producer -/

namespace Producer

/-- What a producer does before it is destroyed: only calls on its own client, and no start rule
changes. -/
structure Uses (t u : Producer × World σ) : Prop where
  handle : u.1 = t.1
  asks : World.Asks t.1.client (·.isSending) t.2 u.2
  rules : u.2.rules = t.2.rules

theorem Uses.refl (t : Producer × World σ) : Uses t t :=
  ⟨rfl, World.asks_of_eq rfl, rfl⟩

theorem uses_invoke {p : Producer} {id : ClientId} (h : p.client = some id) {c : Call}
    (hc : c.isSending) (w : World σ) : Uses (p, w) (p, (World.invoke L id c w).2) :=
  ⟨rfl, h ▸ World.invoke_asks hc (fun _ => Call.isSending_of_isFollowing) w,
    World.invoke_rules c w⟩

theorem send_uses (fuel : Nat) (topic value key partition : Value) (t : Producer × World σ) :
    Uses t (send L fuel topic value key partition t).2 := by
  obtain ⟨p, w⟩ := t
  rw [send_apply]
  cases hp : p.client with
  | none => exact .refl _
  | some id =>
    dsimp only [openClient]
    cases Outgoing.check topic value key partition with
    | error f => exact .refl _
    | ok m => exact ⟨rfl, hp ▸ Send.run_asks fuel _ w, Send.run_rules fuel _ w⟩

theorem flush_uses (timeout : Value) (t : Producer × World σ) : Uses t (flush L timeout t).2 := by
  obtain ⟨p, w⟩ := t
  rw [flush_apply]
  cases hp : p.client with
  | none => exact .refl _
  | some id =>
    dsimp only [openClient]
    cases Check.timeout timeout "timeout" with
    | error f => exact .refl _
    | ok seconds =>
      have h := uses_invoke (L := L) hp (c := .flush seconds) rfl w
      dsimp only
      split <;> rename_i hi <;> rw [hi] at h <;> exact h

theorem size_uses (t : Producer × World σ) : Uses t (size L t).2 := by
  obtain ⟨p, w⟩ := t
  rw [size_apply]
  cases hp : p.client with
  | none => exact .refl _
  | some id => exact uses_invoke hp rfl w

end Producer

end KafkaHandles
