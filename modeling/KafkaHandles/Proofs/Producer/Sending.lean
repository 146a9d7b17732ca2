import KafkaHandles.Proofs.Client.Faults
import KafkaHandles.Proofs.Message
import KafkaHandles.Proofs.Producer.Course
import KafkaHandles.Proofs.Waiter

/-!
# What a send comes to

A send that nobody disturbs is its course and the first report on its message: it goes on to poll
until such a report has been served, and this report alone decides whether it gives a receipt or a
broker error. What the client raises ends it at once.
-/

namespace KafkaHandles

variable {σ : Type} {L : Library σ}

/-! ## Valid arguments -/

/-- The bytes that a value stands for: its own, or the UTF-8 of a text. -/
inductive Value.Carries : Value → Bytes → Prop
  | text (s : String) : Carries (.text s) (Utf8.ofText s)
  | bytes (bs : Bytes) : Carries (.bytes bs) bs
  | buffer (bs : Bytes) : Carries (.buffer bs) bs
  | view (bs : Bytes) : Carries (.view bs) bs

/-- Valid arguments of a send, with the message that they describe. -/
structure SendArguments.Describe (a : SendArguments) (m : Outgoing) : Prop where
  topic : a.topic = .text m.topic ∧ ¬(Text.strip m.topic).isEmpty
  value : ∃ bs, a.value.Carries bs ∧ m.value = .bytes bs
  key : (a.key = .none ∧ m.key = .none) ∨ ∃ bs, a.key.Carries bs ∧ m.key = .bytes bs
  partition : (a.partition = .none ∧ m.partition = none) ∨
    ∃ n, a.partition = .int n ∧ 0 ≤ n ∧ m.partition = some n

theorem Check.bytesOrNone_some {v : Value} {parameter : String} {bs : Bytes} :
    bytesOrNone v parameter = .ok (some bs) ↔ v.Carries bs := by
  constructor
  · intro h
    cases v <;> cases h <;> constructor
  · rintro (_ | _ | _ | _) <;> rfl

theorem Check.bytesOrNone_none {v : Value} {parameter : String} :
    bytesOrNone v parameter = .ok none ↔ v = .none := by
  constructor
  · intro h
    cases v <;> cases h
    rfl
  · rintro rfl
    rfl

theorem Outgoing.partitionOf_ok {v : Value} {p : Option Int} :
    partitionOf v = .ok p ↔
      (v = .none ∧ p = none) ∨ ∃ n, v = .int n ∧ 0 ≤ n ∧ p = some n := by
  constructor
  · intro h
    unfold partitionOf at h
    split at h
    · cases h
      exact Or.inl ⟨rfl, rfl⟩
    · rcases hn : Check.natural v "partition" with f | n <;> rw [hn] at h <;> cases h
      obtain ⟨rfl, hnonneg⟩ := Check.natural_ok.mp hn
      exact Or.inr ⟨n, rfl, hnonneg, rfl⟩
  · rintro (⟨rfl, rfl⟩ | ⟨n, rfl, hn, rfl⟩)
    · rfl
    · show (Check.natural (.int n) "partition").map some = _
      rw [Check.natural_ok.mpr ⟨rfl, hn⟩]
      rfl

/-- The arguments that pass the checks are the valid ones. -/
theorem SendArguments.check_ok {a : SendArguments} {m : Outgoing} :
    Outgoing.check a.topic a.value a.key a.partition = .ok m ↔ a.Describe m := by
  rw [Outgoing.check_ok]
  constructor
  · rintro ⟨t, v, k, p, ht, hv, hk, hp, rfl⟩
    refine ⟨Check.text_ok.mp ht, ⟨v, Check.bytesOrNone_some.mp hv, rfl⟩, ?_,
      Outgoing.partitionOf_ok.mp hp⟩
    cases k with
    | none => exact Or.inl ⟨Check.bytesOrNone_none.mp hk, rfl⟩
    | some bs => exact Or.inr ⟨bs, Check.bytesOrNone_some.mp hk, rfl⟩
  · rintro ⟨ht, ⟨v, hv, hvalue⟩, hk, hp⟩
    obtain ⟨k, hk, hkey⟩ : ∃ k, Check.bytesOrNone a.key "key" = .ok k ∧
        m.key = bytesOrAbsent k := by
      rcases hk with ⟨hnone, hkey⟩ | ⟨bs, hbs, hkey⟩
      · exact ⟨none, Check.bytesOrNone_none.mpr hnone, hkey⟩
      · exact ⟨some bs, Check.bytesOrNone_some.mpr hbs, hkey⟩
    refine ⟨m.topic, v, k, m.partition, Check.text_ok.mpr ht, Check.bytesOrNone_some.mpr hv, hk,
      Outgoing.partitionOf_ok.mpr hp, ?_⟩
    rw [← hvalue, ← hkey]

/-! ## Faults of taking a message -/

namespace Send

variable {f : Fault} {c : GeneralClass} {text : String}

theorem produceFault_of_clientError {e : ClientError} (h : f.clientError? = some e) :
    produceFault f = .broker e := by
  unfold produceFault
  split
  · cases h
  · simp only [h]

theorem produceFault_of_full (hc : (FaultClass.general c).isBuffer = true)
    (h : Char.ofNat 0 ∉ text.toList) :
    produceFault (.raised c text) = .broker ⟨-184, text, false, false⟩ :=
  (if_pos hc).trans (Fault.wrapping_told h)

theorem produceFault_of_nul (hc : (FaultClass.general c).isBuffer = true)
    (h : Char.ofNat 0 ∈ text.toList) : produceFault (.raised c text) = .textHoldsNul :=
  (if_pos hc).trans (Fault.wrapping_untold h)

theorem produceFault_of_broken (h : f.clientError? = none)
    (hfull : ∀ c text, f = .raised c text → (FaultClass.general c).isBuffer = false) :
    produceFault f = f := by
  unfold produceFault
  split
  · rename_i c text
    simp [hfull c text rfl]
  · simp only [h]

end Send

/-! ## Sends -/

namespace Producer

/-- A send with enough steps has an outcome and leaves the world as `u`. -/
def Ends (L : Library σ) (p : Producer) (a : SendArguments) (w : World σ)
    (r : Except Fault Receipt) (u : World σ) : Prop :=
  ∃ enough, ∀ fuel > enough,
    send L fuel a.topic a.value a.key a.partition (p, w) = (r.map some, (p, u))

/-- A send comes to an outcome after `k` polls: it has made the call that puts its message into the
queue, then these polls, and no other call. -/
def EndsAfter (L : Library σ) (p : Producer) (id : ClientId) (a : SendArguments) (m : Outgoing)
    (w : World σ) (k : Nat) (r : Except Fault Receipt) : Prop :=
  ∃ u, Ends L p a w r u ∧
    World.Makes id (.produce m (some w.waiters.length) :: List.replicate k Send.pollCall) w u

/-- How a send goes, told by the calls of its course and the reports on its message that they
serve. -/
structure Sends (L : Library σ) (p : Producer) (id : ClientId) (a : SendArguments) (m : Outgoing)
    (w : World σ) : Prop where
  /-- An error of the client in taking the message is told as a broker error, whole. -/
  refused : ∀ f e, (Send.course L id m 0 w).1 = .error f → f.clientError? = some e →
    EndsAfter L p id a m w 0 (.error (.broker e))
  /-- So is a full buffer, of any class that is part of this one, with its text as the reason. -/
  full : ∀ c text, (Send.course L id m 0 w).1 = .error (.raised c text) →
    (FaultClass.general c).isBuffer = true → Char.ofNat 0 ∉ text.toList →
    EndsAfter L p id a m w 0 (.error (.broker ⟨-184, text, false, false⟩))
  /-- But a text that holds a NUL cannot be a reason. -/
  fullWithNul : ∀ c text, (Send.course L id m 0 w).1 = .error (.raised c text) →
    (FaultClass.general c).isBuffer = true → Char.ofNat 0 ∈ text.toList →
    EndsAfter L p id a m w 0 (.error .textHoldsNul)
  /-- Any other fault in taking the message is passed on. -/
  broken : ∀ f, (Send.course L id m 0 w).1 = .error f → f.clientError? = none →
    (∀ c text, f = .raised c text → (FaultClass.general c).isBuffer = false) →
    EndsAfter L p id a m w 0 (.error f)
  /-- If the first report is an error, it is told as a broker error. -/
  failed : ∀ k r e, (Send.course L id m (max 1 k) w).1 = .ok () →
    (∀ j < k, Send.reports L id m w j = []) → (Send.reports L id m w k).head? = some r →
    r.error = some e → e.code ≠ 0 → EndsAfter L p id a m w (max 1 k) (.error (.broker e))
  /-- If the first report is none, it gives a receipt. -/
  delivered : ∀ k r, (Send.course L id m (max 1 k) w).1 = .ok () →
    (∀ j < k, Send.reports L id m w j = []) → (Send.reports L id m w k).head? = some r →
    (∀ e, r.error = some e → e.code = 0) →
    EndsAfter L p id a m w (max 1 k) (.ok (r.place.getD ⟨-1, -1⟩))
  /-- A fault of a poll is passed on, also if that poll has served a report. -/
  interrupted : ∀ k f, (Send.course L id m k w).1 = .ok () →
    (k = 0 ∨ Send.reports L id m w k = []) → (Send.course L id m (k + 1) w).1 = .error f →
    EndsAfter L p id a m w (k + 1) (.error f)
  /-- Without a report and without a fault there is no end. -/
  endless : (∀ k, (Send.course L id m k w).1 = .ok () ∧ Send.reports L id m w k = []) →
    ∀ fuel, (send L fuel a.topic a.value a.key a.partition (p, w)).1 = .ok none

variable {p : Producer} {id : ClientId} {a : SendArguments} {m : Outgoing} {w : World σ}

theorem endsAfter_of_after (hopen : p.client = some id) (ha : a.Describe m) {k n : Nat}
    {r : Except Fault Receipt} {u : World σ}
    (h : Send.after L n ⟨id, m, .ready⟩ w = (⟨id, m, .finished r⟩, u))
    (hu : u = (Send.course L id m k w).2) (hk : ∀ j < k, (Send.course L id m j w).1 = .ok ()) :
    EndsAfter L p id a m w k r := by
  refine ⟨u, ⟨n, fun fuel hfuel => ?_⟩, hu ▸ Send.course_makes hk⟩
  have hstage : (Send.after L n ⟨id, m, .ready⟩ w).1.stage = .finished r := by rw [h]
  have hreply := Send.run_reply_of_after hfuel hstage
  obtain ⟨i, rfl⟩ := Nat.exists_eq_add_of_lt hfuel
  have hworld : (Send.run L (n + i + 1) ⟨id, m, .ready⟩ w).2 = u := by
    rw [Send.run_world, Nat.add_assoc, Send.after_add, Send.after_finished hstage, h]
  rw [send_open hopen (SendArguments.check_ok.mpr ha)]
  exact Prod.ext hreply (congrArg (Prod.mk p) hworld)

theorem endsAfter_refused (hopen : p.client = some id) (ha : a.Describe m) {f : Fault}
    (h : (Send.course L id m 0 w).1 = .error f) :
    EndsAfter L p id a m w 0 (.error (Send.produceFault f)) := by
  obtain ⟨n, hn⟩ := Send.course_refused (Prod.ext h rfl)
  exact endsAfter_of_after hopen ha hn rfl nofun

theorem endsAfter_reported (hopen : p.client = some id) (ha : a.Describe m) {k : Nat}
    {r : DeliveryReport} (h : (Send.course L id m (max 1 k) w).1 = .ok ())
    (hbefore : ∀ j < k, Send.reports L id m w j = [])
    (hr : (Send.reports L id m w k).head? = some r) :
    EndsAfter L p id a m w (max 1 k) r.outcome := by
  have hbelow : ∀ j < max 1 k, (Send.course L id m j w).1 = .ok () :=
    fun j hj => Send.course_ok_of_le h (Nat.le_of_lt hj)
  cases k with
  | zero =>
    -- the waiter is not looked at before the first poll, which may add reports to this one
    have hfirst : (Send.reports L id m w (0 + 1)).head? = some r := by
      rw [Send.reports, List.head?_append, hr]
      rfl
    obtain ⟨n, hn⟩ := Send.course_reported (Prod.ext h rfl) (Or.inl rfl) hfirst
    exact endsAfter_of_after hopen ha hn rfl hbelow
  | succ k =>
    rw [Nat.max_eq_right (Nat.le_add_left 1 k)] at h hbelow ⊢
    obtain ⟨n, hn⟩ :=
      Send.course_reported (Prod.ext h rfl) (Or.inr (hbefore k (Nat.lt_succ_self k))) hr
    exact endsAfter_of_after hopen ha hn rfl hbelow

theorem endsAfter_interrupted (hopen : p.client = some id) (ha : a.Describe m) {k : Nat} {f : Fault}
    (h : (Send.course L id m k w).1 = .ok ()) (hk : k = 0 ∨ Send.reports L id m w k = [])
    (hf : (Send.course L id m (k + 1) w).1 = .error f) :
    EndsAfter L p id a m w (k + 1) (.error f) := by
  have hcourse : Send.course L id m k w = (.ok (), (Send.course L id m k w).2) := Prod.ext h rfl
  have hsucc := Send.course_succ_ok hcourse
  have hpoll : (World.invoke L id Send.pollCall (Send.course L id m k w).2).1 = .error f := by
    rw [hsucc] at hf
    rcases hr : (World.invoke L id Send.pollCall (Send.course L id m k w).2).1 with f' | v <;>
      rw [hr] at hf <;> cases hf
    rfl
  obtain ⟨n, hn⟩ := Send.course_failed hcourse hk (Prod.ext hpoll rfl)
  exact endsAfter_of_after hopen ha hn (by rw [hsucc])
    fun j hj => Send.course_ok_of_le h (Nat.lt_succ_iff.mp hj)

/-- A send makes one call that puts its message into the queue: with the text of the topic, with
owned bytes for the value and for the key if there is one, and with the partition that was given.
Then it polls at least once, until a report on its message has been served, and the first such
report decides the outcome. -/
theorem send_ends_with_first_report (L : Library σ) {p : Producer} {id : ClientId}
    (hopen : p.client = some id) {a : SendArguments} {m : Outgoing} (ha : a.Describe m)
    (w : World σ) : Sends L p id a m w where
  refused f e hf he := by
    have hsaid := endsAfter_refused hopen ha hf
    rwa [Send.produceFault_of_clientError he] at hsaid
  full c text hf hc hnul := by
    have hsaid := endsAfter_refused hopen ha hf
    rwa [Send.produceFault_of_full hc hnul] at hsaid
  fullWithNul c text hf hc hnul := by
    have hsaid := endsAfter_refused hopen ha hf
    rwa [Send.produceFault_of_nul hc hnul] at hsaid
  broken f hf he hfull := by
    have hsaid := endsAfter_refused hopen ha hf
    rwa [Send.produceFault_of_broken he hfull] at hsaid
  failed k r e h hbefore hr he hcode := by
    have hended := endsAfter_reported hopen ha h hbefore hr
    rwa [DeliveryReport.outcome_of_error he hcode] at hended
  delivered k r h hbefore hr hsuccess := by
    have hended := endsAfter_reported hopen ha h hbefore hr
    rwa [DeliveryReport.outcome_of_success hsuccess] at hended
  interrupted k f h hk hf := endsAfter_interrupted hopen ha h hk hf
  endless h fuel := by
    rw [send_open hopen (SendArguments.check_ok.mpr ha)]
    cases fuel with
    | zero => rfl
    | succ n =>
      show (Send.run L (n + 1) ⟨id, m, .ready⟩ w).1 = .ok none
      rw [Send.run_reply, Send.reply, Send.course_endless h n]

/-- The world of one scripted producer. -/
def scriptedWorld (script : Script) : World Scripted :=
  { library := { clients := [{ label := "p", role := .producer, script }] }, rules := [none] }

/-- A message that is delivered at the first poll. -/
theorem message_is_sent_in_one_poll :
    let plan : DeliveryPlan := { partition := some 3, offset := some 7 }
    let w := scriptedWorld { plans := [plan] }
    let a : SendArguments := ⟨.text "jobs", .bytes [118], .none, .int 3⟩
    let m : Outgoing := ⟨"jobs", .bytes [118], .none, some 3⟩
    a.Describe m ∧ EndsAfter Scripted.library ⟨some 0⟩ 0 a m w 1 (.ok ⟨3, 7⟩) := by
  intro plan w a m
  have ha : a.Describe m := ⟨⟨rfl, by decide⟩, ⟨_, .bytes _, rfl⟩, Or.inl ⟨rfl, rfl⟩,
    Or.inr ⟨3, rfl, by decide, rfl⟩⟩
  let queued : ScriptedClient :=
    { label := "p", role := .producer, script := {}, pending := [⟨"jobs", 3, some 0, plan, 0⟩] }
  let u : World Scripted :=
    { library := { clients := [queued] }, journal := [.called 0 (.produce m (some 0))]
      waiters := [.start], rules := [none] }
  have hproduce : Send.course Scripted.library 0 m 0 w = (.ok (), u) := rfl
  have hpoll : (Send.course Scripted.library 0 m 1 w).1 = .ok () := by
    rw [Send.course_succ_ok hproduce]
    rfl
  have hbefore : ∀ j < 1, Send.reports Scripted.library 0 m w j = [] := by
    intro j hj
    rw [Nat.lt_one_iff.mp hj]
    rfl
  have hreported : (Send.reports Scripted.library 0 m w 1).head? = some ⟨none, some ⟨3, 7⟩⟩ := by
    rw [Send.reports, hbefore 0 (by decide), hproduce]
    rfl
  exact ⟨ha, (send_ends_with_first_report Scripted.library rfl ha w).delivered 1
    ⟨none, some ⟨3, 7⟩⟩ hpoll hbefore hreported (by simp)⟩

/-- A full buffer that the client tells of in a text with a NUL. -/
theorem full_buffer_with_nul_is_not_told :
    let text := String.ofList ['a', Char.ofNat 0, 'b']
    let w := scriptedWorld { faults := [(.produce, some (.raised .buffer text))] }
    let a : SendArguments := ⟨.text "t", .bytes [118], .none, .none⟩
    let m : Outgoing := ⟨"t", .bytes [118], .none, none⟩
    a.Describe m ∧ (Send.course Scripted.library 0 m 0 w).1 = .error (.raised .buffer text) ∧
      EndsAfter Scripted.library ⟨some 0⟩ 0 a m w 0 (.error .textHoldsNul) ∧
      ∀ e, Fault.textHoldsNul ≠ .broker e := by
  intro text w a m
  have ha : a.Describe m := ⟨⟨rfl, by decide⟩, ⟨_, .bytes _, rfl⟩, Or.inl ⟨rfl, rfl⟩,
    Or.inl ⟨rfl, rfl⟩⟩
  have hraised : (Send.course Scripted.library 0 m 0 w).1 = .error (.raised .buffer text) := rfl
  have hended := endsAfter_refused (p := ⟨some 0⟩) rfl ha hraised
  rw [Send.produceFault_of_nul rfl (by decide)] at hended
  exact ⟨ha, hraised, hended, fun _ => nofun⟩

end Producer

end KafkaHandles
