import KafkaHandles.Host
import KafkaHandles.Proofs.Client.Faults
import KafkaHandles.Proofs.Consumer.Operations
import KafkaHandles.Proofs.Producer.Operations

/-!
# Timeouts

What is given as a timeout is refused, or it reaches a client as a number from zero on. Two kinds of
values are the exception. A float that is no number is not below zero and passes every check, and an
integer beyond the floats ends the check that would make it one.
-/

namespace KafkaHandles

/-- A float that is no number. -/
@[simp] def Value.IsNaN : Value → Prop
  | .float x _ => x.isNaN
  | _ => False

/-- An integer beyond the floats. -/
@[simp] def Value.IsBeyondFloat : Value → Prop
  | .int n => (Number.floatBound : Int) ≤ n
  | _ => False

namespace Check

/-- A check ends in a refusal, or in a value with a property. -/
def Settles {α : Type} (P : α → Prop) : Except Fault α → Prop
  | .ok x => P x
  | .error f => f.IsRefusal

section Settles

variable {α : Type} {P : α → Prop}

@[simp] theorem settles_ok {x : α} : Settles P (.ok x) ↔ P x :=
  Iff.rfl

@[simp] theorem settles_refused {r : Refusal} : Settles P (.error (.refused r)) :=
  rfl

@[simp] theorem not_settles_beyond : ¬Settles P (.error .integerBeyondFloat) := by
  simp [Settles, Fault.IsRefusal, Fault.cls]

end Settles

/-! ## Integers as floats -/

theorem toFloat_within {n : Int} (hn : 0 ≤ n) (h : n < Number.floatBound) :
    ∃ x, toFloat n = .ok x ∧ x.negative = false ∧ x.isNaN = false := by
  cases hx : Binary64.ofInt? n with
  | none =>
    have hbeyond := Binary64.ofInt?_eq_none_iff.mp hx
    omega
  | some x =>
    refine ⟨x, ?_, Binary64.ofInt?_nonneg hn hx⟩
    simp only [toFloat, hx]

theorem toFloat_beyond {n : Int} (h : Number.floatBound ≤ n) :
    toFloat n = .error .integerBeyondFloat := by
  have hnone : Binary64.ofInt? n = none := by
    apply Binary64.ofInt?_eq_none_iff.mpr
    omega
  simp only [toFloat, hnone]

/-! ## The two checks -/

theorem timeout_nan {x : Binary64} {i : Nat} (h : x.isNaN) (parameter : String) :
    timeout (.float x i) parameter = .ok (some x) := by
  have hx : x.ltInt 0 = false := by simp [Binary64.ltInt, Binary64.compareInt?, h]
  simp [timeout, hx]

theorem timeout_beyond {n : Int} (h : Number.floatBound ≤ n) (parameter : String) :
    timeout (.int n) parameter = .error .integerBeyondFloat := by
  have hn : ¬n < 0 := by omega
  simp [timeout, hn, toFloat_beyond h, Except.map]

theorem milliseconds_beyond {n : Int} (h : Number.floatBound ≤ n) :
    milliseconds (.int n) = .error .integerBeyondFloat := by
  have hn : ¬n < 0 := by omega
  simp [milliseconds, integer, bind, Except.bind, hn, toFloat_beyond h]

theorem timeout_eq_none_iff {v : Value} {parameter : String} :
    timeout v parameter = .ok none ↔ v = .none := by
  constructor
  · intro h
    cases v with
    | none => rfl
    | int n =>
      simp only [timeout] at h
      split at h
      · cases h
      · cases hx : toFloat n <;> simp [hx, Except.map] at h
    | float x =>
      simp only [timeout] at h
      split at h <;> cases h
    | _ => cases h
  · rintro rfl
    rfl

theorem timeout_settles_iff {v : Value} (parameter : String) :
    Settles (fun s => ∀ x, s = some x → x.geInt 0) (timeout v parameter) ↔
      ¬v.IsNaN ∧ ¬v.IsBeyondFloat := by
  cases v with
  | none => simp [timeout]
  | int n =>
    by_cases hbeyond : Number.floatBound ≤ n
    · simp [timeout_beyond hbeyond, hbeyond]
    · rcases Int.lt_or_le n 0 with hn | hn
      · simp [timeout, hn, hbeyond]
      · obtain ⟨x, hx, hsign, hnumber⟩ := toFloat_within hn (Int.not_le.mp hbeyond)
        have hge : x.geInt 0 := Binary64.geInt_iff.mpr ⟨hnumber, Binary64.ltInt_zero hsign⟩
        simp [timeout, Int.not_lt.mpr hn, hx, Except.map, hge, hbeyond]
  | float x i =>
    cases hnumber : x.isNaN with
    | true => simp [timeout_nan hnumber, Binary64.geInt_iff, hnumber]
    | false =>
      cases hx : x.ltInt 0 with
      | true => simp [timeout, hx, hnumber]
      | false => simp [timeout, hx, Binary64.geInt_iff, hnumber]
  | _ => simp [timeout]

theorem milliseconds_settles_iff {v : Value} :
    Settles (fun x => x.geInt 0) (milliseconds v) ↔ ¬v.IsBeyondFloat := by
  cases v with
  | int n =>
    by_cases hbeyond : Number.floatBound ≤ n
    · simp [milliseconds_beyond hbeyond, hbeyond]
    · rcases Int.lt_or_le n 0 with hn | hn
      · simp [milliseconds, integer, bind, Except.bind, hn, hbeyond]
      · obtain ⟨x, hx, hsign, -⟩ := toFloat_within hn (Int.not_le.mp hbeyond)
        have hge : (x.divNat 1000).geInt 0 := Binary64.geInt_iff.mpr
          ⟨Binary64.isNaN_divNat hsign 1000,
            Binary64.ltInt_zero (Binary64.negative_divNat hsign 1000)⟩
        simp [milliseconds, integer, bind, Except.bind, Int.not_lt.mpr hn, hx, hge, hbeyond]
  | _ => simp [milliseconds, integer, bind, Except.bind]

theorem geInt_of_milliseconds {v : Value} {x : Binary64} (h : milliseconds v = .ok x) :
    x.geInt 0 := by
  by_cases hv : v.IsBeyondFloat
  · cases v with
    | int n =>
      rw [milliseconds_beyond hv] at h
      cases h
    | _ => cases hv
  · have hsettles := milliseconds_settles_iff.mpr hv
    rwa [h, settles_ok] at hsettles

end Check

/-! ## The calls that they bound -/

/-- The timeout that an operation hands on to a call. -/
def Call.timeout? : Call → Option Binary64
  | .pollReports (.atMost x) | .pollMessage (.atMost x) => some x
  | .flush timeout => timeout
  | _ => none

theorem Call.timeout?_of_isFollowing {c : Call} (h : c.isFollowing) : c.timeout? = none := by
  cases c <;> simp_all [timeout?, isFollowing]

namespace Action

variable {σ S α β : Type}

/-- From a state on, an action hands on no timeout but a number from zero on, and it fails before
any call only by a refusal. -/
structure Timely (a : Action (S × World σ) α) (t : S × World σ) : Prop where
  calls : Adds World.calls (fun e => ∀ x, e.2.timeout? = some x → x.geInt 0) t.2 (a t).2.2
  refuses : ∀ f, (a t).1 = .error f → (a t).2.2.calls = t.2.calls → f.IsRefusal

variable {a : Action (S × World σ) α} {t : S × World σ}

theorem timely_congr {T : Type} {b : Action (T × World σ) α} {u : T × World σ} (hw : t.2 = u.2)
    (hr : (a t).1 = (b u).1) (hs : (a t).2.2 = (b u).2.2) : Timely a t ↔ Timely b u := by
  constructor
  · intro ⟨hcalls, hrefuses⟩
    rw [hw, hs] at hcalls hrefuses
    rw [hr] at hrefuses
    exact ⟨hcalls, hrefuses⟩
  · intro ⟨hcalls, hrefuses⟩
    rw [← hw, ← hs] at hcalls hrefuses
    rw [← hr] at hrefuses
    exact ⟨hcalls, hrefuses⟩

theorem timely_of_error {f : Fault} (h : a t = (.error f, t)) : Timely a t ↔ f.IsRefusal := by
  constructor
  · intro htimely
    exact htimely.refuses f (by rw [h]) (by rw [h])
  · intro hf
    constructor
    · rw [h]
      exact refl_of _ t.2
    · intro g hg _
      rw [h] at hg
      cases hg
      exact hf

theorem timely_of_refused {r : Refusal} (h : a t = (.error (.refused r), t)) : Timely a t :=
  (timely_of_error h).mpr rfl

theorem timely_lift_bind {e : Except Fault β} {next : β → Action (S × World σ) α} :
    Timely (lift e >>= next) t ↔ Check.Settles (fun v => Timely (next v) t) e := by
  cases e with
  | error f => exact timely_of_error rfl
  | ok v => exact timely_congr rfl rfl rfl

/-- An action that makes a call is timely if the timeout of this call is; what happens during the
call has no timeout from outside. -/
theorem timely_of_invoke {L : Library σ} {id : ClientId} {c : Call}
    (h : (a t).2.2 = (World.invoke L id c t.2).2) :
    Timely a t ↔ ∀ x, c.timeout? = some x → x.geInt 0 := by
  obtain ⟨nested, hcalls, hnested, -⟩ := World.invoke_calls (L := L) c t.2
  rw [← h] at hcalls
  constructor
  · intro htimely
    obtain ⟨new, hnew, hall⟩ := htimely.calls
    obtain rfl : (_, c) :: nested = new := List.append_cancel_left (hcalls.symm.trans hnew)
    exact hall _ List.mem_cons_self
  · intro hc
    constructor
    · refine ⟨_, hcalls, fun e he => ?_⟩
      rcases List.mem_cons.mp he with rfl | he
      · exact hc
      · intro x hx
        rw [Call.timeout?_of_isFollowing (hnested e he).2] at hx
        cases hx
    · intro f _ hsame
      rw [hcalls] at hsame
      simp at hsame

/-- An action that makes a call with the timeout that a check has let through. -/
theorem timely_of_check (L : Library σ) (id : ClientId) (call : Option Binary64 → Call)
    {e : Except Fault (Option Binary64)} (htimeout : ∀ s, (call s).timeout? = s)
    (herror : ∀ f, e = .error f → a t = (.error f, t))
    (hok : ∀ s, e = .ok s → (a t).2.2 = (World.invoke L id (call s) t.2).2) :
    Timely a t ↔ Check.Settles (fun s => ∀ x, s = some x → x.geInt 0) e := by
  cases e with
  | error f => exact timely_of_error (herror f rfl)
  | ok s =>
    rw [timely_of_invoke (hok s rfl), htimeout]
    exact Iff.rfl

/-- An action that starts by taking milliseconds for seconds. -/
theorem timely_of_milliseconds {v : Value} {next : Binary64 → Action (S × World σ) α}
    (h : ∀ x, x.isNaN = false → Timely (next x) t) :
    Timely (lift (Check.milliseconds v) >>= next) t ↔ ¬v.IsBeyondFloat := by
  rw [timely_lift_bind, ← Check.milliseconds_settles_iff]
  cases hv : Check.milliseconds v with
  | error f => exact Iff.rfl
  | ok x =>
    have hx := Check.geInt_of_milliseconds hv
    exact iff_of_true (h x (Binary64.geInt_iff.mp hx).1) hx

end Action

open KafkaHandles.Action (Timely)

variable {σ : Type} {L : Library σ}

namespace Consumer

theorem poll_timely_iff {v : Value} {c : Consumer} {w : World σ} :
    Timely (poll L v) (c, w) ↔ c.closed ∨ ¬v.IsNaN ∧ ¬v.IsBeyondFloat := by
  cases hc : c.client with
  | none =>
    have hpoll : poll L v (c, w) = (.error (.refused (.handleClosed .consumer)), (c, w)) := by
      simp only [poll_apply, hc, openClient]
    exact iff_of_true (Action.timely_of_refused hpoll) (by simp [closed, hc])
  | some id =>
    have hopen : ¬c.closed := by simp [closed, hc]
    rw [or_iff_right hopen, ← Check.timeout_settles_iff "timeout"]
    apply Action.timely_of_check L id fun s => .pollMessage (waitFor s)
    · intro s
      cases s <;> rfl
    · intro f hf
      simp only [poll_apply, hc, openClient, hf]
    · intro s hs
      simp only [poll_apply, hc, openClient, hs]
      rcases World.invoke L id (.pollMessage (waitFor s)) w with ⟨f | m, u⟩
      · rfl
      · rfl

end Consumer

namespace Producer

theorem flush_timely_iff {v : Value} {p : Producer} {w : World σ} :
    Timely (flush L v) (p, w) ↔ p.closed ∨ ¬v.IsNaN ∧ ¬v.IsBeyondFloat := by
  cases hp : p.client with
  | none =>
    have hflush : flush L v (p, w) = (.error (.refused (.handleClosed .producer)), (p, w)) := by
      simp only [flush_apply, hp, openClient]
    exact iff_of_true (Action.timely_of_refused hflush) (by simp [closed, hp])
  | some id =>
    have hopen : ¬p.closed := by simp [closed, hp]
    rw [or_iff_right hopen, ← Check.timeout_settles_iff "timeout"]
    apply Action.timely_of_check L id .flush
    · exact fun s => rfl
    · intro f hf
      simp only [flush_apply, hp, openClient, hf]
    · intro s hs
      simp only [flush_apply, hp, openClient, hs]
      rcases World.invoke L id (.flush s) w with ⟨f | left, u⟩
      · rfl
      · rfl

end Producer

namespace Host

theorem poll_timely_iff {v : Value} {h : Option Handle} {w : World σ} :
    Timely (poll L v) (h, w) ↔ h.map Handle.role ≠ some .consumer ∨ ¬v.IsBeyondFloat := by
  match h with
  | none => exact iff_of_true (Action.timely_of_refused rfl) (by simp)
  | some (.producer p) => exact iff_of_true (Action.timely_of_refused rfl) (by simp [Handle.role])
  | some (.consumer c) =>
    have hpoll : ∀ x : Binary64, x.isNaN = false → Timely (Consumer.poll L (.float x)) (c, w) :=
      fun x hx => Consumer.poll_timely_iff.mpr (Or.inr (by simp [hx]))
    simp only [Option.map_some, Handle.role, ne_eq, not_true_eq_false, false_or]
    rw [← Action.timely_of_milliseconds hpoll]
    exact Action.timely_congr rfl rfl rfl

theorem flush_timely_iff {v : Value} {h : Option Handle} {w : World σ} :
    Timely (flush L v) (h, w) ↔ h.map Handle.role ≠ some .producer ∨ ¬v.IsBeyondFloat := by
  match h with
  | none => exact iff_of_true (Action.timely_of_refused rfl) (by simp)
  | some (.consumer c) => exact iff_of_true (Action.timely_of_refused rfl) (by simp [Handle.role])
  | some (.producer p) =>
    have hflush : ∀ x : Binary64, x.isNaN = false → Timely (Producer.flush L (.float x)) (p, w) :=
      fun x hx => Producer.flush_timely_iff.mpr (Or.inr (by simp [hx]))
    simp only [Option.map_some, Handle.role, ne_eq, not_true_eq_false, false_or]
    rw [← Action.timely_of_milliseconds hflush]
    exact Action.timely_congr rfl rfl rfl

end Host

/-- A timeout is refused or is a number from zero on, unless it is a float that is no number or an
integer beyond the floats, and so it is with all that is handed on to clients. -/
theorem timeouts_are_refused_or_not_negative (L : Library σ) (v : Value) (w : World σ) :
    (∀ parameter, (Check.timeout v parameter = .ok none ↔ v = .none) ∧
      (Check.Settles (fun s => ∀ x, s = some x → x.geInt 0) (Check.timeout v parameter) ↔
        ¬v.IsNaN ∧ ¬v.IsBeyondFloat)) ∧
    (Check.Settles (fun x => x.geInt 0) (Check.milliseconds v) ↔ ¬v.IsBeyondFloat) ∧
    (∀ c, Timely (Consumer.poll L v) (c, w) ↔ c.closed ∨ ¬v.IsNaN ∧ ¬v.IsBeyondFloat) ∧
    (∀ p, Timely (Producer.flush L v) (p, w) ↔ p.closed ∨ ¬v.IsNaN ∧ ¬v.IsBeyondFloat) ∧
    (∀ h, Timely (Host.poll L v) (h, w) ↔
      h.map Handle.role ≠ some .consumer ∨ ¬v.IsBeyondFloat) ∧
    ∀ h, Timely (Host.flush L v) (h, w) ↔
      h.map Handle.role ≠ some .producer ∨ ¬v.IsBeyondFloat := by
  refine ⟨fun parameter => ⟨Check.timeout_eq_none_iff, Check.timeout_settles_iff parameter⟩,
    Check.milliseconds_settles_iff, ?_, ?_, ?_, ?_⟩
  · exact fun c => Consumer.poll_timely_iff
  · exact fun p => Producer.flush_timely_iff
  · exact fun h => Host.poll_timely_iff
  · exact fun h => Host.flush_timely_iff

/-- What is no number is taken for a timeout, and the first integer beyond the floats is not
refused. -/
theorem nan_is_no_timeout :
    Check.timeout (.float .nan) "timeout" = .ok (some .nan) ∧ Binary64.nan.geInt 0 = false ∧
      Check.timeout (.int Number.floatBound) "timeout" = .error .integerBeyondFloat ∧
      Check.milliseconds (.int Number.floatBound) = .error .integerBeyondFloat ∧
      Fault.integerBeyondFloat.cls ≠ .validation := by
  refine ⟨Check.timeout_nan (by decide) _, by decide, ?_, ?_, by decide⟩
  · exact Check.timeout_beyond (Int.le_refl _) _
  · exact Check.milliseconds_beyond (Int.le_refl _)

end KafkaHandles
