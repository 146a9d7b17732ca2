import KafkaHandles.Action
import KafkaHandles.Waiter

/-!
# Uses of a waiter

A waiter hears reports and is asked about its outcome in any order and any number of times. Of all
the reports it keeps the first, so that every answer can be read off the first report among the uses
before.
-/

namespace KafkaHandles

/-- What can be done with a waiter. -/
inductive WaiterUse
  | resolve (r : DeliveryReport)
  | wait (timeout : Value)
  /-- Asks whether the outcome is known. -/
  | look
  /-- Asks for the outcome. -/
  | collect

/-- What a waiter answers. -/
inductive WaiterReply
  | nothing
  /-- Whether the outcome is known. -/
  | known (b : Bool)
  /-- A wait goes on for ever if nobody reports in the meantime. -/
  | endless
  | receipt (r : Receipt)

namespace WaiterUse

/-- The report that a use gives to the waiter. -/
def report? : WaiterUse → Option DeliveryReport
  | resolve r => some r
  | _ => none

/-- What a use comes to. -/
def perform : WaiterUse → Action Waiter WaiterReply
  | resolve r => do
    Action.modify (·.resolve r)
    pure .nothing
  | wait timeout => do
    let answer ← Action.lift ((← Action.get).wait timeout)
    pure (answer.elim .endless .known)
  | look => do
    let w ← Action.get
    pure (.known w.isDone)
  | collect => do
    let r ← Action.lift (← Action.get).receipt
    pure (.receipt r)

/-- What uses leave, one after another. -/
def run (us : List WaiterUse) (w : Waiter) : Waiter :=
  us.foldl (fun w u => (u.perform w).2) w

/-- The first report among uses. -/
def firstReport? (us : List WaiterUse) : Option DeliveryReport :=
  (us.filterMap report?).head?

/-! ## What a waiter keeps -/

theorem wait_apply (timeout : Value) (w : Waiter) :
    (wait timeout).perform w =
      ((w.wait timeout).map fun answer => answer.elim .endless .known, w) := by
  simp only [perform, Action.bind_apply, Action.get_apply, Action.lift_apply]
  rcases w.wait timeout with f | answer <;> rfl

theorem collect_apply (w : Waiter) : collect.perform w = (w.receipt.map .receipt, w) := by
  simp only [perform, Action.bind_apply, Action.get_apply, Action.lift_apply]
  rcases w.receipt with f | r <;> rfl

/-- A use changes a waiter only if it is the first to report. -/
theorem perform_report (u : WaiterUse) (w : Waiter) :
    (u.perform w).2.report = w.report.or u.report? := by
  cases u with
  | resolve r =>
    show (w.resolve r).report = _
    cases hw : w.report <;> simp [Waiter.resolve, report?, hw]
  | wait timeout =>
    rw [wait_apply]
    exact (Option.or_none).symm
  | look => exact (Option.or_none).symm
  | collect =>
    rw [collect_apply]
    exact (Option.or_none).symm

theorem run_report (us : List WaiterUse) (w : Waiter) :
    (run us w).report = w.report.or (firstReport? us) := by
  induction us generalizing w with
  | nil => exact (Option.or_none).symm
  | cons u us ih =>
    have hfirst : firstReport? (u :: us) = u.report?.or (firstReport? us) := by
      cases hu : u.report? <;> simp [firstReport?, hu]
    rw [run, List.foldl_cons, ← run, ih, perform_report, hfirst, Option.or_assoc]

theorem run_start (us : List WaiterUse) : run us .start = ⟨firstReport? us⟩ := by
  have hreport : (run us .start).report = firstReport? us := run_report us .start
  rw [← hreport]

theorem firstReport?_of_none {us : List WaiterUse} (h : ∀ u ∈ us, u.report? = none) :
    firstReport? us = none := by
  rw [firstReport?, List.filterMap_eq_nil_iff.mpr h, List.head?_nil]

theorem firstReport?_of_resolve {before : List WaiterUse} (h : ∀ u ∈ before, u.report? = none)
    (r : DeliveryReport) (after : List WaiterUse) :
    firstReport? (before ++ resolve r :: after) = some r := by
  rw [firstReport?, List.filterMap_append, List.filterMap_eq_nil_iff.mpr h, List.nil_append]
  rfl

end WaiterUse

/-! ## What a waiter answers -/

namespace DeliveryReport

theorem outcome_of_error {r : DeliveryReport} {e : ClientError} (he : r.error = some e)
    (hcode : e.code ≠ ErrorCode.success) : r.outcome = .error (.broker e) := by
  simp only [outcome, he, if_neg hcode]

theorem outcome_of_success {r : DeliveryReport}
    (h : ∀ e, r.error = some e → e.code = ErrorCode.success) :
    r.outcome = .ok (r.place.getD unknownPlace) := by
  unfold outcome
  cases he : r.error with
  | none => rfl
  | some e => simp only [h e he, if_true]

end DeliveryReport

namespace Waiter

/-- A value that is compared with zero as a number of seconds. -/
def IsSeconds : Value → Prop
  | .bool _ | .int _ | .float .. => True
  | _ => False

/-- The timeouts that a wait refuses unless the outcome is known, with the faults it ends in. Clocks
count nanoseconds in 64 bits, and those of a float are rounded to a float before that. -/
inductive Refuses : Value → Fault → Prop
  | unmeasured {v : Value} (hnone : v ≠ .none) (h : ¬IsSeconds v) :
      Refuses v (.notComparable ">" v.kindName)
  | tooLong {n : Int} (h : 0x8000000000000000 ≤ n * 1000000000) : Refuses (.int n) .waitTooLong
  | infinite {x : Binary64} {i : Nat} (hsign : x.negative = false) (h : x.isInfinite = true) :
      Refuses (.float x i) .waitTooLong
  | beyond {x : Binary64} {i : Nat} (hnumber : x.isNaN = false) (hsign : x.negative = false)
      (hfinite : x.isInfinite = false)
      (h : 0x8000000000000400 * x.magnitude.2 < x.magnitude.1 * 1000000000) :
      Refuses (.float x i) .waitTooLong
  | wrapped {x : Binary64} {i : Nat} (hnumber : x.isNaN = false) (hsign : x.negative = false)
      (hfinite : x.isInfinite = false)
      (hlower : 0x7FFFFFFFFFFFFE00 * x.magnitude.2 ≤ x.magnitude.1 * 1000000000)
      (hupper : x.magnitude.1 * 1000000000 ≤ 0x8000000000000400 * x.magnitude.2) :
      Refuses (.float x i) .waitNegative

theorem checkSeconds_error {n : Int} {f : Fault} :
    checkSeconds n = .error f ↔ Refuses (.int n) f := by
  have hbound : (Number.int64Bound : Int) = 0x8000000000000000 := by decide
  have hunit : (secondUnit : Int) = 1000000000 := by decide
  unfold checkSeconds
  rw [hbound, hunit]
  constructor
  · intro h
    split at h
    · rename_i hlong
      cases h
      exact .tooLong hlong
    · cases h
  · intro h
    cases h with
    | unmeasured hnone h => exact absurd trivial h
    | tooLong h => rw [if_pos h]

theorem checkSecondsFloat_error {x : Binary64} {i : Nat} {f : Fault} :
    checkSecondsFloat x = .error f ↔ Refuses (.float x i) f := by
  have heq : checkSecondsFloat x = if x.isNaN || x.negative then .ok ()
      else if x.isInfinite then .error .waitTooLong
      else if 0x8000000000000400 * x.magnitude.2 < x.magnitude.1 * 1000000000 then
        .error .waitTooLong
      else if 0x7FFFFFFFFFFFFE00 * x.magnitude.2 ≤ x.magnitude.1 * 1000000000 then
        .error .waitNegative
      else .ok () := rfl
  rw [heq]
  constructor
  · intro h
    split at h
    · cases h
    · rename_i hpositive
      obtain ⟨hnumber, hsign⟩ : x.isNaN = false ∧ x.negative = false := by simpa using hpositive
      split at h
      · rename_i hinfinite
        cases h
        exact .infinite hsign hinfinite
      · rename_i hfinite
        have hfinite : x.isInfinite = false := by simpa using hfinite
        split at h
        · rename_i hbeyond
          cases h
          exact .beyond hnumber hsign hfinite hbeyond
        · rename_i hupper
          split at h
          · rename_i hlower
            cases h
            exact .wrapped hnumber hsign hfinite hlower (Nat.not_lt.mp hupper)
          · cases h
  · intro h
    cases h with
    | unmeasured hnone h => exact absurd trivial h
    | infinite hsign h =>
      have hnumber : x.isNaN = false := by
        simp_all [Binary64.isNaN, Binary64.isInfinite]
      rw [if_neg (by simp [hnumber, hsign]), if_pos h]
    | beyond hnumber hsign hfinite h =>
      rw [if_neg (by simp [hnumber, hsign]), if_neg (by simp [hfinite]), if_pos h]
    | wrapped hnumber hsign hfinite hlower hupper =>
      rw [if_neg (by simp [hnumber, hsign]), if_neg (by simp [hfinite]),
        if_neg (Nat.not_lt.mpr hupper), if_pos hlower]

theorem wait_start_error {timeout : Value} {f : Fault} :
    start.wait timeout = .error f ↔ Refuses timeout f := by
  unfold wait
  rw [if_neg (by simp)]
  cases timeout with
  | none => exact ⟨nofun, fun h => by cases h with | unmeasured hnone => exact absurd rfl hnone⟩
  | bool b => exact ⟨nofun, fun h => by cases h with | unmeasured _ h => exact absurd trivial h⟩
  | int n =>
    rw [← checkSeconds_error]
    dsimp only
    cases checkSeconds n <;> simp [Except.map]
  | float x i =>
    rw [← checkSecondsFloat_error]
    dsimp only
    cases checkSecondsFloat x <;> simp [Except.map]
  | _ =>
    constructor
    · rintro ⟨⟩
      exact .unmeasured nofun nofun
    · rintro ⟨⟩
      rfl

/-- A wait on which nobody reports goes on for ever, has its timeout refused, or ends without an
outcome. -/
theorem wait_start {timeout : Value} (hnone : timeout ≠ .none) (h : ∀ f, ¬Refuses timeout f) :
    start.wait timeout = .ok (some false) := by
  cases hwait : start.wait timeout with
  | error f => exact absurd (wait_start_error.mp hwait) (h f)
  | ok answer =>
    unfold wait at hwait
    rw [if_neg (by simp)] at hwait
    cases timeout with
    | none => exact absurd rfl hnone
    | bool b => exact hwait.symm
    | int n =>
      dsimp only at hwait
      cases hchecked : checkSeconds n <;> rw [hchecked] at hwait <;> cases hwait
      rfl
    | float x =>
      dsimp only at hwait
      cases hchecked : checkSecondsFloat x <;> rw [hchecked] at hwait <;> cases hwait
      rfl
    | _ => cases hwait

/-- What a waiter answers that has heard no report. A wait without a timeout has no end, one with a
timeout that is refused fails, and every other ends without an outcome. -/
structure Open (answer : WaiterUse → Except Fault WaiterReply) : Prop where
  look : answer .look = .ok (.known false)
  endless : answer (.wait .none) = .ok .endless
  refused : ∀ timeout f, answer (.wait timeout) = .error f ↔ Refuses timeout f
  wait : ∀ timeout, timeout ≠ .none → (∀ f, ¬Refuses timeout f) →
    answer (.wait timeout) = .ok (.known false)
  collect : answer .collect = .error .outcomePending ∧
    Fault.outcomePending.cls = .general .runtime

/-- What a waiter answers whose first report is `r`. -/
structure Decided (r : DeliveryReport) (answer : WaiterUse → Except Fault WaiterReply) : Prop where
  look : answer .look = .ok (.known true)
  wait : ∀ timeout, answer (.wait timeout) = .ok (.known true)
  failure : ∀ e, r.error = some e → e.code ≠ 0 → answer .collect = .error (.broker e)
  success : (∀ e, r.error = some e → e.code = 0) →
    answer .collect = .ok (.receipt (r.place.getD ⟨-1, -1⟩))

theorem start_open : Open fun u => (u.perform start).1 where
  look := rfl
  endless := rfl
  refused timeout f := by
    rw [WaiterUse.wait_apply, ← wait_start_error]
    cases start.wait timeout <;> simp [Except.map]
  wait timeout hnone h := by
    rw [WaiterUse.wait_apply, wait_start hnone h]
    rfl
  collect := ⟨rfl, rfl⟩

theorem reported_decided (r : DeliveryReport) : Decided r fun u => (u.perform ⟨some r⟩).1 := by
  have hcollect : (WaiterUse.collect.perform ⟨some r⟩).1 = r.outcome.map .receipt := by
    rw [WaiterUse.collect_apply]
    rfl
  constructor
  · rfl
  · intro timeout
    rfl
  · intro e he hcode
    rw [hcollect, DeliveryReport.outcome_of_error he hcode]
    rfl
  · intro h
    rw [hcollect, DeliveryReport.outcome_of_success h]
    rfl

/-- The first report decides, for ever. At every point of every sequence of uses, a waiter has no
outcome and says so if there has been no report before, to a wait as well unless its timeout is
refused. From the first report on, all that it answers is decided by this report alone, whatever has
been done with it since. -/
theorem first_report_decides :
    let answer (us : List WaiterUse) (u : WaiterUse) := (u.perform (WaiterUse.run us start)).1
    (∀ past, (∀ u ∈ past, u.report? = none) → Open (answer past)) ∧
    ∀ before r after, (∀ u ∈ before, u.report? = none) →
      Decided r (answer (before ++ .resolve r :: after)) := by
  intro answer
  constructor
  · intro past hpast
    simp only [answer, WaiterUse.run_start, WaiterUse.firstReport?_of_none hpast]
    exact start_open
  · intro before r after hbefore
    simp only [answer, WaiterUse.run_start, WaiterUse.firstReport?_of_resolve hbefore r after]
    exact reported_decided r

/-- A failure that is reported after a delivery is not heard. -/
theorem failure_after_delivery_is_not_heard :
    let purged : ClientError := ⟨-152, "purged", false, false⟩
    let uses : List WaiterUse := [.look, .resolve ⟨none, some ⟨3, 7⟩⟩, .resolve ⟨some purged, none⟩]
    (∀ u ∈ [WaiterUse.look], u.report? = none) ∧
      (WaiterUse.collect.perform (WaiterUse.run uses start)).1 = .ok (.receipt ⟨3, 7⟩) := by
  intro purged uses
  have hbefore : ∀ u ∈ [WaiterUse.look], u.report? = none := by
    intro u hu
    rw [List.mem_singleton.mp hu]
    rfl
  have hdecided := first_report_decides.2 [.look] ⟨none, some ⟨3, 7⟩⟩
    [.resolve ⟨some purged, none⟩] hbefore
  exact ⟨hbefore, hdecided.success (by simp)⟩

end Waiter

end KafkaHandles
