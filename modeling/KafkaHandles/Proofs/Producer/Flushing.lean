import KafkaHandles.Producer.Basic
import KafkaHandles.Proofs.Action

/-!
# Flushing in steps

`Producer.flush` makes one call, during which reports are served. A `Flush` is a thread at some
point of such a call, and `Flush.step` takes it one atomic step further, in the way `Send.step` does
with a sender. Taken alone, its steps come to what `Producer.flush` does.
-/

namespace KafkaHandles

/-- Where a flush stands. -/
inductive FlushStage
  /-- Before it makes its call. -/
  | ready
  /-- While the call is under way, with what still happens during this. -/
  | serving (pending : List Event)
  /-- At its end. -/
  | finished (outcome : Except Fault Unit)

/-- A flush: its client, its timeout, and where it stands. -/
structure Flush where
  client : ClientId
  timeout : Option Binary64
  stage : FlushStage := .ready

namespace Flush

/-- What the number of messages that are left comes to. -/
def verdict (left : Int) : Except Fault Unit :=
  if 0 < left then
    .error (.broker (.ofCode ErrorCode.timedOut
      (some (toString left ++ " message(s) still in queue or transit"))))
  else .ok ()

variable {σ : Type} (L : Library σ)

/-- One atomic step of a flush. -/
def step (f : Flush) (w : World σ) : Flush × World σ :=
  match f.stage with
  | .ready =>
    let (es, w) := World.begin L f.client (.flush f.timeout) w
    ({ f with stage := .serving es }, w)
  | .serving (e :: es) =>
    match World.handle L f.client e w with
    | (.ok _, w) => ({ f with stage := .serving es }, w)
    | (.error x, w) => ({ f with stage := .finished (.error x) }, w)
  | .serving [] =>
    match World.finish L f.client (.flush f.timeout) w with
    | (.ok left, w) => ({ f with stage := .finished (verdict left) }, w)
    | (.error x, w) => ({ f with stage := .finished (.error x) }, w)
  | .finished _ => (f, w)

/-- Takes steps of a flush, with nobody else in between. -/
def runAlone : Nat → Flush → World σ → Flush × World σ
  | 0, f, w => (f, w)
  | n + 1, f, w => match f.step L w with
    | (f, w) => runAlone n f w

/-! ## Steps taken alone -/

/-- The rest of a flush whose call is under way. -/
def rest (id : ClientId) (timeout : Option Binary64) (es : List Event) :
    Action (World σ) Unit := do
  World.handleAll L id es
  let left : Int ← World.finish L id (.flush timeout)
  Action.lift (verdict left)

theorem runAlone_serving (id : ClientId) (timeout : Option Binary64) (es : List Event)
    (w : World σ) : ∃ n, runAlone L n ⟨id, timeout, .serving es⟩ w =
      (⟨id, timeout, .finished (rest L id timeout es w).1⟩, (rest L id timeout es w).2) := by
  induction es generalizing w with
  | nil =>
    refine ⟨1, ?_⟩
    rcases h : World.finish L id (.flush timeout) w with ⟨x | left, u⟩ <;>
      simp [runAlone, step, rest, World.handleAll, Action.bind_apply, h]
  | cons e es ih =>
    rcases h : World.handle L id e w with ⟨x | v, u⟩
    · refine ⟨1, ?_⟩
      simp [runAlone, step, rest, World.handleAll, Action.bind_apply, h]
    · obtain ⟨n, hn⟩ := ih u
      refine ⟨n + 1, ?_⟩
      simpa [runAlone, step, rest, World.handleAll, Action.bind_apply, h] using hn

/-- A flush taken alone ends as `Producer.flush` does, in the same world. -/
theorem runAlone_eq_flush {p : Producer} {id : ClientId} {v : Value} {timeout : Option Binary64}
    (hopen : p.client = some id) (hv : Check.timeout v "timeout" = .ok timeout) (w : World σ) :
    ∃ n, runAlone L n ⟨id, timeout, .ready⟩ w =
      (⟨id, timeout, .finished (Producer.flush L v (p, w)).1⟩,
        (Producer.flush L v (p, w)).2.2) := by
  rcases hb : World.begin L id (.flush timeout) w with ⟨es, u⟩
  obtain ⟨n, hn⟩ := runAlone_serving L id timeout es u
  refine ⟨n + 1, ?_⟩
  have hflush : Producer.flush L v (p, w) =
      ((rest L id timeout es u).1, p, (rest L id timeout es u).2) := by
    simp only [Producer.flush, Producer.native, openClient, hopen, hv, Action.bind_apply,
      Action.get_apply, Action.lift_apply, Action.onSecond, World.invoke, hb, rest, Action.andThen]
    rcases World.handleAll L id es u with ⟨x | _, u₁⟩
    · rfl
    · rcases hf : World.finish L id (.flush timeout) u₁ with ⟨x | left, u₂⟩
      · simp [hf]
      · simp only [hf, verdict]
        split <;> rfl
  rw [hflush]
  simpa [runAlone, step, hb] using hn

end Flush

end KafkaHandles
