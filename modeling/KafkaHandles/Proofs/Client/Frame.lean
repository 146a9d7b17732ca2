import KafkaHandles.Client.World
import KafkaHandles.Proofs.Action

/-!
# What calls change

Every action on the world is made of a few elementary changes: something is entered into the
journal, the library changes its state, a record is written, a report is given to a waiter, a stop
flag is set. A relation that these respect is respected by whole calls, with all that happens while
they are under way.
-/

namespace KafkaHandles

/-- The calls by which a client follows a start rule. Other calls are never made while a call is
under way. -/
def Call.isFollowing : Call → Bool
  | .committed .. | .assign _ | .incrementalAssign _ => true
  | _ => false

/-- The records that are written while a call is under way: lines of the client library, and what a
client was assigned. -/
inductive LogRecord.OfCall : LogRecord → Prop
  | line {r : LogRecord} (h : r.logger = Logger.client.name) : OfCall r
  | assigned (ps : List TopicPartition) : OfCall {
      logger := Logger.consumer.name
      level := LogLevel.debug
      text := .ok ("Assigned " ++ TopicPartition.shownAll ps) }

theorem LogLine.record_logger {l : LogLine} {logger : String} {r : LogRecord}
    (h : l.record logger = .ok r) : r.logger = logger := by
  unfold record at h
  cases hlevel : LogLevel.clamp l.level with
  | error f =>
    rw [hlevel] at h
    cases h
  | ok level =>
    rw [hlevel] at h
    dsimp only [bind, Except.bind] at h
    split at h <;> cases h
    rfl

namespace World

variable {σ : Type} {L : Library σ} {id : ClientId}

/-! ## Parts of the world that single changes leave alone -/

theorem finish_state (c : Call) (w : World σ) :
    (finish L id c w).2 = { w with library := (L.answer id c w.library).2 } := by
  unfold finish
  split <;> rename_i h <;> simp [h]

theorem finish_answer (c : Call) (w : World σ) :
    (finish L id c w).1 = (L.answer id c w.library).1.mapError .ofClient := by
  unfold finish
  split <;> rename_i h <;> rw [h] <;> rfl

@[simp] theorem finish_waiters (c : Call) (w : World σ) :
    (finish L id c w).2.waiters = w.waiters := by
  rw [finish_state]

theorem request_state (c : Call) (w : World σ) :
    (request L id c w).2 =
      { w.enter (.called id c) with library := (L.answer id c w.library).2 } :=
  finish_state c (w.enter (.called id c))

theorem request_answer (c : Call) (w : World σ) :
    (request L id c w).1 = (L.answer id c w.library).1.mapError .ofClient :=
  finish_answer c (w.enter (.called id c))

theorem request_rules (c : Call) (w : World σ) : (request L id c w).2.rules = w.rules := by
  rw [request_state]
  rfl

/-! ## Relations that calls respect -/

section Within

variable {R : World σ → World σ → Prop}

theorem finish_within (hlibrary : ∀ w s, R w { w with library := s }) (c : Call) :
    (finish L id c).Within R := by
  intro w
  rw [finish_state]
  exact hlibrary w _

variable [IsPreorder (World σ) R]

theorem forward_within (hrecord : ∀ r : LogRecord, r.OfCall → ∀ w, R w (w.record r))
    (l : LogLine) : (forward l).Within R := by
  intro w
  simp only [forward, Action.bind_apply, Action.lift_apply]
  cases h : l.record Logger.client.name with
  | error f => exact refl_of R w
  | ok r => exact hrecord r (.line (LogLine.record_logger h)) w

theorem follow_within (hrequest : ∀ c : Call, c.isFollowing → (request L id c).Within R)
    (hrecord : ∀ r : LogRecord, r.OfCall → ∀ w, R w (w.record r)) (rule : StartRule)
    (ps : List TopicPartition) :
    (follow L id rule ps).Within R := by
  unfold follow
  split
  · exact .pure _
  · refine .bind (hrequest _ rfl) fun committed => ?_
    have hsaid : ∀ placed : List TopicPartition,
        ((say .consumer LogLevel.debug ("Assigned " ++ TopicPartition.shownAll placed)) >>=
          fun _ => (pure placed : Action (World σ) _)).Within R :=
      fun placed => .bind (.modify (hrecord _ (.assigned placed))) fun _ => .pure _
    dsimp only
    split
    · exact .bind (hrequest _ rfl) fun _ => hsaid _
    · exact .bind (hrequest _ rfl) fun _ => hsaid _

theorem rebalance_within (hrequest : ∀ c : Call, c.isFollowing → (request L id c).Within R)
    (hrecord : ∀ r : LogRecord, r.OfCall → ∀ w, R w (w.record r)) (ps : List TopicPartition) :
    (rebalance L id ps).Within R := by
  refine .bind .get fun w => ?_
  split
  · exact follow_within hrequest hrecord _ _
  · exact .pure _

/-- What happens while a call is under way respects a relation if the elementary changes do. -/
theorem handle_within (hrequest : ∀ c : Call, c.isFollowing → (request L id c).Within R)
    (hrecord : ∀ r : LogRecord, r.OfCall → ∀ w, R w (w.record r))
    (hnote : ∀ note w, R w (w.enter (.delivered id note)))
    (hstop : ∀ flag w, R w (w.setStop flag)) (e : Event)
    (hreport : ∀ t r, e = .report t r → ∀ w, R w (w.resolve t r)) :
    (handle L id e).Within R := by
  cases e with
  | delivered note => exact .modify (hnote note)
  | report t r => exact .modify (hreport t r rfl)
  | rebalance ps => exact .bind (rebalance_within hrequest hrecord ps) fun _ => .pure _
  | line l => exact forward_within hrecord l
  | stop flag => exact .modify (hstop flag)

theorem handleAll_within {es : List Event} (h : ∀ e ∈ es, (handle L id e).Within R) :
    (handleAll L id es).Within R := by
  induction es with
  | nil => exact .pure _
  | cons e es ih =>
    exact .bind (h e (by simp)) fun _ => ih fun e' he => h e' (by simp [he])

theorem request_within (hlibrary : ∀ w s, R w { w with library := s }) {c : Call}
    (henter : ∀ w, R w (w.enter (.called id c))) : (request L id c).Within R :=
  .bind (.modify henter) fun _ => finish_within hlibrary c

end Within

end World

end KafkaHandles
