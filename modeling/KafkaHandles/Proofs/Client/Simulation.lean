import KafkaHandles.Proofs.Action
import KafkaHandles.Proofs.Client.Recorded

/-!
# Libraries that cannot be told apart

A library may carry more in its state than another one that serves and answers alike. The world
depends on its library only through what that serves and answers, so all calls come to the same with
both. The case of interest is a recorded library and the library itself.
-/

namespace KafkaHandles

open KafkaHandles.Action (Mirrors)

variable {σ τ : Type}

/-- Under a map of states, one library serves and answers as another one does. -/
structure Library.Mirrors (g : σ → τ) (L : Library σ) (M : Library τ) : Prop where
  serve : ∀ id c s, M.serve id c (g s) = ((L.serve id c s).1, g (L.serve id c s).2)
  answer : ∀ id c s, M.answer id c (g s) = ((L.answer id c s).1, g (L.answer id c s).2)

theorem Library.recorded_mirrors (L : Library σ) : L.recorded.Mirrors Prod.fst L where
  serve _ _ _ := rfl
  answer _ _ _ := rfl

namespace World

/-- A world with another state of its library. -/
def map (g : σ → τ) (w : World σ) : World τ where
  library := g w.library
  journal := w.journal
  waiters := w.waiters
  rules := w.rules
  log := w.log
  stops := w.stops

variable {g : σ → τ} {L : Library σ} {M : Library τ}

theorem say_mirrors (logger : Logger) (level : Int) (text : String) :
    Mirrors (map g) (say logger level text) (say logger level text) :=
  fun _ => rfl

theorem begin_map (h : L.Mirrors g M) (id : ClientId) (c : Call) (w : World σ) :
    begin M id c (w.map g) = ((begin L id c w).1, (begin L id c w).2.map g) := by
  have hserve := h.serve id c w.library
  simp only [begin, enter, map, hserve]

theorem finish_mirrors (h : L.Mirrors g M) (id : ClientId) (c : Call) :
    Mirrors (map g) (World.finish L id c) (World.finish M id c) := by
  intro w
  have hanswer := h.answer id c w.library
  simp only [World.finish, map, hanswer]
  rcases L.answer id c w.library with ⟨_ | _, _⟩ <;> rfl

theorem request_mirrors (h : L.Mirrors g M) (id : ClientId) (c : Call) :
    Mirrors (map g) (request L id c) (request M id c) :=
  .bind (.modify fun _ => rfl) fun _ => finish_mirrors h id c

theorem follow_mirrors (h : L.Mirrors g M) (id : ClientId) (rule : StartRule)
    (ps : List TopicPartition) : Mirrors (map g) (follow L id rule ps) (follow M id rule ps) := by
  unfold follow
  split
  · exact .pure ps
  · refine .bind (request_mirrors h id _) fun committed => ?_
    dsimp only
    split
    · exact .bind (request_mirrors h id _) fun _ => .bind (say_mirrors _ _ _) fun _ => .pure _
    · exact .bind (request_mirrors h id _) fun _ => .bind (say_mirrors _ _ _) fun _ => .pure _

theorem handle_mirrors (h : L.Mirrors g M) (id : ClientId) (e : Event) :
    Mirrors (map g) (handle L id e) (handle M id e) := by
  cases e with
  | delivered note => exact .modify fun _ => rfl
  | report t r => exact .modify fun _ => rfl
  | rebalance ps =>
    refine .bind (.get fun w => ?_) fun _ => .pure ()
    have hrule : (w.map g).rule? id = w.rule? id := rfl
    rw [hrule]
    cases w.rule? id with
    | none => exact .pure ps
    | some rule => exact follow_mirrors h id rule ps
  | line l => exact .bind (.lift _) fun _ => .modify fun _ => rfl
  | stop flag =>
    refine .modify fun _ => ?_
    cases flag <;> rfl

theorem handleAll_mirrors (h : L.Mirrors g M) (id : ClientId) (es : List Event) :
    Mirrors (map g) (handleAll L id es) (handleAll M id es) := by
  induction es with
  | nil => exact .pure ()
  | cons e es ih => exact .bind (handle_mirrors h id e) fun _ => ih

theorem invoke_mirrors (h : L.Mirrors g M) (id : ClientId) (c : Call) :
    Mirrors (map g) (invoke L id c) (invoke M id c) := by
  intro w
  simp only [invoke, begin_map h]
  exact Mirrors.bind (handleAll_mirrors h id (begin L id c w).1) (fun _ => finish_mirrors h id c)
    (begin L id c w).2

theorem subscribe_mirrors (h : L.Mirrors g M) (id : ClientId) (topics : List String)
    (rule : Option StartRule) :
    Mirrors (map g) (subscribe L id topics rule) (subscribe M id topics rule) :=
  .bind (request_mirrors h id _) fun _ => .modify fun _ => rfl

end World

end KafkaHandles
