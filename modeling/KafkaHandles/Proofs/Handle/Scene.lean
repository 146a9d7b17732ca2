import KafkaHandles.Proofs.Handle.Deeds

/-!
# Runs of a handle

A scene is a handle with the streams that were made of it and the world around them. Its moves are
operations, steps of its streams in any order, and the setting of stop flags by others; a run is a
list of moves, and its trace tells of every move what it found, what it left, and its outcome.
-/

namespace KafkaHandles

/-- A handle, the streams that were made of it, and the world they share. -/
structure Scene (σ : Type) where
  handle : Handle
  streams : List Stream := []
  world : World σ

/-- A move in a scene. -/
inductive Move
  | operate (byHost : Bool) (op : Operation)
  /-- Makes a stream. -/
  | stream (timeout : Value) (stop : Option StopId)
  /-- Asks a stream for its next message. -/
  | next (i : Nat)
  | giveUp (i : Nat)
  | setStop (flag : Option StopId)

/-- A move that was made: what it found, what it left, and its outcome. -/
structure Taken (σ : Type) where
  move : Move
  before : Scene σ
  outcome : Except Fault Reply
  after : Scene σ

namespace Scene

variable {σ : Type} (L : Library σ) (fuel : Nat)

/-- What a move comes to. A stream that was never made gives nothing. -/
def take (m : Move) (s : Scene σ) : Except Fault Reply × Scene σ :=
  match m with
  | .operate byHost op =>
    match op.ask L fuel byHost (some s.handle, s.world) with
    | (r, (handle, world)) => (r, { s with handle := handle.getD s.handle, world })
  | .stream timeout stop =>
    match s.handle with
    | .consumer _ => (.ok .nothing, { s with streams := s.streams ++ [{ timeout, stop }] })
    | .producer _ =>
      (.error (.attributeMissing (Handle.kindName (some s.handle)) "stream"), s)
  | .next i =>
    match s.handle, s.streams[i]? with
    | .consumer c, some stream =>
      match Stream.next L fuel (stream, c, s.world) with
      | (r, (stream, c, world)) =>
        (r.map .ofItem, { handle := .consumer c, streams := s.streams.set i stream, world })
    | _, _ => (.ok .nothing, s)
  | .giveUp i => (.ok .nothing, { s with streams := s.streams.modify i Stream.finish })
  | .setStop flag => (.ok .nothing, { s with world := s.world.setStop flag })

/-- A move that is made in a scene. -/
def taken (m : Move) (s : Scene σ) : Taken σ :=
  { move := m, before := s, outcome := (s.take L fuel m).1, after := (s.take L fuel m).2 }

/-- The trace of a run. -/
def trace : List Move → Scene σ → List (Taken σ)
  | [], _ => []
  | m :: ms, s => s.taken L fuel m :: trace ms (s.taken L fuel m).after

/-- What a run leaves. -/
def run (ms : List Move) (s : Scene σ) : Scene σ :=
  ms.foldl (fun s m => (s.taken L fuel m).after) s

variable {L fuel}

/-- An invariant that relates the moves made so far to the scene they left holds along every run,
and so does all that it says about single moves. -/
theorem trace_invariant {I : List (Taken σ) → Scene σ → Prop}
    {P : List (Taken σ) → Taken σ → Prop}
    (hmove : ∀ past m s, I past s → P past (s.taken L fuel m))
    (hnext : ∀ past m s, I past s → I (past ++ [s.taken L fuel m]) (s.taken L fuel m).after)
    {past : List (Taken σ)} {s : Scene σ} (h : I past s) (ms : List Move) :
    ∀ before x after, s.trace L fuel ms = before ++ x :: after → P (past ++ before) x := by
  -- the first move becomes part of the past of the others, so the past has to vary
  induction ms generalizing past s with
  | nil =>
    intro before x after hsplit
    simp [trace] at hsplit
  | cons m ms ih =>
    intro before x after hsplit
    cases before with
    | nil =>
      cases hsplit
      simpa using hmove past m s h
    | cons y before =>
      rw [trace, List.cons_append, List.cons.injEq] at hsplit
      obtain ⟨rfl, hsplit⟩ := hsplit
      have := ih (hnext past m s h) before x after hsplit
      rwa [List.append_assoc] at this

/-- An invariant of a scene and the moves made so far holds at the end of every run. -/
theorem run_invariant {I : List (Taken σ) → Scene σ → Prop}
    (hnext : ∀ past m s, I past s → I (past ++ [s.taken L fuel m]) (s.taken L fuel m).after)
    {past : List (Taken σ)} {s : Scene σ} (h : I past s) (ms : List Move) :
    I (past ++ s.trace L fuel ms) (s.run L fuel ms) := by
  induction ms generalizing past s with
  | nil => simpa [trace, run] using h
  | cons m ms ih =>
    have := ih (hnext past m s h)
    rwa [List.append_assoc] at this

/-! ## Operations -/

variable (L fuel)

theorem take_operate_consumer {s : Scene σ} {c : Consumer} (h : s.handle = .consumer c)
    (byHost : Bool) (op : Operation) :
    (∃ d, op.onConsumer? byHost = some d ∧ s.take L fuel (.operate byHost op) =
      match d.act L (c, s.world) with
      | (r, (c, world)) => (r, { s with handle := .consumer c, world })) ∨
    (op.onConsumer? byHost = none ∧ ∃ r, s.take L fuel (.operate byHost op) = (r, s) ∧
      (op.needsClient .consumer → ∃ f, r = .error f) ∧ ∀ p, r ≠ .ok (.polled p)) := by
  obtain ⟨handle, streams, world⟩ := s
  subst h
  simp only [take]
  rcases op.ask_consumer byHost c world with ⟨d, hd, hact⟩ | ⟨hd, r, hr, hf⟩
  · exact Or.inl ⟨d, hd, by rw [hact]; rfl⟩
  · exact Or.inr ⟨hd, r, by rw [hr]; rfl, hf⟩

theorem take_operate_producer {s : Scene σ} {p : Producer} (h : s.handle = .producer p)
    (byHost : Bool) (op : Operation) :
    (∃ d, op.onProducer? byHost = some d ∧ s.take L fuel (.operate byHost op) =
      match d.act L fuel (p, s.world) with
      | (r, (p, world)) => (r, { s with handle := .producer p, world })) ∨
    (op.onProducer? byHost = none ∧ ∃ r, s.take L fuel (.operate byHost op) = (r, s) ∧
      (op.needsClient .producer → ∃ f, r = .error f) ∧ ∀ p, r ≠ .ok (.polled p)) := by
  obtain ⟨handle, streams, world⟩ := s
  subst h
  simp only [take]
  rcases op.ask_producer byHost p world with ⟨d, hd, hact⟩ | ⟨hd, r, hr, hf⟩
  · exact Or.inl ⟨d, hd, by rw [hact]; rfl⟩
  · exact Or.inr ⟨hd, r, by rw [hr]; rfl, hf⟩

/-! ## Moves -/

/-- A move on a consumer does a deed with it, asks one of its streams, or touches nothing but
streams and stop flags. -/
theorem take_consumer {s : Scene σ} {c : Consumer} (h : s.handle = .consumer c) (m : Move) :
    (∃ byHost op d, m = .operate byHost op ∧ op.onConsumer? byHost = some d ∧
      s.take L fuel m = match d.act L (c, s.world) with
        | (r, (c, world)) => (r, { s with handle := .consumer c, world })) ∨
    (∃ i stream, m = .next i ∧ s.streams[i]? = some stream ∧
      s.take L fuel m = match Stream.next L fuel (stream, c, s.world) with
        | (r, (stream, c, world)) =>
          (r.map .ofItem, { handle := .consumer c, streams := s.streams.set i stream, world })) ∨
    ∃ r streams stops, s.take L fuel m = (r, { s with streams, world := { s.world with stops } }) ∧
      ∀ p, r ≠ .ok (.polled p) := by
  cases m with
  | operate byHost op =>
    rcases take_operate_consumer L fuel h byHost op with ⟨d, hd, htake⟩ | ⟨-, r, htake, -, hr⟩
    · exact Or.inl ⟨byHost, op, d, rfl, hd, htake⟩
    · exact Or.inr (Or.inr ⟨r, s.streams, s.world.stops, htake, hr⟩)
  | next i =>
    cases hi : s.streams[i]? with
    | none =>
      refine Or.inr (Or.inr ⟨.ok .nothing, s.streams, s.world.stops, ?_, fun p hp => by cases hp⟩)
      simp only [take, h, hi]
      rw [← h]
    | some stream =>
      refine Or.inr (Or.inl ⟨i, stream, rfl, hi, ?_⟩)
      simp only [take, h, hi]
  | stream timeout stop =>
    refine Or.inr (Or.inr ⟨.ok .nothing, s.streams ++ [({ timeout, stop } : Stream)],
      s.world.stops, ?_, fun p hp => by cases hp⟩)
    simp only [take, h]
  | giveUp i =>
    exact Or.inr (Or.inr ⟨.ok .nothing, _, s.world.stops, rfl, fun p hp => by cases hp⟩)
  | setStop flag =>
    refine Or.inr (Or.inr ⟨.ok .nothing, s.streams, (s.world.setStop flag).stops, ?_,
      fun p hp => by cases hp⟩)
    cases flag <;> rfl

end Scene

end KafkaHandles
