import KafkaHandles.Proofs.Client.Simulation
import KafkaHandles.Proofs.Handle.Scene

/-!
# Runs with libraries that cannot be told apart

Handles and streams reach the library through calls alone, so every run of a handle comes to the
same with two libraries of which one serves and answers as the other does. In particular a recorded
library shows in nothing but its record.
-/

namespace KafkaHandles

open KafkaHandles.Action (Mirrors)

variable {σ τ : Type} {g : σ → τ} {L : Library σ} {M : Library τ}

/-- The map of a world, with a handle or a stream beside it, under a map of library states. -/
abbrev World.mapBeside {H : Type} (g : σ → τ) : H × World σ → H × World τ :=
  Prod.map id (World.map g)

open World (mapBeside)

/-! ## Consumers -/

namespace Consumer

theorem native_mirrors : Mirrors (mapBeside g) (native (σ := σ)) native :=
  .get fun t => .lift (openClient .consumer t.1.client)

theorem checkMode_mirrors (mode : Mode) :
    Mirrors (mapBeside g) (checkMode (σ := σ) mode) (checkMode mode) := by
  refine .get fun t => ?_
  have hmode : (mapBeside g t).1.mode = t.1.mode := rfl
  rw [hmode]
  cases t.1.mode with
  | none => exact .pure ()
  | some taken =>
    dsimp only
    split
    · exact .pure ()
    · exact .fail _

theorem enterMode_mirrors (mode : Mode) :
    Mirrors (mapBeside g) (enterMode (σ := σ) mode) (enterMode mode) :=
  .modify fun _ => rfl

theorem subscribeByTopic_mirrors (h : L.Mirrors g M) (topic policy : Value) :
    Mirrors (mapBeside g) (subscribeByTopic L topic policy) (subscribeByTopic M topic policy) := by
  refine .bind native_mirrors fun id => .bind (.lift _) fun topic => .get fun t => ?_
  refine .bind (.lift _) fun policy => .bind (checkMode_mirrors _) fun _ => ?_
  refine .bind (.mapFault (.onSecond (World.subscribe_mirrors h id _ _)) _) fun _ => ?_
  exact .bind (enterMode_mirrors _) fun _ => .onSecond (World.say_mirrors _ _ _)

theorem subscribeAtOffset_mirrors (h : L.Mirrors g M) (topic partition offset : Value) :
    Mirrors (mapBeside g) (subscribeAtOffset L topic partition offset)
      (subscribeAtOffset M topic partition offset) := by
  refine .bind native_mirrors fun id => .bind (.lift _) fun topic => .bind (.lift _) fun p => ?_
  refine .bind (.lift _) fun offset => .bind (checkMode_mirrors _) fun _ => ?_
  refine .bind (.lift _) fun place => ?_
  refine .bind (.mapFault (.onSecond (World.request_mirrors h id _)) _) fun _ => ?_
  exact .bind (enterMode_mirrors _) fun _ => .onSecond (World.say_mirrors _ _ _)

theorem poll_mirrors (h : L.Mirrors g M) (timeout : Value) :
    Mirrors (mapBeside g) (poll L timeout) (poll M timeout) := by
  refine .bind native_mirrors fun id => .bind (.lift _) fun t => ?_
  exact .bind (.mapFault (.onSecond (World.invoke_mirrors h id _)) _) fun m => .lift _

theorem close_mirrors (h : L.Mirrors g M) : Mirrors (mapBeside g) (close L) (close M) := by
  refine .get fun t => ?_
  have hclient : (mapBeside g t).1.client = t.1.client := rfl
  rw [hclient]
  cases t.1.client with
  | none => exact .pure ()
  | some id =>
    refine .bind (.modify fun _ => rfl) fun _ => ?_
    refine .bind (.attempt (.onSecond (World.invoke_mirrors h id _))) fun r => ?_
    cases r with
    | ok v => exact .bind (.pure _) fun _ => .onSecond (World.say_mirrors _ _ _)
    | error f =>
      dsimp only
      split
      · exact .bind (.onSecond (World.say_mirrors _ _ _)) fun _ =>
          .onSecond (World.say_mirrors _ _ _)
      · exact .bind (.fail _) fun _ => .onSecond (World.say_mirrors _ _ _)

end Consumer

/-! ## Streams -/

namespace Stream

theorem say_mirrors (level : Int) (text : String) :
    Mirrors (Prod.map id (mapBeside g)) (say (σ := σ) level text) (say level text) :=
  .onSecond (.onSecond (World.say_mirrors _ _ _))

theorem received_mirrors (polled : Option Polled) :
    Mirrors (Prod.map id (mapBeside g)) (received (σ := σ) polled) (received polled) := by
  refine .bind (.modify fun _ => rfl) fun _ => ?_
  split
  · refine .bind (.modify fun _ => rfl) fun _ => .get fun t => ?_
    exact .bind (say_mirrors _ _) fun _ => .pure _
  · refine .get fun t => ?_
    dsimp only [Prod.map_fst, id_eq]
    split
    · exact .bind (say_mirrors _ _) fun _ => .pure _
    · exact .pure _

theorem round_mirrors (h : L.Mirrors g M) :
    Mirrors (Prod.map id (mapBeside g)) (round L) (round M) := by
  refine .get fun ⟨s, c, w⟩ => ?_
  have hstopped : s.isStopped (w.map g) = s.isStopped w := rfl
  simp only [Prod.map_apply, id_eq, hstopped]
  split
  · exact .bind (say_mirrors _ _) fun _ => .pure _
  · exact .bind (.onSecond (Consumer.poll_mirrors h _)) fun _ => received_mirrors _

theorem rounds_mirrors (h : L.Mirrors g M) (fuel : Nat) :
    Mirrors (Prod.map id (mapBeside g)) (rounds L fuel) (rounds M fuel) := by
  induction fuel with
  | zero => exact .pure none
  | succ fuel ih =>
    refine .bind (round_mirrors h) fun item => ?_
    cases item with
    | none => exact ih
    | some item => exact .pure _

theorem next_mirrors (h : L.Mirrors g M) (fuel : Nat) :
    Mirrors (Prod.map id (mapBeside g)) (next L fuel) (next M fuel) := by
  intro ⟨s, c, w⟩
  have hrounds := rounds_mirrors h fuel (s, c, w)
  simp only [next, Prod.map_apply, id_eq] at hrounds ⊢
  cases s.status with
  | ended => rfl
  | suspended =>
    dsimp only
    rw [hrounds]
    rcases rounds L fuel (s, c, w) with ⟨f | _ | _ | _, t⟩ <;> rfl

end Stream

/-! ## Producers -/

namespace Send

theorem step_map (h : L.Mirrors g M) (s : Send) (w : World σ) :
    step M s (w.map g) = ((step L s w).1, (step L s w).2.map g) := by
  have hwaiter (t : Ticket) : (w.map g).waiter t = w.waiter t := rfl
  unfold step
  cases s.stage with
  | ready =>
    have hadd : (w.map g).addWaiter = (w.addWaiter.1, w.addWaiter.2.map g) := rfl
    simp only [hadd, World.begin_map h]
  | producing t es =>
    cases es with
    | cons e es =>
      simp only [World.handle_mirrors h s.client e w]
      rcases World.handle L s.client e w with ⟨f | _, u⟩ <;> rfl
    | nil =>
      simp only [World.finish_mirrors h s.client (s.produceCall t) w]
      rcases World.finish L s.client (s.produceCall t) w with ⟨f | _, u⟩ <;> rfl
  | looping t => simp only [World.begin_map h]
  | polling t es =>
    cases es with
    | cons e es =>
      simp only [World.handle_mirrors h s.client e w]
      rcases World.handle L s.client e w with ⟨f | _, u⟩ <;> rfl
    | nil =>
      simp only [World.finish_mirrors h s.client pollCall w]
      rcases World.finish L s.client pollCall w with ⟨f | _, u⟩ <;> rfl
  | waiting t => simp only [hwaiter]
  | collecting t => simp only [hwaiter]
  | finished r => rfl

theorem run_mirrors (h : L.Mirrors g M) (fuel : Nat) (s : Send) :
    Mirrors (World.map g) (run L fuel s) (run M fuel s) := by
  induction fuel generalizing s with
  | zero => exact .pure none
  | succ fuel ih =>
    intro w
    unfold run
    split
    · rfl
    · rfl
    · simp only [step_map h]
      exact ih _ _

end Send

namespace Producer

theorem native_mirrors : Mirrors (mapBeside g) (native (σ := σ)) native :=
  .get fun t => .lift (openClient .producer t.1.client)

theorem send_mirrors (h : L.Mirrors g M) (fuel : Nat) (topic value key partition : Value) :
    Mirrors (mapBeside g) (send L fuel topic value key partition)
      (send M fuel topic value key partition) :=
  .bind native_mirrors fun _ => .bind (.lift _) fun _ => .onSecond (Send.run_mirrors h fuel _)

theorem flush_mirrors (h : L.Mirrors g M) (timeout : Value) :
    Mirrors (mapBeside g) (flush L timeout) (flush M timeout) := by
  refine .bind native_mirrors fun id => .bind (.lift _) fun timeout => ?_
  refine .bind (.onSecond (World.invoke_mirrors h id (.flush timeout))) fun left => ?_
  split
  · exact .fail _
  · exact .pure _

theorem size_mirrors (h : L.Mirrors g M) : Mirrors (mapBeside g) (size L) (size M) :=
  .bind native_mirrors fun id => .onSecond (World.invoke_mirrors h id .outstanding)

theorem destroy_mirrors (h : L.Mirrors g M) : Mirrors (mapBeside g) (destroy L) (destroy M) := by
  refine .get fun t => ?_
  have hclient : (mapBeside g t).1.client = t.1.client := rfl
  rw [hclient]
  cases t.1.client with
  | none => exact .pure ()
  | some id =>
    refine .bind (.modify fun _ => rfl) fun _ => ?_
    refine .bind (.onSecond (World.invoke_mirrors h id _)) fun _ => ?_
    refine .bind (.onSecond (World.invoke_mirrors h id _)) fun _ => ?_
    exact .onSecond (World.say_mirrors _ _ _)

end Producer

/-! ## Operations -/

namespace Host

variable {α : Type} {otherwise : Action (Option Handle × World σ) α}
  {otherwise' : Action (Option Handle × World τ) α}

theorem onConsumer_mirrors {a : Action (Consumer × World σ) α} {b : Action (Consumer × World τ) α}
    (h : Mirrors (mapBeside g) a b) (ho : Mirrors (mapBeside g) otherwise otherwise') :
    Mirrors (mapBeside g) (onConsumer a otherwise) (onConsumer b otherwise') := by
  rintro ⟨_ | p | c, w⟩
  · exact ho (none, w)
  · exact ho (some (.producer p), w)
  · have hc := h (c, w)
    simp only [mapBeside, Prod.map_apply, id_eq] at hc
    simp only [onConsumer, mapBeside, Prod.map_apply, id_eq, hc]
    rfl

theorem onProducer_mirrors {a : Action (Producer × World σ) α} {b : Action (Producer × World τ) α}
    (h : Mirrors (mapBeside g) a b) (ho : Mirrors (mapBeside g) otherwise otherwise') :
    Mirrors (mapBeside g) (onProducer a otherwise) (onProducer b otherwise') := by
  rintro ⟨_ | p | c, w⟩
  · exact ho (none, w)
  · have hp := h (p, w)
    simp only [mapBeside, Prod.map_apply, id_eq] at hp
    simp only [onProducer, mapBeside, Prod.map_apply, id_eq, hp]
    rfl
  · exact ho (some (.consumer c), w)

theorem expected_mirrors (role : Role) :
    Mirrors (mapBeside g) (expected (σ := σ) (α := α) role) (expected role) :=
  .fail _

theorem expectedOrNone_mirrors (role : Role) :
    Mirrors (mapBeside g) (expectedOrNone (σ := σ) role) (expectedOrNone role) := by
  refine .get fun ⟨h, w⟩ => ?_
  cases h with
  | none => exact .pure ()
  | some h => exact expected_mirrors role

end Host

namespace Operation

theorem lacking_mirrors {α : Type} (name : String) :
    Mirrors (mapBeside g) (lacking (σ := σ) (α := α) name) (lacking name) :=
  .get fun _ => .fail _

theorem lengthLacking_mirrors {α : Type} :
    Mirrors (mapBeside g) (lengthLacking (σ := σ) (α := α)) lengthLacking :=
  .get fun _ => .fail _

open Host in
theorem perform_mirrors (h : L.Mirrors g M) (fuel : Nat) (op : Operation) :
    Mirrors (mapBeside g) (op.perform L fuel) (op.perform M fuel) := by
  cases op with
  | send a =>
    exact .bind (onProducer_mirrors (Producer.send_mirrors h fuel _ _ _ _) (lacking_mirrors _))
      fun _ => .pure _
  | subscribeByTopic topic policy =>
    exact .bind (onConsumer_mirrors (Consumer.subscribeByTopic_mirrors h _ _) (lacking_mirrors _))
      fun _ => .pure _
  | subscribeAtOffset topic partition offset =>
    exact .bind
      (onConsumer_mirrors (Consumer.subscribeAtOffset_mirrors h _ _ _) (lacking_mirrors _))
      fun _ => .pure _
  | flush timeout =>
    exact .bind (onProducer_mirrors (Producer.flush_mirrors h _) (lacking_mirrors _))
      fun _ => .pure _
  | poll timeout =>
    exact .bind (onConsumer_mirrors (Consumer.poll_mirrors h _) (lacking_mirrors _))
      fun _ => .pure _
  | destroy =>
    exact .bind (onProducer_mirrors (Producer.destroy_mirrors h) (lacking_mirrors _))
      fun _ => .pure _
  | close =>
    exact .bind (onConsumer_mirrors (Consumer.close_mirrors h) (lacking_mirrors _))
      fun _ => .pure _
  | size =>
    exact .bind (onProducer_mirrors (Producer.size_mirrors h) lengthLacking_mirrors)
      fun _ => .pure _
  | truth => exact .get fun _ => .pure _
  | text =>
    refine .get fun ⟨given, w⟩ => ?_
    cases given <;> exact .pure _
  | enter =>
    refine .get fun ⟨given, w⟩ => ?_
    cases given with
    | none => exact lacking_mirrors _
    | some handle => exact .pure _
  | leave =>
    exact .bind (onProducer_mirrors (Producer.destroy_mirrors h)
      (onConsumer_mirrors (Consumer.close_mirrors h) (lacking_mirrors _))) fun _ => .pure _
  | misapplied role name f =>
    cases role with
    | producer => exact onProducer_mirrors (.fail f) (lacking_mirrors name)
    | consumer => exact onConsumer_mirrors (.fail f) (lacking_mirrors name)

open Host in
theorem performByHost_mirrors (h : L.Mirrors g M) (fuel : Nat) (op : Operation) :
    Mirrors (mapBeside g) (op.performByHost L fuel) (op.performByHost M fuel) := by
  cases op with
  | send a =>
    exact .bind (onProducer_mirrors (Producer.send_mirrors h fuel _ _ _ _) (expected_mirrors _))
      fun _ => .pure _
  | subscribeByTopic topic policy =>
    exact .bind (onConsumer_mirrors (Consumer.subscribeByTopic_mirrors h _ _) (expected_mirrors _))
      fun _ => .pure _
  | subscribeAtOffset topic partition offset =>
    exact .bind
      (onConsumer_mirrors (Consumer.subscribeAtOffset_mirrors h _ _ _) (expected_mirrors _))
      fun _ => .pure _
  | flush timeout =>
    exact .bind (onProducer_mirrors (.bind (.lift _) fun _ => Producer.flush_mirrors h _)
      (expected_mirrors _)) fun _ => .pure _
  | poll timeout =>
    exact .bind (onConsumer_mirrors (.bind (.lift _) fun _ => Consumer.poll_mirrors h _)
      (expected_mirrors _)) fun _ => .pure _
  | destroy =>
    exact .bind (onProducer_mirrors (Producer.destroy_mirrors h) (expectedOrNone_mirrors _))
      fun _ => .pure _
  | close =>
    exact .bind (onConsumer_mirrors (Consumer.close_mirrors h) (expectedOrNone_mirrors _))
      fun _ => .pure _
  | misapplied role name f => exact .fail f
  | size => exact perform_mirrors h fuel size
  | truth => exact perform_mirrors h fuel truth
  | text => exact perform_mirrors h fuel text
  | enter => exact perform_mirrors h fuel enter
  | leave => exact perform_mirrors h fuel leave

theorem ask_mirrors (h : L.Mirrors g M) (fuel : Nat) (byHost : Bool) (op : Operation) :
    Mirrors (mapBeside g) (op.ask L fuel byHost) (op.ask M fuel byHost) := by
  cases byHost with
  | false => exact perform_mirrors h fuel op
  | true => exact performByHost_mirrors h fuel op

end Operation

/-! ## Runs -/

/-- A scene with another state of its library. -/
def Scene.map (g : σ → τ) (s : Scene σ) : Scene τ where
  handle := s.handle
  streams := s.streams
  world := s.world.map g

/-- A move that was made in scenes with other states of the library. -/
def Taken.map (g : σ → τ) (x : Taken σ) : Taken τ where
  move := x.move
  before := x.before.map g
  outcome := x.outcome
  after := x.after.map g

namespace Scene

theorem take_map (h : L.Mirrors g M) (fuel : Nat) (m : Move) (s : Scene σ) :
    (s.map g).take M fuel m = ((s.take L fuel m).1, (s.take L fuel m).2.map g) := by
  obtain ⟨handle, streams, w⟩ := s
  cases m with
  | operate byHost op =>
    have hask := Operation.ask_mirrors h fuel byHost op (some handle, w)
    simp only [mapBeside, Prod.map_apply, id_eq] at hask
    simp only [take, map, hask]
    rfl
  | stream timeout stop => cases handle <;> rfl
  | next i =>
    cases handle with
    | producer p => rfl
    | consumer c =>
      simp only [take, map]
      cases streams[i]? with
      | none => rfl
      | some stream =>
        have hnext := Stream.next_mirrors h fuel (stream, c, w)
        simp only [Prod.map_apply, id_eq] at hnext
        simp only [hnext]
        rfl
  | giveUp i => rfl
  | setStop flag => cases flag <;> rfl

/-- A run comes to the same, move by move, with two libraries of which one serves and answers as the
other does. -/
theorem trace_map (h : L.Mirrors g M) (fuel : Nat) (moves : List Move) (s : Scene σ) :
    (s.map g).trace M fuel moves = (s.trace L fuel moves).map (Taken.map g) := by
  induction moves generalizing s with
  | nil => rfl
  | cons m ms ih =>
    have htaken : (s.map g).taken M fuel m = (s.taken L fuel m).map g := by
      simp only [taken, take_map h, Taken.map]
    rw [trace, trace, List.map_cons, htaken]
    exact congrArg (List.cons _) (ih _)

/-- Recording what a library answers shows in nothing but the record. -/
theorem trace_recorded (fuel : Nat) (moves : List Move) (s : Scene (σ × List Exchange)) :
    (s.map Prod.fst).trace L fuel moves =
      (s.trace L.recorded fuel moves).map (Taken.map Prod.fst) :=
  trace_map L.recorded_mirrors fuel moves s

end Scene

end KafkaHandles
