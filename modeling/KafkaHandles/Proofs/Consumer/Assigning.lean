import KafkaHandles.Proofs.Consumer.Delivery
import KafkaHandles.Proofs.Consumer.Modes

/-!
# What becomes of an assignment

The checks of an assignment look at the kinds of its arguments, at blanks and at signs. The client
library takes less than they let through: topics without a NUL, and numbers that fit into its words.
Arguments between the two end the assignment before the client is asked, in faults of their own.
-/

namespace KafkaHandles

/-! ## Partitions that clients do not take -/

namespace TopicPartition

/-- A partition that clients do not take, with the fault that says so: the topic is looked at first,
then the partition, then the offset. -/
inductive Misfit (p : TopicPartition) : Fault → Prop
  | nul (h : Char.ofNat 0 ∈ p.topic.toList) : Misfit p .textHoldsNul
  | partitionBeyond (noNul : Char.ofNat 0 ∉ p.topic.toList)
      (h : p.partition < -(Number.int64Bound : Int) ∨ Number.int64Bound ≤ p.partition) :
      Misfit p .integerBeyondInt64
  | partitionAbove (noNul : Char.ofNat 0 ∉ p.topic.toList)
      (h : (Number.int32Bound : Int) ≤ p.partition ∧ p.partition < Number.int64Bound) :
      Misfit p .integerAboveInt32
  | partitionBelow (noNul : Char.ofNat 0 ∉ p.topic.toList)
      (h : -(Number.int64Bound : Int) ≤ p.partition ∧ p.partition < -(Number.int32Bound : Int)) :
      Misfit p .integerBelowInt32
  | offset (noNul : Char.ofNat 0 ∉ p.topic.toList)
      (partition : -(Number.int32Bound : Int) ≤ p.partition ∧ p.partition < Number.int32Bound)
      (h : p.offset < -(Number.int64Bound : Int) ∨ Number.int64Bound ≤ p.offset) :
      Misfit p .offsetBeyondInt64

variable {p : TopicPartition} {f : Fault}

theorem misfit_of_make (h : make p.topic p.partition p.offset = .error f) : Misfit p f := by
  have hbounds : (Number.int32Bound : Int) ≤ Number.int64Bound := by decide
  unfold make at h
  split at h
  · rename_i hnul
    cases h
    exact .nul (by simpa using hnul)
  · rename_i hnul
    have hnul : Char.ofNat 0 ∉ p.topic.toList := by simpa using hnul
    split at h
    · rename_i hint
      cases h
      unfold Check.int32 at hint
      simp only [Number.fits, Bool.not_eq_true', Bool.and_eq_false_iff, decide_eq_false_iff_not]
        at hint
      split at hint
      · cases hint
        exact .partitionBeyond hnul (by omega)
      · split at hint
        · cases hint
          exact .partitionAbove hnul (by omega)
        · split at hint <;> cases hint
          exact .partitionBelow hnul (by omega)
    · rename_i n hint
      obtain ⟨rfl, hpartition⟩ := Check.int32_ok.mp hint
      split at h <;> cases h
      rename_i hoffset
      simp only [Number.fits, Bool.and_eq_true, decide_eq_true_eq] at hoffset
      exact .offset hnul hpartition (by omega)

theorem Misfit.not_make (h : Misfit p f) (q : TopicPartition) :
    make p.topic p.partition p.offset ≠ .ok q := by
  intro hmake
  obtain ⟨-, hnul, hpartition, hoffset⟩ := make_ok.mp hmake
  have hbounds : (Number.int32Bound : Int) ≤ Number.int64Bound := by decide
  cases h with
  | nul h => exact hnul h
  | partitionBeyond _ h => omega
  | partitionAbove _ h => omega
  | partitionBelow _ h => omega
  | offset _ _ h => omega

theorem Misfit.cls (h : Misfit p f) : f.cls ≠ .validation ∧ f.cls ≠ .broker := by
  cases h <;> simp [Fault.cls]

end TopicPartition

/-! ## Assignments -/

namespace Consumer

open TopicPartition (Misfit)

variable {σ : Type} {L : Library σ} {c : Consumer} {id : ClientId}
  {topic partition offset : Value} {p : TopicPartition}

/-- Arguments of an assignment that pass the checks, and the place that they name. -/
structure Passes (topic partition offset : Value) (p : TopicPartition) : Prop where
  topic : topic = .text p.topic
  partition : partition = .int p.partition
  offset : offset = .int p.offset
  text : ¬(Text.strip p.topic).isEmpty
  natural : 0 ≤ p.partition

theorem passes_iff : Passes topic partition offset p ↔
    Check.text topic "topic" = .ok p.topic ∧ Check.natural partition "partition" = .ok p.partition ∧
      Check.integer offset "offset" = .ok p.offset := by
  rw [Check.text_ok, Check.natural_ok, Check.integer_ok]
  constructor
  · intro h
    exact ⟨⟨h.topic, h.text⟩, ⟨h.partition, h.natural⟩, h.offset⟩
  · rintro ⟨⟨topic, text⟩, ⟨partition, natural⟩, offset⟩
    exact ⟨topic, partition, offset, text, natural⟩

theorem Passes.unique {q : TopicPartition} (h : Passes topic partition offset p)
    (h' : Passes topic partition offset q) : q = p := by
  have htopic := h'.topic.symm.trans h.topic
  have hpartition := h'.partition.symm.trans h.partition
  have hoffset := h'.offset.symm.trans h.offset
  simp only [Value.text.injEq, Value.int.injEq] at htopic hpartition hoffset
  cases p
  cases q
  simp_all

/-- How an assignment ends that is asked of an open consumer. -/
inductive AssignmentEnds (c : Consumer) (id : ClientId) (topic partition offset : Value)
    (w : World (σ × List Exchange)) :
    Except Fault Unit → Consumer × World (σ × List Exchange) → Prop
  | granted {p : TopicPartition} {u : World (σ × List Exchange)}
      (passes : Passes topic partition offset p) (fits : ¬∃ f, Misfit p f)
      (calls : u.calls = w.calls ++ [(id, .assign [p])])
      (heard : u.heard = w.heard ++ [⟨id, .assign [p], .ok ()⟩]) :
      AssignmentEnds c id topic partition offset w (.ok ()) ({ c with mode := some .assign }, u)
  | rejected {p : TopicPartition} {e : ClientError} {u : World (σ × List Exchange)}
      (passes : Passes topic partition offset p) (fits : ¬∃ f, Misfit p f)
      (calls : u.calls = w.calls ++ [(id, .assign [p])])
      (heard : u.heard = w.heard ++ [⟨id, .assign [p], .error (.error e)⟩]) :
      AssignmentEnds c id topic partition offset w (.error (.broker e)) (c, u)
  | refused {cause : Refusal} (h : ¬∃ p, Passes topic partition offset p) :
      AssignmentEnds c id topic partition offset w (.error (.refused cause)) (c, w)
  /-- The checks let the arguments through, and the client library does not take them. -/
  | unfit {p : TopicPartition} {f : Fault} (passes : Passes topic partition offset p)
      (h : Misfit p f) : AssignmentEnds c id topic partition offset w (.error f) (c, w)

/-- An assignment fails as it is documented to, unless its arguments do not fit the client. -/
theorem AssignmentEnds.documented_iff {w : World (σ × List Exchange)} {r : Except Fault Unit}
    {t : Consumer × World (σ × List Exchange)}
    (h : AssignmentEnds c id topic partition offset w r t) :
    (∀ f, r = .error f → f.cls = .validation ∨ f.cls = .broker) ↔
      ∀ p, Passes topic partition offset p → ¬∃ f, Misfit p f := by
  cases h with
  | granted passes fits =>
    refine ⟨fun _ q hq => ?_, fun _ f hf => nomatch hf⟩
    rwa [passes.unique hq]
  | rejected passes fits =>
    refine ⟨fun _ q hq => ?_, fun _ f hf => ?_⟩
    · rwa [passes.unique hq]
    · cases hf
      exact Or.inr rfl
  | refused h =>
    refine ⟨fun _ q hq => absurd ⟨q, hq⟩ h, fun _ f hf => ?_⟩
    cases hf
    exact Or.inl rfl
  | @unfit p f passes h =>
    refine ⟨fun hf => ?_, fun hfits => absurd ⟨f, h⟩ (hfits p passes)⟩
    exact absurd (hf f rfl) (not_or.mpr h.cls)

/-- In a mode that admits assignments, what does not pass the checks is refused, and of the rest a
partition is made. -/
theorem placeRequest_cases (hadmits : c.admits .assign = .ok ()) :
    (∃ cause, c.placeRequest topic partition offset = .error (.refused cause) ∧
      ¬∃ p, Passes topic partition offset p) ∨
    ∃ p, Passes topic partition offset p ∧ c.placeRequest topic partition offset =
      (TopicPartition.make p.topic p.partition p.offset).map .place := by
  simp only [placeRequest, hadmits, passes_iff]
  rcases ht : Check.text topic "topic" with f | t
  · obtain ⟨cause, rfl⟩ := Check.text_refuses f ht
    exact Or.inl ⟨cause, rfl, by simp⟩
  rcases hp : Check.natural partition "partition" with f | n
  · obtain ⟨cause, rfl⟩ := Check.natural_refuses f hp
    exact Or.inl ⟨cause, rfl, by simp⟩
  rcases ho : Check.integer offset "offset" with f | o
  · obtain ⟨cause, rfl⟩ := Check.integer_refuses f ho
    exact Or.inl ⟨cause, rfl, by simp⟩
  refine Or.inr ⟨⟨t, n, o⟩, ⟨rfl, rfl, rfl⟩, ?_⟩
  rcases hmake : TopicPartition.make t n o with f | place <;>
    simp [bind, Except.bind, Except.map, hmake]

theorem perform_place (hL : ∀ ps s k text, (L.answer id (.assign ps) s).1 ≠ .error (.raised k text))
    (passes : Passes topic partition offset p) (fits : ¬∃ f, Misfit p f)
    (w : World (σ × List Exchange)) :
    AssignmentEnds c id topic partition offset w
      (ModeRequest.perform L.recorded id (.place p) (c, w)).1
      (ModeRequest.perform L.recorded id (.place p) (c, w)).2 := by
  have hcalls : (World.request L.recorded id (.assign [p]) w).2.calls = _ :=
    World.request_calls (.assign [p]) w
  obtain ⟨a, ha, hanswer, hheard⟩ :=
    World.finish_heard L id (.assign [p]) (w.enter (.called id (.assign [p])))
  have hrequest : (World.request L.recorded id (.assign [p]) w).1 = a.mapError .ofClient := ha
  replace hheard : (World.request L.recorded id (.assign [p]) w).2.heard = _ := hheard
  simp only [ModeRequest.perform, ModeRequest.ask]
  rcases hr : World.request L.recorded id (.assign [p]) w with ⟨r, u⟩
  rw [hr] at hcalls hrequest hheard
  obtain rfl : r = _ := hrequest
  rcases a with (e | ⟨k, text⟩) | ⟨⟩
  · exact .rejected passes fits hcalls hheard
  · exact absurd hanswer.symm (hL _ _ k text)
  · exact .granted passes fits hcalls hheard

/-- An assignment is granted or rejected by the client, for exactly the place that was given, or it
is refused before that. Only arguments that pass the checks and do not fit the client end it in a
fault that is neither a refusal nor a broker's error. -/
theorem assignments_end_as_documented (hopen : c.client = some id)
    (hmode : c.mode ≠ some .subscribe)
    (hL : ∀ ps s k text, (L.answer id (.assign ps) s).1 ≠ .error (.raised k text))
    (topic partition offset : Value) (w : World (σ × List Exchange)) :
    ∃ r t, subscribeAtOffset L.recorded topic partition offset (c, w) = (r, t) ∧
      AssignmentEnds c id topic partition offset w r t ∧
      ((∀ f, r = .error f → f.cls = .validation ∨ f.cls = .broker) ↔
        ∀ p, Passes topic partition offset p → ¬∃ f, Misfit p f) := by
  have hadmits : c.admits .assign = .ok () := by
    rw [admits_ok]
    rcases hc : c.mode with _ | _ | _
    · exact Or.inl rfl
    · exact absurd hc hmode
    · exact Or.inr rfl
  suffices h : AssignmentEnds c id topic partition offset w
      (subscribeAtOffset L.recorded topic partition offset (c, w)).1
      (subscribeAtOffset L.recorded topic partition offset (c, w)).2 from
    ⟨_, _, rfl, h, h.documented_iff⟩
  rw [subscribeAtOffset_apply]
  simp only [demand, hopen, openClient]
  rcases placeRequest_cases hadmits with ⟨cause, hrequest, hpasses⟩ | ⟨p, passes, hrequest⟩
  · rw [hrequest]
    exact .refused hpasses
  · rw [hrequest]
    rcases hmake : TopicPartition.make p.topic p.partition p.offset with f | place
    · exact .unfit passes (TopicPartition.misfit_of_make hmake)
    · obtain ⟨rfl, -⟩ := TopicPartition.make_ok.mp hmake
      apply perform_place hL passes
      rintro ⟨f, h⟩
      exact h.not_make _ hmake

/-- The last partition and the first offset that a client can be assigned. -/
theorem outermost_place_is_assigned :
    let c : Consumer := ⟨some 0, none, .latest, false⟩
    let w : World (List (Option Message) × List Exchange) := { library := ([], []) }
    let p : TopicPartition := ⟨"jobs", 2147483647, -9223372036854775808⟩
    ∃ t, subscribeAtOffset Library.queue.recorded (.text p.topic) (.int p.partition)
        (.int p.offset) (c, w) = (.ok (), t) ∧
      AssignmentEnds c 0 (.text p.topic) (.int p.partition) (.int p.offset) w (.ok ()) t ∧
      t.2.calls = [(0, .assign [p])] := by
  intro c w p
  have hopen : c.client = some 0 := rfl
  obtain ⟨r, t, hassign, hends, -⟩ := assignments_end_as_documented (L := Library.queue) hopen
    (by decide) (fun _ _ _ _ => nofun) (.text p.topic) (.int p.partition) (.int p.offset) w
  have htext : Check.text (.text p.topic) "topic" = .ok p.topic :=
    Check.text_ok.mpr ⟨rfl, by decide⟩
  have hmake : TopicPartition.make p.topic p.partition p.offset = .ok p :=
    TopicPartition.make_ok.mpr ⟨rfl, by decide, by decide, by decide⟩
  have hrequest : c.placeRequest (.text p.topic) (.int p.partition) (.int p.offset) =
      .ok (.place p) := placeRequest_ok.mpr ⟨_, _, _, p, htext, rfl, rfl, rfl, hmake, rfl⟩
  rw [subscribeAtOffset_apply, hrequest] at hassign
  cases hassign
  exact ⟨_, by rw [subscribeAtOffset_apply, hrequest]; rfl, hends, rfl⟩

/-- The partition after the last passes the checks, and is told as neither a refusal nor a broker's
error, although the client would grant whatever it is asked. -/
theorem partition_above_int32_is_not_refused :
    let c : Consumer := ⟨some 0, none, .latest, false⟩
    let w : World (List (Option Message) × List Exchange) := { library := ([], []) }
    c.client = some 0 ∧ c.mode ≠ some .subscribe ∧
      (∀ ps s, (Library.queue.answer 0 (.assign ps) s).1 = .ok ()) ∧
      (subscribeAtOffset Library.queue.recorded (.text "t") (.int 2147483648) (.int 0) (c, w)).1 =
        .error .integerAboveInt32 ∧
      Fault.integerAboveInt32.cls ≠ .validation ∧ Fault.integerAboveInt32.cls ≠ .broker := by
  intro c w
  refine ⟨rfl, by decide, fun _ _ => rfl, ?_, by decide, by decide⟩
  have htext : Check.text (.text "t") "topic" = .ok "t" := Check.text_ok.mpr ⟨rfl, by decide⟩
  have hint : Check.int32 2147483648 = .error .integerAboveInt32 := by
    rw [Check.int32, if_neg (by decide), if_pos (by decide)]
  have hmake : TopicPartition.make "t" 2147483648 0 = .error .integerAboveInt32 := by
    rw [TopicPartition.make, if_neg (by decide), hint]
  have hrequest : c.placeRequest (.text "t") (.int 2147483648) (.int 0) =
      .error .integerAboveInt32 := by
    simp only [placeRequest, htext]
    exact congrArg (· >>= fun place => .ok (.place place)) hmake
  rw [subscribeAtOffset_apply, hrequest]
  rfl

end Consumer

end KafkaHandles
