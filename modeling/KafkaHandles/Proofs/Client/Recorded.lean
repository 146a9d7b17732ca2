import KafkaHandles.Proofs.Client.Calls

/-!
# Recorded client libraries

The journal tells which calls were begun; what they were answered is known to the client library
alone. A recorded library is any client library together with a list of its exchanges, calls with
their answers, in the order of the answers. It serves and answers as the library does, and nothing
that is built on top of it can look at the list.
-/

namespace KafkaHandles

/-- A call on a client with its answer. -/
structure Exchange where
  client : ClientId
  call : Call
  answer : Except ClientFault call.Answer

variable {σ : Type}

/-- A client library that writes down its exchanges. -/
def Library.recorded (L : Library σ) : Library (σ × List Exchange) where
  serve id c s := match L.serve id c s.1 with
    | (es, t) => (es, (t, s.2))
  answer id c s := match L.answer id c s.1 with
    | (a, t) => (a, (t, s.2 ++ [⟨id, c, a⟩]))

namespace World

variable (L : Library σ) (id : ClientId)

/-- The exchanges that a recorded library has written down. -/
def heard (w : World (σ × List Exchange)) : List Exchange :=
  w.library.2

@[simp] theorem heard_setStop (flag : Option StopId) (w : World (σ × List Exchange)) :
    (w.setStop flag).heard = w.heard := by
  cases flag <;> rfl

@[simp] theorem begin_heard (c : Call) (w : World (σ × List Exchange)) :
    (begin L.recorded id c w).2.heard = w.heard := rfl

/-- A call that ends is written down with its answer. -/
theorem finish_heard (c : Call) (w : World (σ × List Exchange)) :
    ∃ a, (World.finish L.recorded id c w).1 = a.mapError .ofClient ∧
      a = (L.answer id c w.library.1).1 ∧
      (World.finish L.recorded id c w).2.heard = w.heard ++ [⟨id, c, a⟩] := by
  refine ⟨_, ?_, rfl, ?_⟩
  · rw [finish_answer]
    rfl
  · rw [finish_state]
    rfl

theorem request_heard (c : Call) (w : World (σ × List Exchange)) :
    ∃ a, (request L.recorded id c w).1 = a.mapError .ofClient ∧
      (request L.recorded id c w).2.heard = w.heard ++ [⟨id, c, a⟩] := by
  obtain ⟨a, ha, -, hheard⟩ := finish_heard L id c (w.enter (.called id c))
  exact ⟨a, ha, hheard⟩

end World

end KafkaHandles
