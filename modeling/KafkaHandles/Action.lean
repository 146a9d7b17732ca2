import KafkaHandles.Fault

/-!
# Actions

Computations on a state that end in a value or in a fault. The state that an action leaves is kept
in both cases: a fault undoes nothing. An action on one part of a state is an action on the whole.
-/

namespace KafkaHandles

/-- A computation on a state `S` that ends in a value or in a fault. -/
def Action (S α : Type) : Type := S → Except Fault α × S

namespace Action

variable {S T α β : Type}

/-- Runs an action on a state. -/
def run (a : Action S α) (s : S) : Except Fault α × S := a s

/-- Ends in a value and leaves the state as it is. -/
def done (v : α) : Action S α := fun s => (.ok v, s)

/-- Ends in a fault and leaves the state as it is. -/
def fail (f : Fault) : Action S α := fun s => (.error f, s)

/-- Goes on with the value of an action, unless that ends in a fault. -/
def andThen (a : Action S α) (next : α → Action S β) : Action S β := fun s =>
  match a s with
  | (.ok v, s) => next v s
  | (.error f, s) => (.error f, s)

instance : Monad (Action S) where
  pure := done
  bind := andThen

/-- Ends in the state. -/
def get : Action S S := fun s => (.ok s, s)

/-- Puts another state in the place of the state. -/
def set (s : S) : Action S Unit := fun _ => (.ok (), s)

/-- Changes the state. -/
def modify (f : S → S) : Action S Unit := fun s => (.ok (), f s)

/-- Ends in the outcome of a computation that has no state. -/
def lift (e : Except Fault α) : Action S α := fun s => (e, s)

/-- Refuses an argument. -/
def refuse (cause : Refusal) : Action S α := fail (.refused cause)

/-- Ends in the outcome of an action, be it a value or a fault. -/
def attempt (a : Action S α) : Action S (Except Fault α) := fun s =>
  match a s with
  | (r, s) => (.ok r, s)

/-- Puts another fault in the place of the fault an action ends in. -/
def mapFault (f : Fault → Fault) (a : Action S α) : Action S α := fun s =>
  match a s with
  | (.ok v, s) => (.ok v, s)
  | (.error e, s) => (.error (f e), s)

/-- Runs a closing action after an action, however that ends. A fault of the closing action takes
the place of the outcome. -/
def thenAlways (a : Action S α) (closing : Action S Unit) : Action S α := fun s =>
  match a s with
  | (r, s) => match closing s with
    | (.ok _, s) => (r, s)
    | (.error e, s) => (.error e, s)

/-- Runs a closing action after an action, unless that answers that it has not come to its end. -/
def thenAtEnd (a : Action S Bool) (closing : Action S Unit) : Action S Bool := fun s =>
  match a s with
  | (.ok false, s) => (.ok false, s)
  | (r, s) => match closing s with
    | (.ok _, s) => (r, s)
    | (.error e, s) => (.error e, s)

/-- An action on the first part of a state. -/
def onFirst (a : Action S α) : Action (S × T) α := fun (s, t) =>
  match a s with
  | (r, s) => (r, (s, t))

/-- An action on the second part of a state. -/
def onSecond (a : Action T α) : Action (S × T) α := fun (s, t) =>
  match a t with
  | (r, t) => (r, (s, t))

/-- An action with a state of its own, which starts at `s` and is forgotten at the end. -/
def startingAt (s : S) (a : Action (S × T) α) : Action T α := fun t =>
  match a (s, t) with
  | (r, (_, t)) => (r, t)

instance : MonadLift (Action T) (Action (S × T)) := ⟨onSecond⟩

/-! ## What actions do to a state -/

@[simp] theorem pure_apply (v : α) (s : S) : (pure v : Action S α) s = (.ok v, s) := rfl

@[simp] theorem fail_apply (f : Fault) (s : S) : (fail f : Action S α) s = (.error f, s) := rfl

@[simp] theorem get_apply (s : S) : (get : Action S S) s = (.ok s, s) := rfl

@[simp] theorem set_apply (s t : S) : set s t = (.ok (), s) := rfl

@[simp] theorem modify_apply (f : S → S) (s : S) : modify f s = (.ok (), f s) := rfl

@[simp] theorem lift_apply (e : Except Fault α) (s : S) : lift e s = (e, s) := rfl

theorem bind_apply (a : Action S α) (next : α → Action S β) (s : S) :
    (a >>= next) s = match a s with
      | (.ok v, s) => next v s
      | (.error f, s) => (.error f, s) := rfl

theorem bind_ok {a : Action S α} {next : α → Action S β} {s t : S} {v : α}
    (h : a s = (.ok v, t)) : (a >>= next) s = next v t := by
  simp [bind_apply, h]

theorem bind_error {a : Action S α} {next : α → Action S β} {s t : S} {f : Fault}
    (h : a s = (.error f, t)) : (a >>= next) s = (.error f, t) := by
  simp [bind_apply, h]

theorem map_id_apply (a : Action S α) : id <$> a = a := by
  funext s
  simp only [Functor.map, andThen]
  rcases a s with ⟨_ | _, _⟩ <;> rfl

theorem bind_bind (a : Action S α) (f : α → Action S β) {γ : Type} (g : β → Action S γ) :
    a >>= f >>= g = a >>= fun v => f v >>= g := by
  funext s
  simp only [bind, andThen]
  rcases a s with ⟨_ | _, _⟩ <;> rfl

instance : LawfulMonad (Action S) :=
  LawfulMonad.mk' (Action S) map_id_apply (fun _ _ => rfl) fun a f g => bind_bind a f g

end Action

end KafkaHandles
