import KafkaHandles.Action
import Mathlib.Order.Defs.Unbundled

/-!
# Runs of actions

Four ways to reason about an action without opening the actions it is made of: an inversion of
every combinator, the faults that its parts can end in, relations between the states before and
after it that every part of it respects, and maps of states under which every part of it looks like
the same part of another action.
-/

namespace KafkaHandles.Action

variable {S T α β : Type}

/-! ## Inversion -/

/-- A sequence ends in its second part, or in a fault of its first. -/
theorem bind_cases {a : Action S α} {next : α → Action S β} {s t : S} {r : Except Fault β}
    (h : (a >>= next) s = (r, t)) :
    (∃ v u, a s = (.ok v, u) ∧ next v u = (r, t)) ∨ ∃ f, a s = (.error f, t) ∧ r = .error f := by
  rw [bind_apply] at h
  rcases ha : a s with ⟨_ | v, u⟩
  · rw [ha] at h
    cases h
    exact Or.inr ⟨_, rfl, rfl⟩
  · rw [ha] at h
    exact Or.inl ⟨v, u, rfl, h⟩

/-- A sequence that ends in a value has had a value of its first part. -/
theorem bind_ok_cases {a : Action S α} {next : α → Action S β} {s t : S} {v : β}
    (h : (a >>= next) s = (.ok v, t)) : ∃ u m, a s = (.ok u, m) ∧ next u m = (.ok v, t) := by
  rcases bind_cases h with h | ⟨f, _, hf⟩
  · exact h
  · cases hf

theorem lift_ok_cases {e : Except Fault α} {s t : S} {v : α} (h : lift e s = (.ok v, t)) :
    e = .ok v ∧ s = t :=
  Prod.mk.inj h

/-- An action with another form of its value. -/
theorem bind_pure_apply (a : Action S α) (f : α → β) (s : S) :
    (a >>= fun v => pure (f v)) s = ((a s).1.map f, (a s).2) := by
  rw [bind_apply]
  rcases a s with ⟨_ | _, _⟩ <;> rfl

/-- An action that has not come to its end is not closed. -/
theorem thenAtEnd_unfinished {a : Action S Bool} {closing : Action S Unit} {s t : S}
    (h : a s = (.ok false, t)) : a.thenAtEnd closing s = (.ok false, t) := by
  simp only [thenAtEnd, h]

/-- An action that has come to its end is closed, and a fault of that replaces its outcome. -/
theorem thenAtEnd_finished {a : Action S Bool} {closing : Action S Unit} {s t u : S}
    {r : Except Fault Bool} {closed : Except Fault Unit} (h : a s = (r, t)) (hr : r ≠ .ok false)
    (hclosing : closing t = (closed, u)) :
    a.thenAtEnd closing s = (closed >>= fun _ => r, u) := by
  unfold thenAtEnd
  rw [h]
  split
  · rename_i h
    cases h
    exact absurd rfl hr
  · rename_i h
    cases h
    rw [hclosing]
    cases closed <;> rfl

/-! ## Faults -/

/-- Whatever state an action starts in, a fault that it ends in satisfies `P`. -/
def Raises (P : Fault → Prop) (a : Action S α) : Prop :=
  ∀ s f, (a s).1 = .error f → P f

variable {P : Fault → Prop}

theorem Raises.pure (v : α) : Raises P (pure v : Action S α) :=
  fun _ _ h => nomatch h

theorem Raises.modify (f : S → S) : Raises P (modify f) :=
  fun _ _ h => nomatch h

theorem Raises.get : Raises P (get : Action S S) :=
  fun _ _ h => nomatch h

theorem Raises.lift {e : Except Fault α} (h : ∀ f, e = .error f → P f) :
    Raises P (lift e : Action S α) :=
  fun _ => h

theorem Raises.bind {a : Action S α} {next : α → Action S β} (ha : Raises P a)
    (hn : ∀ v, Raises P (next v)) : Raises P (a >>= next) := by
  intro s f hf
  have h := ha s
  rw [bind_apply] at hf
  rcases has : a s with ⟨e | v, u⟩
  · rw [has] at h hf
    cases hf
    exact h f rfl
  · rw [has] at hf
    exact hn v u f hf

/-! ## Relations between the states before and after -/

/-- Whatever state an action starts in, `R` relates it to the state the action leaves. -/
def Within (R : S → S → Prop) (a : Action S α) : Prop :=
  ∀ s, R s (a s).2

variable {R : S → S → Prop}

theorem Within.modify {f : S → S} (h : ∀ s, R s (f s)) : Within R (modify f) :=
  h

section Preorder

variable [IsPreorder S R]

theorem Within.still {a : Action S α} (h : ∀ s, (a s).2 = s) : Within R a := by
  intro s
  rw [h s]
  exact refl_of R s

theorem Within.pure (v : α) : Within R (pure v : Action S α) :=
  .still fun _ => rfl

theorem Within.lift (e : Except Fault α) : Within R (lift e : Action S α) :=
  .still fun _ => rfl

theorem Within.get : Within R (get : Action S S) :=
  .still fun _ => rfl

theorem Within.bind {a : Action S α} {next : α → Action S β} (ha : Within R a)
    (hn : ∀ v, Within R (next v)) : Within R (a >>= next) := by
  intro s
  have h := ha s
  rw [bind_apply]
  rcases has : a s with ⟨_ | v, u⟩
  · rw [has] at h
    exact h
  · rw [has] at h
    exact trans_of R h (hn v u)

end Preorder

/-! ## Kinds of relations -/

/-- A part of the state stays the same. -/
def Same {γ : Type} (part : S → γ) (s t : S) : Prop :=
  part t = part s

instance {γ : Type} (part : S → γ) : IsPreorder S (Same part) where
  refl _ := rfl
  trans _ _ _ h h' := Eq.trans h' h

/-- A list that the state holds is only added to, and all that is added satisfies `P`. -/
def Adds {γ : Type} (part : S → List γ) (P : γ → Prop) (s t : S) : Prop :=
  ∃ new, part t = part s ++ new ∧ ∀ x ∈ new, P x

instance {γ : Type} (part : S → List γ) (P : γ → Prop) : IsPreorder S (Adds part P) where
  refl _ := ⟨[], by simp, by simp⟩
  trans := by
    rintro s t u ⟨new, ht, hnew⟩ ⟨more, hu, hmore⟩
    refine ⟨new ++ more, by rw [hu, ht, List.append_assoc], ?_⟩
    intro x hx
    rcases List.mem_append.mp hx with hx | hx
    · exact hnew x hx
    · exact hmore x hx

theorem Adds.mono {γ : Type} {part : S → List γ} {P Q : γ → Prop} {s t : S}
    (h : Adds part P s t) (hPQ : ∀ x, P x → Q x) : Adds part Q s t := by
  obtain ⟨new, ht, hnew⟩ := h
  exact ⟨new, ht, fun x hx => hPQ x (hnew x hx)⟩

/-- A relation between the second parts of states. -/
def OnSecond (R : T → T → Prop) (t u : S × T) : Prop :=
  R t.2 u.2

instance {R : T → T → Prop} [IsPreorder T R] : IsPreorder (S × T) (OnSecond R) where
  refl t := refl_of R t.2
  trans _ _ _ h h' := trans_of R h h'

theorem Within.onSecond {R : T → T → Prop} {a : Action T α} (h : Within R a) :
    Within (OnSecond R) (a.onSecond : Action (S × T) α) :=
  fun s => h s.2

theorem Adds.one {γ : Type} {part : S → List γ} {P : γ → Prop} {s t : S} {x : γ}
    (h : part t = part s ++ [x]) (hx : P x) : Adds part P s t :=
  ⟨[x], h, by simpa using hx⟩

/-! ## Maps of states -/

/-- Under a map of states, one action looks like another, with the same outcomes. -/
def Mirrors (f : S → T) (a : Action S α) (b : Action T α) : Prop :=
  ∀ s, b (f s) = ((a s).1, f (a s).2)

variable {f : S → T}

theorem Mirrors.pure (v : α) : Mirrors f (pure v) (pure v) :=
  fun _ => rfl

theorem Mirrors.fail (e : Fault) : Mirrors f (fail e : Action S α) (Action.fail e) :=
  fun _ => rfl

theorem Mirrors.lift (e : Except Fault α) : Mirrors f (lift e) (Action.lift e) :=
  fun _ => rfl

theorem Mirrors.modify {change : S → S} {change' : T → T} (h : ∀ s, change' (f s) = f (change s)) :
    Mirrors f (modify change) (Action.modify change') :=
  fun s => congrArg (Prod.mk _) (h s)

theorem Mirrors.bind {a : Action S α} {b : Action T α} {next : α → Action S β}
    {next' : α → Action T β} (h : Mirrors f a b) (hnext : ∀ v, Mirrors f (next v) (next' v)) :
    Mirrors f (a >>= next) (b >>= next') := by
  intro s
  rw [bind_apply, bind_apply, h s]
  rcases a s with ⟨e | v, t⟩
  · rfl
  · exact hnext v t

/-- Actions that go on with what they read of the state. -/
theorem Mirrors.get {next : S → Action S α} {next' : T → Action T α}
    (h : ∀ s, Mirrors f (next s) (next' (f s))) : Mirrors f (get >>= next) (get >>= next') :=
  fun s => h s s

theorem Mirrors.mapFault {a : Action S α} {b : Action T α} (h : Mirrors f a b)
    (g : Fault → Fault) : Mirrors f (a.mapFault g) (b.mapFault g) := by
  intro s
  unfold Action.mapFault
  rw [h s]
  rcases a s with ⟨_ | _, _⟩ <;> rfl

theorem Mirrors.attempt {a : Action S α} {b : Action T α} (h : Mirrors f a b) :
    Mirrors f a.attempt b.attempt := by
  intro s
  unfold Action.attempt
  rw [h s]

theorem Mirrors.thenAlways {a : Action S α} {b : Action T α} {closing : Action S Unit}
    {closing' : Action T Unit} (h : Mirrors f a b) (hclosing : Mirrors f closing closing') :
    Mirrors f (a.thenAlways closing) (b.thenAlways closing') := by
  intro s
  simp only [Action.thenAlways, h s, hclosing (a s).2]
  rcases closing (a s).2 with ⟨_ | _, _⟩ <;> rfl

theorem Mirrors.onFirst {U : Type} {a : Action S α} {b : Action T α} (h : Mirrors f a b) :
    Mirrors (Prod.map f (id : U → U)) a.onFirst b.onFirst := by
  intro ⟨s, u⟩
  unfold Action.onFirst
  simp only [Prod.map_apply, id_eq, h s]

theorem Mirrors.onSecond {U : Type} {a : Action S α} {b : Action T α} (h : Mirrors f a b) :
    Mirrors (Prod.map (id : U → U) f) a.onSecond b.onSecond := by
  intro ⟨u, s⟩
  unfold Action.onSecond
  simp only [Prod.map_apply, id_eq, h s]

end KafkaHandles.Action
