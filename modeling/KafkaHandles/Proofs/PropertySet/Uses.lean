import KafkaHandles.Proofs.Action
import KafkaHandles.Proofs.PropertySet
import Mathlib.Data.List.Induction

/-!
# Uses of a property set

Everything that can be done with a property set, and runs of it. A set that is held only grows, and
what it takes on is told apart from all that it has; a set that is handed over or released refuses
whatever would change it.
-/

namespace KafkaHandles

/-- What can be done with a property set. -/
inductive Use
  | set (name v : Value)
  | update (properties : Value)
  | take
  | release
  /-- Begins a block that releases the set at its end. -/
  | enter
  /-- Ends such a block. -/
  | leave

namespace Use

/-- Whether a use gives the properties up. -/
def releases : Use → Bool
  | release | leave => true
  | _ => false

/-- The properties that a use is to set, in order. -/
def properties : Use → Dict
  | set name v => [(name, v)]
  | update (.dict d) => d
  | _ => []

end Use

/-- A use that was made: what it found, what came of it, and what it left. -/
structure Used (S α : Type) where
  use : Use
  before : S
  outcome : Except Fault (Option α)
  after : S

namespace Used

variable {S α : Type}

/-- What a use has handed over. -/
def handed? (x : Used S α) : Option α :=
  match x.outcome with
  | .ok v => v
  | .error _ => none

theorem handed?_eq_some {x : Used S α} {v : α} :
    x.handed? = some v ↔ x.outcome = .ok (some v) := by
  unfold handed?
  split <;> simp_all

/-- An action that hands nothing over. -/
def silently (a : Action S Unit) : Action S (Option α) := do
  a
  pure none

theorem silently_apply (a : Action S Unit) (s : S) :
    (silently a : Action S (Option α)) s = ((a s).1.map fun _ => none, (a s).2) :=
  Action.bind_pure_apply a _ s

theorem handed?_silently {x : Used S α} {a : Action S Unit} {s : S}
    (h : x.outcome = (silently a s).1) : x.handed? = none := by
  rw [handed?, h, silently_apply]
  cases (a s).1 <;> rfl

theorem handed_once {l : List (Used S α)}
    (h : ∀ before x after, l = before ++ x :: after → ∀ v, x.handed? = some v →
      ∀ y ∈ before, y.handed? = none) : (l.filterMap handed?).length ≤ 1 := by
  induction l using List.reverseRecOn with
  | nil => simp
  | append_singleton l x ih =>
    rw [List.filterMap_append, List.length_append]
    cases hx : x.handed? with
    | none =>
      have hrest := ih fun before y after hsplit => h before y (after ++ [x]) (by simp [hsplit])
      simpa [hx] using hrest
    | some v =>
      have hnone : l.filterMap handed? = [] :=
        List.filterMap_eq_nil_iff.mpr (h l x [] rfl v hx)
      simp [hnone, hx]

variable (perform : Use → Action S (Option α))

/-- A use that is made of a state. -/
def of (u : Use) (s : S) : Used S α :=
  { use := u, before := s, outcome := (perform u s).1, after := (perform u s).2 }

/-- The uses of a run, one after another. -/
def trace : List Use → S → List (Used S α)
  | [], _ => []
  | u :: us, s => of perform u s :: trace us (of perform u s).after

variable {perform}

/-- An invariant that relates the uses made so far to the state they left holds along every run, and
so does all that it says about single uses. -/
theorem trace_invariant {I : List (Used S α) → S → Prop} {P : List (Used S α) → Used S α → Prop}
    (hsingle : ∀ past u s, I past s → P past (of perform u s))
    (hnext : ∀ past u s, I past s → I (past ++ [of perform u s]) (of perform u s).after)
    (past : List (Used S α)) {s : S} (h : I past s) (us : List Use) :
    ∀ before x after, trace perform us s = before ++ x :: after → P (past ++ before) x := by
  induction us generalizing past s with
  | nil =>
    intro before x after hsplit
    simp [trace] at hsplit
  | cons u us ih =>
    intro before x after hsplit
    cases before with
    | nil =>
      cases hsplit
      simpa using hsingle past u s h
    | cons y before =>
      rw [trace, List.cons_append, List.cons.injEq] at hsplit
      obtain ⟨rfl, hsplit⟩ := hsplit
      have hrest := ih _ (hnext past u s h) before x after hsplit
      rwa [List.append_assoc] at hrest

end Used

/-- The fault of using a set that is not held. -/
def Holding.refusal : Holding → Fault
  | .transferred => .propertiesTransferred
  | _ => .propertiesReleased

namespace PropertySet

/-- Makes a use of a set. Only taking hands anything over. -/
def perform : Use → Action PropertySet (Option Dict)
  | .set name v => Used.silently (set name v)
  | .update properties => Used.silently (update properties)
  | .take => some <$> take
  | .release | .leave => Used.silently release
  | .enter => pure none

/-! ## Sets that are not held -/

section Ended

variable {s : PropertySet} (h : s.holding ≠ .held)

include h

theorem checkHeld_ended : checkHeld s = (.error s.holding.refusal, s) := by
  simp only [checkHeld, Action.bind_apply, Action.get_apply]
  cases hs : s.holding with
  | held => exact absurd hs h
  | transferred => rfl
  | released => rfl

theorem set_ended (name v : Value) : set name v s = (.error s.holding.refusal, s) := by
  rw [set, Action.bind_error (checkHeld_ended h)]

theorem setAll_ended {d : Dict} (hd : d ≠ []) : setAll d s = (.error s.holding.refusal, s) := by
  obtain ⟨⟨name, v⟩, rest, rfl⟩ := List.exists_cons_of_ne_nil hd
  rw [setAll, Action.bind_error (set_ended h name v)]

theorem take_ended : take s = (.error s.holding.refusal, s) := by
  rw [take, Action.bind_error (checkHeld_ended h)]

theorem release_ended : release s = (.ok (), s) := by
  cases hs : s.holding with
  | held => exact absurd hs h
  | transferred => simp [release, hs]
  | released => simp [release, hs]

theorem update_ended (v : Value) : (update v s).2 = s := by
  cases v with
  | dict d =>
    cases d with
    | nil => rfl
    | cons e d => rw [update, setAll_ended h (List.cons_ne_nil e d)]
  | _ => rfl

/-- Nothing changes a set that is not held. -/
theorem perform_ended (u : Use) : (perform u s).2 = s := by
  cases u with
  | set name v => rw [perform, Used.silently_apply, set_ended h]
  | update v => rw [perform, Used.silently_apply, update_ended h]
  | take => rw [perform, map_eq_pure_bind, Action.bind_error (take_ended h)]
  | release => rw [perform, Used.silently_apply, release_ended h]
  | enter => rfl
  | leave => rw [perform, Used.silently_apply, release_ended h]

end Ended

/-! ## Sets that are held -/

/-- The properties that are set when they are set in order, up to the first that is rejected. -/
def accepted : Dict → PropertySet → Dict
  | [], _ => []
  | (name, v) :: rest, s => match set name v s with
    | (.ok _, s) => (name, v) :: accepted rest s
    | (.error _, _) => []

theorem accepted_ended {s : PropertySet} (h : s.holding ≠ .held) (d : Dict) :
    accepted d s = [] := by
  cases d with
  | nil => rfl
  | cons e d => rw [accepted, set_ended h]

/-- One property is added at the end, or it is rejected and nothing changes. -/
theorem set_held_cases (name v : Value) (d : Dict) :
    (set name v ⟨d, .held⟩ = (.ok (), ⟨d ++ [(name, v)], .held⟩) ∧ name.unhashable? = none ∧
      d.hasKey name = false) ∨
    ∃ f, set name v ⟨d, .held⟩ = (.error f, ⟨d, .held⟩) := by
  rw [set_held, checkName]
  cases hname : name.unhashable? with
  | some kind => exact Or.inr ⟨_, rfl⟩
  | none =>
    cases hkey : d.hasKey name with
    | true => exact Or.inr ⟨_, rfl⟩
    | false => exact Or.inl ⟨rfl, rfl, rfl⟩

theorem set_rejected {name v : Value} {s : PropertySet} {f : Fault}
    (h : (set name v s).1 = .error f) : (set name v s).2 = s := by
  by_cases hheld : s.holding = .held
  · obtain ⟨d, holding⟩ := s
    obtain rfl : holding = .held := hheld
    rcases set_held_cases name v d with ⟨hset, -, -⟩ | ⟨g, hset⟩
    · rw [hset] at h
      cases h
    · rw [hset]
  · rw [set_ended hheld]

theorem setAll_singleton (name v : Value) : setAll [(name, v)] = set name v :=
  bind_pure_unit

theorem setAll_held (properties d : Dict) : (setAll properties ⟨d, .held⟩).2 =
    ⟨d ++ accepted properties ⟨d, .held⟩, .held⟩ := by
  induction properties generalizing d with
  | nil => simp [setAll, accepted]
  | cons e rest ih =>
    obtain ⟨name, v⟩ := e
    rw [setAll, accepted]
    rcases set_held_cases name v d with ⟨hset, -, -⟩ | ⟨f, hset⟩
    · rw [Action.bind_ok hset, ih, hset, List.append_assoc]
      rfl
    · rw [Action.bind_error hset, hset, List.append_nil]

theorem accepted_proper (properties : Dict) {d : Dict} (h : d.Proper) :
    Dict.Proper (d ++ accepted properties ⟨d, .held⟩) := by
  induction properties generalizing d with
  | nil => rwa [accepted, List.append_nil]
  | cons e rest ih =>
    obtain ⟨name, v⟩ := e
    rw [accepted]
    rcases set_held_cases name v d with ⟨hset, hname, hkey⟩ | ⟨f, hset⟩
    · rw [hset]
      have hnext := ih (h.snoc v hname hkey)
      rwa [List.append_assoc] at hnext
    · rwa [hset, List.append_nil]

end PropertySet

end KafkaHandles
