import KafkaHandles.Value.Text

/-!
# Values that have a text

A value has a text exactly if none of the integers in it is too long and none of its parts lies too
deep. Text values always have one.
-/

namespace KafkaHandles.Value

mutual

/-- How deep the parts of a value lie. -/
def depth : Value → Nat
  | .list vs | .tuple vs => depthEach vs
  | .dict es => depthEntries es
  | _ => 0

/-- How deep values lie, with their parts, that are parts of another. -/
def depthEach : List Value → Nat
  | [] => 0
  | v :: vs => max (v.depth + 1) (depthEach vs)

/-- How deep the entries of a dictionary lie, with their parts. -/
def depthEntries : List (Value × Value) → Nat
  | [] => 0
  | (k, v) :: es => max (max k.depth v.depth + 1) (depthEntries es)

end

mutual

/-- The integers in a value. -/
def integers : Value → List Int
  | .int n => [n]
  | .list vs | .tuple vs => integersEach vs
  | .dict es => integersEntries es
  | _ => []

/-- The integers in values. -/
def integersEach : List Value → List Int
  | [] => []
  | v :: vs => v.integers ++ integersEach vs

/-- The integers in the entries of a dictionary. -/
def integersEntries : List (Value × Value) → List Int
  | [] => []
  | (k, v) :: es => k.integers ++ v.integers ++ integersEntries es

end

/-- Whether all integers of a list can be written. -/
def Short (ns : List Int) : Prop :=
  ∀ n ∈ ns, n.natAbs < Text.digitBound

/-- Whether a value has a text. -/
structure HasText (v : Value) : Prop where
  /-- None of its integers is too long. -/
  short : Short v.integers
  /-- None of its parts lies too deep. -/
  shallow : v.depth ≤ maxNesting

@[simp]
theorem Short.nil : Short [] := by
  simp [Short]

@[simp]
theorem short_append {ms ns : List Int} : Short (ms ++ ns) ↔ Short ms ∧ Short ns := by
  simp [Short, or_imp, forall_and]

/-! ## Which texts can be made -/

/-- A text that is made in two steps can be made if both steps succeed. -/
theorem told_bind {α β : Type} {a : Except TextFlaw α} {f : α → Except TextFlaw β} {P Q : Prop}
    (ha : (∃ x, a = .ok x) ↔ P) (hf : ∀ x, a = .ok x → ((∃ y, f x = .ok y) ↔ Q)) :
    (∃ y, (a >>= f) = .ok y) ↔ P ∧ Q := by
  cases a with
  | error flaw =>
    have hp : ¬P := by simpa using ha
    simp [hp, bind, Except.bind]
  | ok x =>
    have hp : P := ha.mp ⟨x, rfl⟩
    have hq := hf x rfl
    simpa [hp, bind, Except.bind] using hq

theorem told_map {α β : Type} {a : Except TextFlaw α} {g : α → β} {P : Prop}
    (ha : (∃ x, a = .ok x) ↔ P) : (∃ y, (do let x ← a; .ok (g x)) = .ok y) ↔ P :=
  (told_bind ha fun x _ => by simp).trans (and_true P).to_iff

theorem error_of_untold {α : Type} {a : Except TextFlaw α} {P : Prop} (ha : (∃ x, a = .ok x) ↔ P)
    (h : ¬P) : ∃ flaw, a = .error flaw := by
  cases a with
  | error flaw => exact ⟨flaw, rfl⟩
  | ok x => exact absurd (ha.mp ⟨x, rfl⟩) h

theorem integerText_told {n : Int} : (∃ s, integerText n = .ok s) ↔ n.natAbs < Text.digitBound := by
  unfold integerText
  split <;> simp_all

mutual

theorem shownWithin_told (room : Nat) :
    (v : Value) → ((∃ s, v.shownWithin room = .ok s) ↔ Short v.integers ∧ v.depth ≤ room)
  | .int n => by simp [shownWithin, integers, depth, Short, integerText_told]
  | .list vs => by
    rw [shownWithin, integers, depth]
    exact told_map (shownEach_told room vs)
  | .tuple vs => by
    rw [shownWithin, integers, depth]
    exact told_map (shownEach_told room vs)
  | .dict es => by
    rw [shownWithin, integers, depth]
    exact told_map (shownEntries_told room es)
  | .none | .bool _ | .float _ _ | .text _ | .bytes _ | .buffer _ | .view _ | .policy _ | .role _
  | .error _ | .logSink | .object _ => by simp [shownWithin, integers, depth]

theorem shownEach_told (room : Nat) : (vs : List Value) →
    ((∃ ss, shownEach room vs = .ok ss) ↔ Short (integersEach vs) ∧ depthEach vs ≤ room)
  | [] => by simp [shownEach, integersEach, depthEach]
  | v :: vs => by
    cases room with
    | zero => simp [shownEach, depthEach]
    | succ room =>
      rw [shownEach, integersEach, depthEach, short_append]
      have hrest : ∀ part, shownWithin room v = .ok part →
          ((∃ ss, (do let parts ← shownEach (room + 1) vs; .ok (part :: parts)) = .ok ss) ↔
            Short (integersEach vs) ∧ depthEach vs ≤ room + 1) :=
        fun part _ => told_map (shownEach_told (room + 1) vs)
      rw [told_bind (shownWithin_told room v) hrest]
      rw [Nat.max_le, Nat.add_le_add_iff_right]
      exact and_and_and_comm

theorem shownEntries_told (room : Nat) : (es : List (Value × Value)) →
    ((∃ ss, shownEntries room es = .ok ss) ↔ Short (integersEntries es) ∧ depthEntries es ≤ room)
  | [] => by simp [shownEntries, integersEntries, depthEntries]
  | (k, v) :: es => by
    cases room with
    | zero => simp [shownEntries, depthEntries]
    | succ room =>
      rw [shownEntries, integersEntries, depthEntries, short_append, short_append]
      have hrest : ∀ key part, ((∃ ss, (do
          let parts ← shownEntries (room + 1) es
          .ok ((key ++ ": " ++ part) :: parts)) = .ok ss) ↔
            Short (integersEntries es) ∧ depthEntries es ≤ room + 1) :=
        fun key part => told_map (shownEntries_told (room + 1) es)
      rw [told_bind (shownWithin_told room k) fun key _ =>
        told_bind (shownWithin_told room v) fun part _ => hrest key part]
      rw [Nat.max_le, Nat.add_le_add_iff_right, Nat.max_le]
      constructor
      · rintro ⟨⟨hk, hkroom⟩, ⟨hv, hvroom⟩, hes, hroom⟩
        exact ⟨⟨⟨hk, hv⟩, hes⟩, ⟨hkroom, hvroom⟩, hroom⟩
      · rintro ⟨⟨⟨hk, hv⟩, hes⟩, ⟨hkroom, hvroom⟩, hroom⟩
        exact ⟨⟨hk, hkroom⟩, ⟨hv, hvroom⟩, hes, hroom⟩

end

variable {v : Value}

theorem exists_shown : (∃ s, v.shown = .ok s) ↔ v.HasText :=
  (shownWithin_told maxNesting v).trans ⟨fun h => ⟨h.1, h.2⟩, fun h => ⟨h.short, h.shallow⟩⟩

theorem HasText.shown (h : v.HasText) : ∃ s, v.shown = .ok s :=
  exists_shown.mpr h

theorem shown_error (h : ¬v.HasText) : ∃ flaw, v.shown = .error flaw :=
  error_of_untold exists_shown h

theorem HasText.of_shown {s : String} (h : v.shown = .ok s) : v.HasText :=
  exists_shown.mp ⟨s, h⟩

/-! ## Plain texts -/

/-- Text stands for itself and constants go by name; all other values have one text. -/
theorem plain_eq_shown (v : Value) :
    v.plain = v.shown ∨ ∃ s t, v.plain = .ok s ∧ v.shown = .ok t := by
  cases v with
  | text s => exact Or.inr ⟨_, _, rfl, rfl⟩
  | policy p => exact Or.inr ⟨_, _, rfl, rfl⟩
  | role r => exact Or.inr ⟨_, _, rfl, rfl⟩
  | _ => exact Or.inl rfl

theorem exists_plain : (∃ s, v.plain = .ok s) ↔ v.HasText := by
  rw [← exists_shown]
  rcases plain_eq_shown v with h | ⟨s, t, hs, ht⟩
  · rw [h]
  · simp [hs, ht]

theorem HasText.plain (h : v.HasText) : ∃ s, v.plain = .ok s :=
  exists_plain.mpr h

theorem plain_error (h : ¬v.HasText) : ∃ flaw, v.plain = .error flaw :=
  error_of_untold exists_plain h

theorem HasText.text (s : String) : (Value.text s).HasText :=
  exists_plain.mp ⟨s, rfl⟩

/-! ## The least integer without a text -/

theorem integerText_digitBound : integerText Text.digitBound = .error .digitsTooMany := by
  rw [integerText, Int.natAbs_natCast, if_neg (Nat.lt_irrefl _)]

theorem shown_digitBound : (Value.int Text.digitBound).shown = .error .digitsTooMany := by
  rw [Value.shown, shownWithin, integerText_digitBound]

theorem plain_digitBound : (Value.int Text.digitBound).plain = .error .digitsTooMany :=
  shown_digitBound

end KafkaHandles.Value
