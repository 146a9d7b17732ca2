import KafkaHandles.Config
import KafkaHandles.Proofs.Check
import KafkaHandles.Proofs.Value.Text

/-!
# How partitions are assigned

Two properties of a configuration say whether its consumer assigns partitions step by step. Each is
read by its text, so a value without one keeps the consumer from being made.
-/

namespace KafkaHandles

theorem Text.occursIn_iff {needle cs : List Char} :
    occursIn needle cs = true ↔ needle <:+: cs := by
  induction cs with
  | nil => simp [occursIn]
  | cons c cs ih => simp [occursIn, ih, List.infix_cons_iff]

namespace Config

/-- Whether properties select a way of assigning partitions step by step: the text of the assignment
strategy contains that of the cooperative one, or the group protocol is that of consumers. -/
def AssignsInSteps (properties : Dict) : Prop :=
  (∃ v s, properties.get? (.text "partition.assignment.strategy") = some v ∧ v.plain = .ok s ∧
    "cooperative".toList <:+: s.toList) ∨
  ∃ v, properties.get? (.text "group.protocol") = some v ∧ v.plain = .ok "consumer"

/-- Whether the properties that say how partitions are assigned can be read. -/
structure TellsAssignment (properties : Dict) : Prop where
  strategy : ∀ v, properties.get? (.text "partition.assignment.strategy") = some v → v.HasText
  protocol : ∀ v, properties.get? (.text "group.protocol") = some v → v.HasText

variable {properties : Dict} {name : String}

/-! ## The text of a property -/

theorem textOfProperty_set {v : Value} (h : properties.get? (.text name) = some v) :
    textOfProperty properties name = v.plain.mapError .untold := by
  simp only [textOfProperty, h]

theorem textOfProperty_unset (h : properties.get? (.text name) = none) :
    textOfProperty properties name = .ok "" := by
  simp only [textOfProperty, h]

theorem textOfProperty_ok {s : String} : textOfProperty properties name = .ok s ↔
    properties.get? (.text name) = none ∧ s = "" ∨
      ∃ v, properties.get? (.text name) = some v ∧ v.plain = .ok s := by
  cases h : properties.get? (.text name) with
  | none => simp [textOfProperty_unset h, eq_comm]
  | some v =>
    rw [textOfProperty_set h]
    constructor
    · intro hs
      refine Or.inr ⟨v, rfl, ?_⟩
      cases hv : v.plain with
      | ok t =>
        rw [hv] at hs
        cases hs
        rfl
      | error flaw =>
        rw [hv] at hs
        cases hs
    · rintro (⟨hnone, -⟩ | ⟨w, hw, hplain⟩)
      · cases hnone
      · cases hw
        rw [hplain]
        rfl

theorem textOfProperty_error {f : Fault} (h : textOfProperty properties name = .error f) :
    ∃ v flaw, properties.get? (.text name) = some v ∧ v.plain = .error flaw ∧ f = .untold flaw := by
  cases hget : properties.get? (.text name) with
  | none =>
    rw [textOfProperty_unset hget] at h
    cases h
  | some v =>
    rw [textOfProperty_set hget] at h
    cases hv : v.plain with
    | ok s =>
      rw [hv] at h
      cases h
    | error flaw =>
      rw [hv] at h
      cases h
      exact ⟨v, flaw, rfl, hv, rfl⟩

theorem textOfProperty_told :
    (∃ s, textOfProperty properties name = .ok s) ↔
      ∀ v, properties.get? (.text name) = some v → v.HasText := by
  constructor
  · rintro ⟨s, hs⟩ v hv
    rcases textOfProperty_ok.mp hs with ⟨hnone, -⟩ | ⟨w, hw, hplain⟩
    · cases hnone.symm.trans hv
    · cases hw.symm.trans hv
      exact Value.exists_plain.mp ⟨s, hplain⟩
  · intro h
    cases hs : textOfProperty properties name with
    | ok s => exact ⟨s, rfl⟩
    | error f =>
      obtain ⟨v, flaw, hv, hplain, -⟩ := textOfProperty_error hs
      obtain ⟨s, hs⟩ := (h v hv).plain
      cases hs.symm.trans hplain

/-! ## The way of assigning -/

theorem isIncremental_ok {b : Bool} : isIncremental properties = .ok b ↔ ∃ strategy protocol,
    textOfProperty properties "partition.assignment.strategy" = .ok strategy ∧
    textOfProperty properties "group.protocol" = .ok protocol ∧
    b = (Text.occursIn "cooperative".toList strategy.toList || protocol == "consumer") := by
  simp only [isIncremental, Check.bind_ok, Except.ok.injEq, PropertyName.assignmentStrategy,
    PropertyName.groupProtocol]
  constructor
  · rintro ⟨strategy, hstrategy, protocol, hprotocol, rfl⟩
    exact ⟨strategy, protocol, hstrategy, hprotocol, rfl⟩
  · rintro ⟨strategy, protocol, hstrategy, hprotocol, rfl⟩
    exact ⟨strategy, hstrategy, protocol, hprotocol, rfl⟩

theorem exists_isIncremental :
    (∃ b, isIncremental properties = .ok b) ↔ TellsAssignment properties := by
  constructor
  · rintro ⟨b, hb⟩
    obtain ⟨strategy, protocol, hstrategy, hprotocol, -⟩ := isIncremental_ok.mp hb
    exact ⟨textOfProperty_told.mp ⟨_, hstrategy⟩, textOfProperty_told.mp ⟨_, hprotocol⟩⟩
  · rintro ⟨hstrategy, hprotocol⟩
    obtain ⟨strategy, hstrategy⟩ := textOfProperty_told.mpr hstrategy
    obtain ⟨protocol, hprotocol⟩ := textOfProperty_told.mpr hprotocol
    exact ⟨_, isIncremental_ok.mpr ⟨strategy, protocol, hstrategy, hprotocol, rfl⟩⟩

theorem isIncremental_error {f : Fault} (h : isIncremental properties = .error f) :
    ∃ flaw, f = .untold flaw := by
  rcases Check.bind_error h with h | ⟨strategy, -, h⟩
  · obtain ⟨v, flaw, -, -, hf⟩ := textOfProperty_error h
    exact ⟨flaw, hf⟩
  · rcases Check.bind_error h with h | ⟨protocol, -, h⟩
    · obtain ⟨v, flaw, -, -, hf⟩ := textOfProperty_error h
      exact ⟨flaw, hf⟩
    · cases h

theorem isIncremental_iff {b : Bool} (h : isIncremental properties = .ok b) :
    b = true ↔ AssignsInSteps properties := by
  obtain ⟨strategy, protocol, hstrategy, hprotocol, rfl⟩ := isIncremental_ok.mp h
  rw [Bool.or_eq_true, Text.occursIn_iff, beq_iff_eq]
  refine or_congr ?_ ?_
  · constructor
    · intro hoccurs
      rcases textOfProperty_ok.mp hstrategy with ⟨-, rfl⟩ | ⟨v, hv, hplain⟩
      · simp at hoccurs
      · exact ⟨v, strategy, hv, hplain, hoccurs⟩
    · rintro ⟨v, s, hv, hplain, hoccurs⟩
      obtain rfl : s = strategy :=
        Except.ok.inj ((textOfProperty_ok.mpr (Or.inr ⟨v, hv, hplain⟩)).symm.trans hstrategy)
      exact hoccurs
  · constructor
    · rintro rfl
      rcases textOfProperty_ok.mp hprotocol with ⟨-, hempty⟩ | h
      · simp at hempty
      · exact h
    · rintro ⟨v, hv, hplain⟩
      exact Except.ok.inj
        (hprotocol.symm.trans (textOfProperty_ok.mpr (Or.inr ⟨v, hv, hplain⟩)))

theorem isIncremental_digitBound :
    isIncremental [(.text "group.protocol", .int Text.digitBound)] =
      .error (.untold .digitsTooMany) := by
  have hstrategy : textOfProperty [(.text "group.protocol", .int Text.digitBound)]
      PropertyName.assignmentStrategy = .ok "" := textOfProperty_unset rfl
  have hprotocol : textOfProperty [(.text "group.protocol", .int Text.digitBound)]
      PropertyName.groupProtocol = .error (.untold .digitsTooMany) := by
    rw [textOfProperty_set (v := .int Text.digitBound) rfl, Value.plain_digitBound]
    rfl
  simp only [isIncremental, hstrategy, hprotocol, bind, Except.bind]

end Config

end KafkaHandles
