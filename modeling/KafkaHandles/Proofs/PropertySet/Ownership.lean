import KafkaHandles.Proofs.PropertySet.Shared
import KafkaHandles.Proofs.Value.Text

/-!
# The owner of a property set

What a property set is after any uses follows from what they came to: all that was set, in order, as
long as it is held, and nothing once it has been handed over or released. It is handed over at most
once, and then as all that was set.
-/

namespace KafkaHandles.PropertySet

/-! ## What uses have done -/

/-- The properties that a use has set. -/
def added (x : Used PropertySet Dict) : Dict :=
  accepted x.use.properties x.before

/-- The properties that uses have set, in order. -/
def gathered (past : List (Used PropertySet Dict)) : Dict :=
  past.flatMap added

/-- Who has the properties after uses. -/
def holder (past : List (Used PropertySet Dict)) : Holding :=
  if past.any (·.handed?.isSome) then .transferred
  else if past.any (·.use.releases) then .released
  else .held

/-- What uses leave of a new set. -/
def left (past : List (Used PropertySet Dict)) : PropertySet where
  entries := if holder past = .held then gathered past else []
  holding := holder past

variable {past : List (Used PropertySet Dict)} {x : Used PropertySet Dict}

theorem gathered_snoc : gathered (past ++ [x]) = gathered past ++ added x := by
  simp [gathered]

theorem holder_snoc_held (h : holder past = .held) : holder (past ++ [x]) =
    if x.handed?.isSome then .transferred else if x.use.releases then .released else .held := by
  unfold holder at h ⊢
  split at h
  · cases h
  · split at h
    · cases h
    · rename_i hhanded hreleased
      simp only [List.any_append, Bool.eq_false_iff.mpr hhanded, Bool.eq_false_iff.mpr hreleased,
        List.any_cons, List.any_nil, Bool.false_or, Bool.or_false]

theorem holder_snoc_ended (h : holder past ≠ .held) (hx : x.handed? = none) :
    holder (past ++ [x]) = holder past := by
  unfold holder at h ⊢
  simp only [List.any_append, List.any_cons, List.any_nil, hx, Option.isSome_none, Bool.or_false]
  split
  · rfl
  · rename_i hhanded
    rw [if_neg hhanded] at h
    split at h
    · rename_i hreleased
      simp [hreleased]
    · exact absurd rfl h

theorem left_held (h : holder past = .held) : left past = ⟨gathered past, .held⟩ := by
  simp [left, h]

theorem left_ended {h : Holding} (hpast : holder past = h) (hended : h ≠ .held) :
    left past = ⟨[], h⟩ := by
  simp [left, hpast, hended]

/-! ## Single uses -/

/-- A set that is held is handed over, is given up, or takes on what the use has set. -/
theorem perform_held (u : Use) (d : Dict) :
    let x := Used.of perform u ⟨d, .held⟩
    (u = .take ∧ x.handed? = some d ∧ x.after = ⟨[], .transferred⟩) ∨
    (u.releases ∧ x.handed? = none ∧ x.after = ⟨[], .released⟩) ∨
    (u ≠ .take ∧ ¬u.releases ∧ x.handed? = none ∧ x.after = ⟨d ++ added x, .held⟩) := by
  have hset (a : Action PropertySet Unit) (properties : Dict)
      (ha : (a ⟨d, .held⟩).2 = (setAll properties ⟨d, .held⟩).2) :
      ((Used.silently a : Action PropertySet (Option Dict)) ⟨d, .held⟩).2 =
        ⟨d ++ accepted properties ⟨d, .held⟩, .held⟩ := by
    rw [Used.silently_apply, ha, setAll_held]
  cases u with
  | set name v =>
    refine Or.inr (Or.inr ⟨nofun, nofun, Used.handed?_silently rfl, hset _ _ ?_⟩)
    show _ = (setAll [(name, v)] _).2
    rw [setAll_singleton]
  | update v =>
    refine Or.inr (Or.inr ⟨nofun, nofun, Used.handed?_silently rfl, hset _ _ ?_⟩)
    cases v <;> rfl
  | take => exact Or.inl ⟨rfl, rfl, rfl⟩
  | release => exact Or.inr (Or.inl ⟨rfl, rfl, rfl⟩)
  | enter =>
    refine Or.inr (Or.inr ⟨nofun, nofun, rfl, ?_⟩)
    exact congrArg (fun e => (⟨e, .held⟩ : PropertySet)) (List.append_nil d).symm
  | leave => exact Or.inr (Or.inl ⟨rfl, rfl, rfl⟩)

theorem outcome_ended {s : PropertySet} (h : s.holding ≠ .held) {u : Use}
    (hu : u = .take ∨ (∃ name v, u = .set name v) ∨ ∃ d, d ≠ [] ∧ u = .update (.dict d)) :
    (Used.of perform u s).outcome = .error s.holding.refusal := by
  rcases hu with rfl | ⟨name, v, rfl⟩ | ⟨d, hd, rfl⟩
  · simp only [Used.of, perform, map_eq_pure_bind, Action.bind_error (take_ended h)]
  · simp only [Used.of, perform, Used.silently_apply, set_ended h]
    rfl
  · simp only [Used.of, perform, Used.silently_apply, update, setAll_ended h hd]
    rfl

theorem handed_ended {s : PropertySet} (h : s.holding ≠ .held) (u : Use) :
    (Used.of perform u s).handed? = none := by
  cases u with
  | take => rw [Used.handed?, outcome_ended h (Or.inl rfl)]
  | enter => rfl
  | _ => exact Used.handed?_silently rfl

/-! ## Runs -/

/-- What holds of a use after others. -/
structure Obeys (past : List (Used PropertySet Dict)) (x : Used PropertySet Dict) : Prop where
  found : x.before = left past
  leaves : x.after = left (past ++ [x])
  distinct : (gathered past).Proper
  /-- The set is handed over once, with all that was set. -/
  handed : ∀ d, x.handed? = some d → d = gathered past ∧ ∀ y ∈ past, y.handed? = none
  taken : holder past = .held → x.use = .take → x.outcome = .ok (some (gathered past))
  /-- Once it is handed over or released, nothing changes it any more. -/
  ended : holder past ≠ .held → x.after = x.before ∧
    ((x.use = .take ∨ (∃ name v, x.use = .set name v) ∨
        ∃ d, d ≠ [] ∧ x.use = .update (.dict d)) →
      x.outcome = .error (holder past).refusal) ∧
    (x.use.releases → x.outcome = .ok none)
  rejected : ∀ name v f, x.use = .set name v → x.outcome = .error f → x.after = x.before
  set : holder past = .held → ∀ name v, x.use = .set name v →
    (∀ kind, name.unhashable? = some kind → x.outcome = .error (.unhashable kind)) ∧
    (name.unhashable? = none → (gathered past).hasKey name → x.outcome = .error (alreadySet name)) ∧
    (name.unhashable? = none → ¬(gathered past).hasKey name →
      x.outcome = .ok none ∧ x.after = ⟨gathered past ++ [(name, v)], .held⟩)
  /-- A property whose name was taken before ends an update, which keeps those in front of it. -/
  update : holder past = .held → ∀ front name v rest,
    x.use = .update (.dict (front ++ (name, v) :: rest)) →
    Dict.Proper (front ++ (name, v) :: rest) →
    (∀ e ∈ front, (gathered past).hasKey e.1 = false) → (gathered past).hasKey name →
    x.outcome = .error (alreadySet name) ∧ x.after = ⟨gathered past ++ front, .held⟩

theorem left_snoc (past : List (Used PropertySet Dict)) (u : Use) :
    (Used.of perform u (left past)).after = left (past ++ [Used.of perform u (left past)]) := by
  by_cases hheld : holder past = .held
  · rw [left_held hheld]
    have hnext := holder_snoc_held (x := Used.of perform u ⟨gathered past, .held⟩) hheld
    rcases perform_held u (gathered past) with ⟨-, hhanded, hafter⟩ | ⟨hreleases, hhanded, hafter⟩ |
      ⟨-, hreleases, hhanded, hafter⟩
    · rw [hhanded] at hnext
      rw [hafter, left_ended (hnext.trans (if_pos rfl)) nofun]
    · rw [hhanded] at hnext
      rw [hafter, left_ended (hnext.trans (if_pos hreleases)) nofun]
    · rw [hhanded] at hnext
      rw [hafter, left_held (hnext.trans (if_neg hreleases)), gathered_snoc]
  · have hended : (left past).holding ≠ .held := hheld
    have hnext := holder_snoc_ended hheld (handed_ended hended u)
    rw [left_ended hnext hheld]
    show (perform u (left past)).2 = _
    rw [perform_ended hended, left_ended rfl hheld]

theorem gathered_proper {past : List (Used PropertySet Dict)} (h : (gathered past).Proper)
    (u : Use) : (gathered (past ++ [Used.of perform u (left past)])).Proper := by
  rw [gathered_snoc]
  by_cases hheld : holder past = .held
  · rw [left_held hheld]
    exact accepted_proper _ h
  · have hnone : added (Used.of perform u (left past)) = [] := accepted_ended hheld _
    rwa [hnone, List.append_nil]

theorem handed_none_of_held {past : List (Used PropertySet Dict)} (h : holder past = .held) :
    ∀ y ∈ past, y.handed? = none := by
  intro y hy
  unfold holder at h
  split at h
  · cases h
  · rename_i hany
    simp only [List.any_eq_true, not_exists, not_and] at hany
    simpa using hany y hy

theorem obeys {past : List (Used PropertySet Dict)} (h : (gathered past).Proper) (u : Use) :
    Obeys past (Used.of perform u (left past)) where
  found := rfl
  leaves := left_snoc past u
  distinct := h
  handed d hd := by
    by_cases hheld : holder past = .held
    · refine ⟨?_, handed_none_of_held hheld⟩
      rw [left_held hheld] at hd
      rcases perform_held u (gathered past) with ⟨-, hhanded, -⟩ | ⟨-, hhanded, -⟩ |
        ⟨-, -, hhanded, -⟩ <;> rw [hhanded] at hd <;> cases hd
      rfl
    · rw [handed_ended hheld] at hd
      cases hd
  taken hheld htake := by
    obtain rfl : u = .take := htake
    rw [left_held hheld]
    rfl
  ended hended := by
    refine ⟨perform_ended hended u, outcome_ended hended, fun hreleases => ?_⟩
    have hrelease : (Used.silently release (left past)).1 = .ok (none : Option Dict) := by
      rw [Used.silently_apply, release_ended hended]
      rfl
    cases u <;> first | exact hrelease | cases hreleases
  rejected name v f huse hf := by
    obtain rfl : u = .set name v := huse
    simp only [Used.of, perform, Used.silently_apply] at hf ⊢
    cases hset : (set name v (left past)).1 with
    | error g => exact set_rejected hset
    | ok _ =>
      rw [hset] at hf
      cases hf
  set hheld name v huse := by
    obtain rfl : u = .set name v := huse
    rw [left_held hheld]
    simp only [Used.of, perform, Used.silently_apply, set_held, checkName]
    refine ⟨fun kind hkind => ?_, fun hname hkey => ?_, fun hname hkey => ?_⟩
    · rw [hkind]
      rfl
    · rw [hname]
      simp only [if_pos hkey]
      rfl
    · rw [hname]
      simp only [if_neg hkey]
      exact ⟨rfl, trivial⟩
  update hheld front name v rest huse hd hnew htaken := by
    obtain rfl : u = .update (.dict (front ++ (name, v) :: rest)) := huse
    rw [left_held hheld]
    simp only [Used.of, perform, Used.silently_apply, PropertySet.update,
      setAll_taken hd hnew htaken]
    exact ⟨rfl, trivial⟩

theorem trace_obeys (uses : List Use) : ∀ before x after,
    Used.trace perform uses {} = before ++ x :: after → Obeys before x := by
  refine Used.trace_invariant (P := Obeys)
    (I := fun past s => s = left past ∧ (gathered past).Proper) ?_ ?_ [] ⟨rfl, ?_⟩ uses
  · rintro past u s ⟨rfl, h⟩
    exact obeys h u
  · rintro past u s ⟨rfl, h⟩
    exact ⟨left_snoc past u, gathered_proper h u⟩
  · exact ⟨by simp [gathered], by simp [gathered]⟩

/-! ## Properties that are set twice -/

/-- How a name is rejected that is set already: with a reason, unless that holds a NUL. -/
structure Rejects (name : Value) (reason : String) : Prop where
  told : ClientError.isReason reason = true →
    alreadySet name = .config name (.ofCode ErrorCode.invalidArgument (some reason))
  untold : ClientError.isReason reason = false → alreadySet name = .textHoldsNul

theorem alreadySet_of_hasText {name : Value} (h : name.HasText) : ∃ text,
    name.plain = .ok text ∧ Rejects name ("Property " ++ text ++ " already set") := by
  obtain ⟨text, htext⟩ := h.plain
  refine ⟨text, htext, fun hreason => ?_, fun hreason => ?_⟩ <;>
    simp [alreadySet, htext, Fault.wrapping, hreason]

theorem alreadySet_of_not_hasText {name : Value} (h : ¬name.HasText) :
    ∃ flaw, name.plain = .error flaw ∧ alreadySet name = .untold flaw := by
  obtain ⟨flaw, hflaw⟩ := Value.plain_error h
  exact ⟨flaw, hflaw, by simp only [alreadySet, hflaw]⟩

end KafkaHandles.PropertySet
