import KafkaHandles.PropertySet
import Mathlib.Data.List.Nodup

/-!
# Filling a property set

A property is added at the end unless one of an equal name is set already. Properties that differ
from one another are all added in their order, up to the first whose name was taken before.
-/

namespace KafkaHandles

theorem Value.same_text {s : String} {v : Value} : (text s).same v = true ↔ v = text s := by
  cases v with
  | text t =>
    simp only [same, sameAtom, integral?, bytes?, beq_iff_eq, text.injEq]
    exact eq_comm
  | _ => simp [same, sameAtom, integral?, bytes?]

/-- A NaN is the same as itself only. -/
theorem Value.same_nan {x : Binary64} {i j : Nat} (h : x.isNaN = true) :
    (Value.float x i).same (.float x j) = true ↔ i = j := by
  simp [same, sameAtom, integral?, bytes?, Binary64.same, h]

/-! ## Dictionaries -/

namespace Dict

/-- A dictionary as callers hold it: all its keys can be keys, and no two of them are equal. -/
structure Proper (d : Dict) : Prop where
  hashable : ∀ e ∈ d, e.1.unhashable? = none
  distinct : d.Pairwise fun a b => a.1.same b.1 = false

theorem Proper.sublist {d e : Dict} (h : d.Proper) (hsub : e.Sublist d) : Proper e :=
  ⟨fun x hx => h.hashable x (hsub.subset hx), h.distinct.sublist hsub⟩

theorem Proper.append {d e : Dict} (hd : d.Proper) (he : e.Proper)
    (h : ∀ x ∈ d, ∀ y ∈ e, x.1.same y.1 = false) : Proper (d ++ e) := by
  refine ⟨fun x hx => ?_, List.pairwise_append.mpr ⟨hd.distinct, he.distinct, h⟩⟩
  rcases List.mem_append.mp hx with hx | hx
  · exact hd.hashable x hx
  · exact he.hashable x hx

theorem Proper.snoc {d : Dict} (h : d.Proper) {name : Value} (v : Value)
    (hname : name.unhashable? = none) (hnew : hasKey d name = false) :
    Proper (d ++ [(name, v)]) := by
  refine h.append ⟨by simpa using hname, List.pairwise_singleton _ _⟩ fun x hx y hy => ?_
  rw [List.mem_singleton.mp hy]
  exact Bool.eq_false_iff.mpr fun hsame =>
    Bool.eq_false_iff.mp hnew (List.any_eq_true.mpr ⟨x, hx, hsame⟩)

theorem Proper.erase {d : Dict} (h : d.Proper) (key : Value) : (Dict.erase d key).Proper :=
  h.sublist List.filter_sublist

theorem Proper.erase_all {d : Dict} (h : d.Proper) (names : List String) :
    (names.foldl (fun d name => Dict.erase d (.text name)) d).Proper := by
  induction names generalizing d with
  | nil => exact h
  | cons name names ih => exact ih (h.erase _)

theorem hasKey_append (d e : Dict) (key : Value) :
    hasKey (d ++ e) key = (hasKey d key || hasKey e key) :=
  List.any_append

theorem hasKey_texts {d : Dict} {names : List String} (h : d.keys = names.map .text) {key : Value} :
    d.hasKey key = true ↔ ∃ name ∈ names, key = .text name := by
  have hany : d.hasKey key = d.keys.any (·.same key) := by
    simp only [hasKey, keys, List.any_map]
    rfl
  rw [hany, h, List.any_map, List.any_eq_true]
  constructor
  · rintro ⟨name, hname, hsame⟩
    exact ⟨name, hname, Value.same_text.mp hsame⟩
  · rintro ⟨name, hname, rfl⟩
    exact ⟨name, hname, Value.same_text.mpr rfl⟩

theorem Proper.of_texts {d : Dict} (names : List String) (h : d.keys = names.map .text)
    (hnames : names.Nodup) : d.Proper := by
  constructor
  · intro e he
    have hkey : e.1 ∈ d.keys := List.mem_map_of_mem he
    rw [h] at hkey
    obtain ⟨name, -, hname⟩ := List.mem_map.mp hkey
    rw [← hname]
    rfl
  · have hkeys : d.keys.Pairwise fun k l => k.same l = false := by
      rw [h, List.pairwise_map]
      refine hnames.imp fun {a b} hab => Bool.eq_false_iff.mpr fun hsame => hab ?_
      cases Value.same_text.mp hsame
      rfl
    exact List.pairwise_map.mp hkeys

end Dict

/-! ## Sets that are held -/

namespace PropertySet

theorem set_held (name v : Value) (d : Dict) :
    set name v ⟨d, .held⟩ = match checkName name with
      | .error f => (.error f, ⟨d, .held⟩)
      | .ok _ =>
        if d.hasKey name then (.error (alreadySet name), ⟨d, .held⟩)
        else (.ok (), ⟨d ++ [(name, v)], .held⟩) := by
  simp only [set, checkHeld, contains, Action.bind_apply, Action.get_apply, Action.pure_apply,
    Action.lift_apply]
  rcases checkName name with f | _
  · rfl
  dsimp only
  split <;> rfl

theorem setAll_append (d e : Dict) : setAll (d ++ e) = setAll d >>= fun _ => setAll e := by
  induction d with
  | nil => rfl
  | cons x d ih => rw [List.cons_append, setAll, setAll, ih, bind_assoc]

/-- Properties are all added, or one of them is rejected. -/
theorem setAll_cases (d taken : Dict) :
    setAll d ⟨taken, .held⟩ = (.ok (), ⟨taken ++ d, .held⟩) ∨
    ∃ f set, setAll d ⟨taken, .held⟩ = (.error f, ⟨set, .held⟩) := by
  induction d generalizing taken with
  | nil => exact Or.inl (by rw [List.append_nil]; rfl)
  | cons e d ih =>
    obtain ⟨name, v⟩ := e
    simp only [setAll, Action.bind_apply, set_held, checkName]
    cases name.unhashable? with
    | some kind => exact Or.inr ⟨_, taken, rfl⟩
    | none =>
      dsimp only
      by_cases htaken : taken.hasKey name = true
      · rw [if_pos htaken]
        exact Or.inr ⟨_, taken, rfl⟩
      · rw [if_neg htaken]
        have hnext := ih (taken ++ [(name, v)])
        rwa [List.append_assoc] at hnext

theorem setAll_new {d taken : Dict} (hd : d.Proper)
    (hnew : ∀ e ∈ d, taken.hasKey e.1 = false) :
    setAll d ⟨taken, .held⟩ = (.ok (), ⟨taken ++ d, .held⟩) := by
  -- every property that is added becomes one of those that the rest must differ from
  induction d generalizing taken with
  | nil => rw [List.append_nil]; rfl
  | cons e d ih =>
    obtain ⟨name, v⟩ := e
    obtain ⟨hfirst, -⟩ := List.pairwise_cons.mp hd.distinct
    have hhashable : name.unhashable? = none := hd.hashable (name, v) (by simp)
    have hname : taken.hasKey name = false := hnew (name, v) (by simp)
    simp only [setAll, Action.bind_apply, set_held, checkName, hhashable, hname,
      Bool.false_eq_true, if_false]
    have hdiffers : ∀ x ∈ d, Dict.hasKey (taken ++ [(name, v)]) x.1 = false := by
      intro x hx
      rw [Dict.hasKey_append, hnew x (by simp [hx])]
      simpa [Dict.hasKey] using hfirst x hx
    rw [ih (hd.sublist (List.sublist_cons_self _ d)) hdiffers, List.append_assoc]
    rfl

/-- The first property whose name was taken before is rejected, and those in front of it stay. -/
theorem setAll_taken {before after taken : Dict} {name v : Value}
    (hd : Dict.Proper (before ++ (name, v) :: after))
    (hnew : ∀ e ∈ before, taken.hasKey e.1 = false) (htaken : taken.hasKey name = true) :
    setAll (before ++ (name, v) :: after) ⟨taken, .held⟩ =
      (.error (alreadySet name), ⟨taken ++ before, .held⟩) := by
  have hbefore := setAll_new (hd.sublist (List.sublist_append_left before _)) hnew
  have hhashable : name.unhashable? = none := hd.hashable (name, v) (by simp)
  have hkey : Dict.hasKey (taken ++ before) name = true := by
    rw [Dict.hasKey_append, htaken, Bool.true_or]
  rw [setAll_append, Action.bind_ok hbefore]
  simp only [setAll, Action.bind_apply, set_held, checkName, hhashable, hkey, if_true]

theorem take_held (d : Dict) : take ⟨d, .held⟩ = (.ok d, ⟨[], .transferred⟩) := rfl

end PropertySet

end KafkaHandles
