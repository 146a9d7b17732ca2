import KafkaHandles.Proofs.PropertySet.Uses
import Mathlib.Logic.Function.Basic

/-!
# Property sets in memory

The dictionary that a set hands over is the very one it has filled, so whoever takes it could see
what is done to it afterwards. Here a set is what memory has of it: numbered dictionaries, the
number of the set's own one, and a mark each for having been handed over and for having been
released. Every use of it looks like the same use of a property set. It never bears both marks, and
what it has handed over is not written to again.
-/

namespace KafkaHandles

/-- A property set as memory has it. -/
structure SharedSet where
  memory : Nat → Dict := fun _ => []
  own : Nat := 0
  transferred : Bool := false
  released : Bool := false

namespace SharedSet

/-- What a set has in its own dictionary. -/
def entries (m : SharedSet) : Dict :=
  m.memory m.own

/-- Writes to the set's own dictionary. -/
def write (d : Dict) (m : SharedSet) : SharedSet :=
  { m with memory := Function.update m.memory m.own d }

/-- Refuses to go on if the set bears a mark. -/
def checkHeld : Action SharedSet Unit := do
  let m ← Action.get
  if m.transferred then Action.fail .propertiesTransferred
  else if m.released then Action.fail .propertiesReleased
  else pure ()

def contains (name : Value) : Action SharedSet Bool := do
  Action.lift (PropertySet.checkName name)
  pure (Dict.hasKey (← Action.get).entries name)

def set (name v : Value) : Action SharedSet Unit := do
  checkHeld
  if ← contains name then Action.fail (PropertySet.alreadySet name)
  else Action.modify fun m => m.write (m.entries ++ [(name, v)])

def setAll : Dict → Action SharedSet Unit
  | [] => pure ()
  | (name, v) :: rest => do
    set name v
    setAll rest

def update (v : Value) : Action SharedSet Unit :=
  match v with
  | .dict d => setAll d
  | v => Action.fail (.attributeMissing v.kindName "items")

/-- Hands the set's own dictionary over by its number. A new one takes its place. -/
def take : Action SharedSet Nat := do
  checkHeld
  let m ← Action.get
  Action.set { m with
    memory := Function.update m.memory (m.own + 1) []
    own := m.own + 1
    transferred := true }
  pure m.own

/-- Clears the set's own dictionary, unless the set bears a mark. -/
def release : Action SharedSet Unit :=
  Action.modify fun m =>
    if m.transferred || m.released then m else { m.write [] with released := true }

def perform : Use → Action SharedSet (Option Nat)
  | .set name v => Used.silently (set name v)
  | .update properties => Used.silently (update properties)
  | .take => some <$> take
  | .release | .leave => Used.silently release
  | .enter => pure none

/-! ## What a set looks like -/

/-- The property set that a set looks like. -/
def look (m : SharedSet) : PropertySet where
  entries := m.entries
  holding := if m.transferred then .transferred else if m.released then .released else .held

theorem look_write (d : Dict) (m : SharedSet) :
    (m.write d).look = { m.look with entries := d } := by
  simp only [look, write, entries, Function.update_self]
  rfl

theorem checkHeld_look : Action.Mirrors look checkHeld PropertySet.checkHeld := by
  refine .get fun m => ?_
  obtain ⟨memory, own, transferred, released⟩ := m
  cases transferred <;> cases released
  · exact .pure ()
  · exact .fail _
  · exact .fail _
  · exact .fail _

theorem contains_look (name : Value) :
    Action.Mirrors look (contains name) (PropertySet.contains name) :=
  .bind (.lift _) fun _ => .get fun _ => .pure _

theorem set_look (name v : Value) : Action.Mirrors look (set name v) (PropertySet.set name v) := by
  refine .bind checkHeld_look fun _ => .bind (contains_look name) fun found => ?_
  cases found with
  | true => exact .fail _
  | false => exact .modify fun m => (look_write _ m).symm

theorem setAll_look (d : Dict) : Action.Mirrors look (setAll d) (PropertySet.setAll d) := by
  induction d with
  | nil => exact .pure ()
  | cons e d ih => exact .bind (set_look _ _) fun _ => ih

theorem update_look (v : Value) : Action.Mirrors look (update v) (PropertySet.update v) := by
  cases v with
  | dict d => exact setAll_look d
  | _ => exact .fail _

theorem release_look : Action.Mirrors look release PropertySet.release := by
  refine .modify fun m => ?_
  obtain ⟨memory, own, transferred, released⟩ := m
  cases transferred <;> cases released <;> simp [look, write, entries]

theorem take_cases (m : SharedSet) :
    (m.transferred = false ∧ m.released = false ∧ take m = (.ok m.own, { m with
      memory := Function.update m.memory (m.own + 1) []
      own := m.own + 1
      transferred := true })) ∨
    ∃ f, take m = (.error f, m) ∧ PropertySet.take m.look = (.error f, m.look) := by
  obtain ⟨memory, own, transferred, released⟩ := m
  cases transferred <;> cases released
  · exact Or.inl ⟨rfl, rfl, rfl⟩
  · exact Or.inr ⟨_, rfl, rfl⟩
  · exact Or.inr ⟨_, rfl, rfl⟩
  · exact Or.inr ⟨_, rfl, rfl⟩

theorem take_look (m : SharedSet) :
    PropertySet.take m.look = ((take m).1.map (take m).2.memory, (take m).2.look) := by
  rcases m.take_cases with ⟨htransferred, hreleased, htake⟩ | ⟨f, htake, hlook⟩
  · have hheld : m.look = ⟨m.entries, .held⟩ := by simp [look, htransferred, hreleased]
    rw [htake, hheld, PropertySet.take_held]
    simp [look, entries, Except.map]
  · rw [htake, hlook]
    rfl

theorem release_transferred {m : SharedSet} (h : m.transferred = true) :
    release m = (.ok (), m) := by
  simp [release, h]

/-- What a held set hands over is there to stay. -/
theorem take_of_held {m : SharedSet} {d : Dict} (h : m.look = ⟨d, .held⟩) :
    ∃ number t, take m = (.ok number, t) ∧ t.memory number = d ∧ t.look = ⟨[], .transferred⟩ ∧
      release t = (.ok (), t) := by
  have htaken := congrArg PropertySet.take h
  rw [take_look, PropertySet.take_held] at htaken
  rcases m.take_cases with ⟨-, -, htake⟩ | ⟨f, htake, -⟩ <;> rw [htake] at htaken
  · exact ⟨_, _, htake, Except.ok.inj (congrArg Prod.fst htaken), congrArg Prod.snd htaken,
      release_transferred rfl⟩
  · cases congrArg Prod.fst htaken

/-- A use as it looks: the dictionary that it hands over by its number is the one that it hands over
by its content. -/
def lookUsed (x : Used SharedSet Nat) : Used PropertySet Dict where
  use := x.use
  before := x.before.look
  outcome := x.outcome.map (Option.map x.after.memory)
  after := x.after.look

theorem silently_look {a : Action SharedSet Unit} {b : Action PropertySet Unit}
    (h : Action.Mirrors look a b) (m : SharedSet) :
    let own : Action SharedSet (Option Nat) := Used.silently a
    Used.silently b m.look = ((own m).1.map (Option.map (own m).2.memory), (own m).2.look) := by
  simp only [Used.silently_apply, h m]
  cases (a m).1 <;> rfl

theorem perform_look (u : Use) (m : SharedSet) :
    PropertySet.perform u m.look =
      ((perform u m).1.map (Option.map (perform u m).2.memory), (perform u m).2.look) := by
  cases u with
  | set name v => exact silently_look (set_look name v) m
  | update v => exact silently_look (update_look v) m
  | take =>
    simp only [perform, PropertySet.perform, map_eq_pure_bind, Action.bind_apply, take_look m]
    rcases take m with ⟨_ | _, _⟩ <;> rfl
  | release => exact silently_look release_look m
  | enter => rfl
  | leave => exact silently_look release_look m

theorem trace_look (us : List Use) (m : SharedSet) :
    Used.trace PropertySet.perform us m.look = (Used.trace perform us m).map lookUsed := by
  induction us generalizing m with
  | nil => rfl
  | cons u us ih =>
    have hused : Used.of PropertySet.perform u m.look = lookUsed (Used.of perform u m) := by
      simp only [Used.of, lookUsed, perform_look]
    rw [Used.trace, Used.trace, List.map_cons, hused]
    exact congrArg _ (ih _)

/-! ## What a use does to memory -/

/-- What every use does: dictionaries that are not the set's own stay as they are, and it does not
come to bear both marks. -/
structure Keeps (m t : SharedSet) : Prop where
  own : m.own ≤ t.own
  memory : ∀ r < m.own, t.memory r = m.memory r
  marks : ¬(m.transferred ∧ m.released) → ¬(t.transferred ∧ t.released)

instance : IsPreorder SharedSet Keeps where
  refl _ := ⟨Nat.le_refl _, fun _ _ => rfl, id⟩
  trans _ _ _ h h' := by
    refine ⟨Nat.le_trans h.own h'.own, fun r hr => ?_, fun hm => h'.marks (h.marks hm)⟩
    exact (h'.memory r (Nat.lt_of_lt_of_le hr h.own)).trans (h.memory r hr)

theorem write_keeps (d : Dict) (m : SharedSet) : Keeps m (m.write d) :=
  ⟨Nat.le_refl _, fun _ hr => Function.update_of_ne (Nat.ne_of_lt hr) _ _, id⟩

theorem checkHeld_keeps : checkHeld.Within Keeps := by
  refine .bind .get fun m => ?_
  split
  · exact .still fun _ => rfl
  · split
    · exact .still fun _ => rfl
    · exact .pure ()

theorem set_keeps (name v : Value) : (set name v).Within Keeps := by
  refine .bind checkHeld_keeps fun _ => .bind (.bind (.lift _) fun _ => .bind .get fun _ =>
    .pure _) fun found => ?_
  split
  · exact .still fun _ => rfl
  · exact .modify fun m => write_keeps _ m

theorem setAll_keeps (d : Dict) : (setAll d).Within Keeps := by
  induction d with
  | nil => exact .pure ()
  | cons e d ih => exact .bind (set_keeps _ _) fun _ => ih

theorem update_keeps (v : Value) : (update v).Within Keeps := by
  cases v with
  | dict d => exact setAll_keeps d
  | _ => exact .still fun _ => rfl

theorem release_keeps : release.Within Keeps := by
  refine .modify fun m => ?_
  split
  · exact refl_of Keeps m
  · rename_i hmarks
    simp only [Bool.or_eq_true, not_or] at hmarks
    exact ⟨Nat.le_refl _, (write_keeps [] m).memory, fun _ hboth => hmarks.1 hboth.1⟩

theorem take_keeps : take.Within Keeps := by
  intro m
  rcases m.take_cases with ⟨-, hreleased, htake⟩ | ⟨f, htake, -⟩
  · rw [htake]
    refine ⟨Nat.le_succ _, fun r hr => Function.update_of_ne (by omega) _ _, fun _ hboth => ?_⟩
    rw [hreleased] at hboth
    cases hboth.2
  · rw [htake]
    exact refl_of Keeps m

theorem perform_keeps (u : Use) : (perform u).Within Keeps := by
  cases u with
  | set name v => exact .bind (set_keeps name v) fun _ => .pure _
  | update v => exact .bind (update_keeps v) fun _ => .pure _
  | take => exact .bind take_keeps fun _ => .pure _
  | release => exact .bind release_keeps fun _ => .pure _
  | enter => exact .pure _
  | leave => exact .bind release_keeps fun _ => .pure _

theorem handed_own {u : Use} {m : SharedSet} {r : Nat}
    (h : (Used.of perform u m).handed? = some r) : r < (Used.of perform u m).after.own := by
  cases u with
  | take =>
    rw [Used.handed?_eq_some] at h
    simp only [Used.of, perform, map_eq_pure_bind, Action.bind_apply] at h ⊢
    rcases m.take_cases with ⟨-, -, htake⟩ | ⟨f, htake, -⟩
    · rw [htake] at h ⊢
      cases h
      exact Nat.lt_succ_self _
    · rw [htake] at h
      cases h
  | enter => cases h
  | _ =>
    rw [Used.handed?_silently rfl] at h
    cases h

/-- A use leaves one mark on the set at most, and the dictionaries that were handed over before it
as they were. -/
structure Spares (past : List (Used SharedSet Nat)) (x : Used SharedSet Nat) : Prop where
  marks : ¬(x.after.transferred ∧ x.after.released)
  handed : ∀ y ∈ past, ∀ r, y.handed? = some r → x.after.memory r = y.after.memory r

theorem trace_spares (us : List Use) : ∀ before x after,
    Used.trace perform us {} = before ++ x :: after → Spares before x := by
  let I (past : List (Used SharedSet Nat)) (m : SharedSet) : Prop :=
    ¬(m.transferred ∧ m.released) ∧
      ∀ y ∈ past, ∀ r, y.handed? = some r → r < m.own ∧ m.memory r = y.after.memory r
  have hkept {past u m} (h : I past m) : I past (Used.of perform u m).after := by
    have hkeeps : Keeps m (Used.of perform u m).after := perform_keeps u m
    refine ⟨hkeeps.marks h.1, fun y hy r hr => ?_⟩
    obtain ⟨hlt, hmemory⟩ := h.2 y hy r hr
    exact ⟨Nat.lt_of_lt_of_le hlt hkeeps.own, (hkeeps.memory r hlt).trans hmemory⟩
  refine Used.trace_invariant (I := I) (P := Spares) ?_ ?_ [] ⟨by simp, by simp⟩ us
  · intro past u m h
    exact ⟨(hkept h).1, fun y hy r hr => ((hkept h).2 y hy r hr).2⟩
  · intro past u m h
    refine ⟨(hkept h).1, fun y hy r hr => ?_⟩
    rcases List.mem_append.mp hy with hy | hy
    · exact (hkept h).2 y hy r hr
    · obtain rfl := List.mem_singleton.mp hy
      exact ⟨handed_own hr, rfl⟩

end SharedSet

end KafkaHandles
