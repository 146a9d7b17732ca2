import KafkaHandles.Proofs.Client.Faults
import KafkaHandles.Proofs.Handle.Creation
import KafkaHandles.Proofs.PropertySet.Shared

/-!
# Clients that cannot be created

What the client library raises when it is to create a client is told apart by its class and its
text. By then the properties have been handed over, so closing the set changes neither the set nor
the dictionary that the library was given.
-/

namespace KafkaHandles

variable {σ : Type} (L : Library σ)

/-! ## What a fault tells -/

namespace Blueprint

/-- A fault that rejects a property: the name of the property, and the text. -/
inductive Rejects : ClientFault → Value → String → Prop
  | error {e : ClientError} (h : ¬creationFailed.toList <+: e.reason.toList) :
      Rejects (.error e) (.ofOption (RejectedProperty.find? e.reason)) e.reason
  | raised {k : GeneralClass} {text : String}
      (h : (FaultClass.general k).isValue ∨ (FaultClass.general k).isType) :
      Rejects (.raised k text) .none text

/-- The fault that is told in the place of what creating a client ended in. -/
inductive Tells : ClientFault → Fault → Prop
  | failed {e : ClientError} (h : creationFailed.toList <+: e.reason.toList) :
      Tells (.error e) (.connection e)
  | rejected {f : ClientFault} {name : Value} {text : String} (h : Rejects f name text)
      (htext : Char.ofNat 0 ∉ text.toList) : Tells f (.config name ⟨-186, text, false, false⟩)
  /-- No error can be made of a text that holds a NUL. -/
  | untold {f : ClientFault} {name : Value} {text : String} (h : Rejects f name text)
      (htext : Char.ofNat 0 ∈ text.toList) : Tells f .textHoldsNul
  | passed {k : GeneralClass} {text : String}
      (h : ¬((FaultClass.general k).isValue ∨ (FaultClass.general k).isType)) :
      Tells (.raised k text) (.raised k text)

theorem Rejects.exists_tells {f : ClientFault} {name : Value} {text : String}
    (h : Rejects f name text) : ∃ r, Tells f r := by
  by_cases htext : Char.ofNat 0 ∈ text.toList
  · exact ⟨_, .untold h htext⟩
  · exact ⟨_, .rejected h htext⟩

theorem exists_tells (f : ClientFault) : ∃ r, Tells f r := by
  cases f with
  | error e =>
    by_cases h : creationFailed.toList <+: e.reason.toList
    · exact ⟨_, .failed h⟩
    · exact (Rejects.error h).exists_tells
  | raised k text =>
    by_cases h : (FaultClass.general k).isValue ∨ (FaultClass.general k).isType
    · exact (Rejects.raised h).exists_tells
    · exact ⟨_, .passed h⟩

theorem Rejects.creationFault_eq {f : ClientFault} {name : Value} {text : String}
    (h : Rejects f name text) :
    creationFault (.ofClient f) = .wrapping (.config name) ErrorCode.invalidArgument text := by
  cases h with
  | error h => exact if_neg (mt List.isPrefixOf_iff_prefix.mp h)
  | raised h => exact if_pos (Bool.or_eq_true_iff.mpr h)

theorem Tells.eq {f : ClientFault} {r : Fault} (h : Tells f r) :
    r = creationFault (.ofClient f) := by
  cases h with
  | failed h => exact (if_pos (List.isPrefixOf_iff_prefix.mpr h)).symm
  | rejected h htext =>
    rw [h.creationFault_eq, Fault.wrapping_told htext]
    rfl
  | untold h htext => rw [h.creationFault_eq, Fault.wrapping_untold htext]
  | passed h => exact (if_neg (mt Bool.or_eq_true_iff.mp h)).symm

theorem tells_iff {f : ClientFault} {r : Fault} : Tells f r ↔ r = creationFault (.ofClient f) := by
  obtain ⟨told, htold⟩ := exists_tells f
  exact ⟨Tells.eq, fun h => h ▸ htold.eq ▸ htold⟩

end Blueprint

/-! ## The property set in memory -/

namespace SharedSet

variable (role : Role) (c : Config)

/-- Fills a set and creates a client with what memory has under the number that the set hands over.
-/
def launch : Action (SharedSet × World σ) ClientId := do
  (setAll (c.allProperties role)).onFirst
  let number ← take.onFirst
  let (m, _) ← Action.get
  ((World.create L role (m.memory number)).onSecond).mapFault Blueprint.creationFault

theorem launch_look : Action.Mirrors (Prod.map look id) (launch L role c)
    (Blueprint.launch L (.ofRole role) c) := by
  unfold Blueprint.launch
  simp only [Blueprint.configure_ofRole, Blueprint.client_ofRole]
  refine .bind (setAll_look _).onFirst fun _ => ?_
  rintro ⟨m, w⟩
  simp only [Action.bind_apply, Action.onFirst, Action.get_apply, Prod.map_apply, id_eq,
    take_look m]
  rcases take m with ⟨_ | number, t⟩
  · rfl
  · simp only [Except.map, Action.mapFault, Action.onSecond]
    rcases World.create L role (t.memory number) w with ⟨_ | _, _⟩ <;> rfl

/-- A launch that comes as far as the client library leaves the set handed over, and what it has
handed over as it was. -/
theorem launch_error {w u : World σ} {f : Fault}
    (hset : PropertySet.setAll (c.allProperties role) {} = (.ok (), ⟨c.allProperties role, .held⟩))
    (hcreate : World.create L role (c.allProperties role) w = (.error f, u)) :
    ∃ m number t, setAll (c.allProperties role) {} = (.ok (), m) ∧ take m = (.ok number, t) ∧
      t.memory number = c.allProperties role ∧ t.look = ⟨[], .transferred⟩ ∧
      launch L role c ({}, w) = (.error (Blueprint.creationFault f), t, u) ∧
      (launch L role c).thenAlways release.onFirst ({}, w) =
        (.error (Blueprint.creationFault f), t, u) := by
  obtain ⟨m, hm, hlook⟩ : ∃ m, setAll (c.allProperties role) {} = (.ok (), m) ∧
      m.look = ⟨c.allProperties role, .held⟩ := by
    have hlook := hset.symm.trans (setAll_look (c.allProperties role) {})
    have hfilled := (congrArg Prod.fst hlook).symm
    exact ⟨_, Prod.ext hfilled rfl, (congrArg Prod.snd hlook).symm⟩
  obtain ⟨number, t, htake, hmemory, htaken, hrelease⟩ := take_of_held hlook
  have hlaunch : launch L role c ({}, w) = (.error (Blueprint.creationFault f), t, u) := by
    simp only [launch, Action.bind_apply, Action.onFirst, Action.get_apply, hm, htake,
      Action.mapFault, Action.onSecond, hmemory, hcreate]
  refine ⟨m, number, t, hm, htake, hmemory, htaken, hlaunch, ?_⟩
  simp only [Action.thenAlways, hlaunch, Action.onFirst, hrelease]

end SharedSet

/-! ## Making a handle -/

theorem World.create_error {role : Role} {properties : Dict} {w : World σ} {f : ClientFault}
    (h : (L.answer w.rules.length (.create role properties) w.library).1 = .error f) :
    ∃ u, create L role properties w = (.error (.ofClient f), u) ∧ u.log = w.log := by
  have hrequest : (request L w.rules.length (.create role properties)
      { w with rules := w.rules ++ [none] }).1 = .error (.ofClient f) := by
    rw [request_answer]
    exact congrArg (Except.mapError Fault.ofClient) h
  rw [create_eq]
  refine ⟨_, Prod.ext (congrArg (Except.map fun _ => w.rules.length) hrequest) rfl, ?_⟩
  rw [request_state]
  rfl

namespace Handle

/-- How making a handle ends that the client library fails to create a client for. -/
structure Fails (role : Role) (c : Config) (w : World σ) (f : ClientFault) (r : Fault) : Prop where
  told : ∀ r', Blueprint.Tells f r' ↔ r' = r
  ended : (make L role (.config c) w).1 = .error r
  once : (make L role (.config c) w).2.calls =
    w.calls ++ [(w.rules.length, .create role (c.managed role ++ c.properties))]
  silent : (make L role (.config c) w).2.log = w.log
  transferred : Blueprint.launch L (.ofRole role) c ({}, w) =
    (.error r, ⟨[], .transferred⟩, (make L role (.config c) w).2)
  closed : (Blueprint.launch L (.ofRole role) c).thenAlways PropertySet.release.onFirst ({}, w) =
    (.error r, ⟨[], .transferred⟩, (make L role (.config c) w).2)
  kept : ∃ m number t, SharedSet.setAll (c.allProperties role) {} = (.ok (), m) ∧
    SharedSet.take m = (.ok number, t) ∧
    (SharedSet.launch L role c).thenAlways SharedSet.release.onFirst ({}, w) =
      (.error r, t, (make L role (.config c) w).2) ∧
    t.memory number = c.managed role ++ c.properties

theorem fails {role : Role} {c : Config} (hc : c.validateFor (.role role) = .ok ()) {w : World σ}
    (hset : PropertySet.setAll (c.allProperties role) {} = (.ok (), ⟨c.allProperties role, .held⟩))
    {f : ClientFault}
    (hf : (L.answer w.rules.length (.create role (c.allProperties role)) w.library).1 = .error f) :
    Fails L role c w f (Blueprint.creationFault (.ofClient f)) := by
  obtain ⟨u, hcreate, hlog⟩ := World.create_error L hf
  have hcalls := World.create_calls (L := L) role (c.allProperties role) w
  have hmake := make_of_set L hc w hset
  rw [hcreate] at hcalls hmake
  obtain ⟨m, number, t, hm, htake, hmemory, htaken, hlaunch, hclosed⟩ :=
    SharedSet.launch_error L role c hset hcreate
  -- what the set in memory has gone through is what the property set has
  have hmirrors := SharedSet.launch_look L role c
  have hlaunchSeen := hmirrors ({}, w)
  have hclosedSeen := hmirrors.thenAlways SharedSet.release_look.onFirst ({}, w)
  rw [hlaunch, Prod.map_apply, Prod.map_apply, htaken] at hlaunchSeen
  rw [hclosed, Prod.map_apply, Prod.map_apply, htaken] at hclosedSeen
  have hleft : (make L role (.config c) w).2 = u := congrArg Prod.snd hmake
  refine ⟨fun r' => Blueprint.tells_iff, congrArg Prod.fst hmake, ?_, ?_, ?_, ?_, m, number, t, hm,
    htake, ?_, hmemory⟩ <;> rw [hleft]
  · exact hcalls
  · exact hlog
  · exact hlaunchSeen
  · exact hclosedSeen
  · exact hclosed

/-- Whatever the client library raises in the place of a new client is told as exactly one fault. The
library was asked once, with all properties, there is no handle, and the properties stay handed
over. -/
theorem creation_failures_are_told_apart {role : Role} {c : Config} (hc : c.Produced)
    (hgroup : role = .consumer → c.group.isSome)
    (hnew : ∀ e ∈ c.properties, (c.managed role).hasKey e.1 = false) {w : World σ}
    {f : ClientFault}
    (hf : (L.answer w.rules.length (.create role (c.managed role ++ c.properties)) w.library).1 =
      .error f) : ∃ r, Fails L role c w f r :=
  ⟨_, fails L (Config.validateFor_role hgroup) (Config.setAll_allProperties hc.proper hnew) hf⟩

/-- A property that the client library does not know is told by its name. -/
theorem unknown_property_is_named :
    let c : Config := ⟨["a:1"], some "g", none, .latest, [(.text "foo", .int 1)]⟩
    let e : ClientError := ⟨-186, "No such configuration property: \"foo\"", false, false⟩
    let w : World Scripted :=
      { library := { nextScript := { faults := [(.create, some (.error e))] } } }
    (make Scripted.library .consumer (.config c) w).1 = .error (.config (.text "foo") e) ∧
      (make Scripted.library .consumer (.config c) w).2.calls =
        [(0, .create .consumer (c.managed .consumer ++ c.properties))] := by
  intro c e w
  have hc : c.Produced := .built (s := {
    servers := .text "a:1", group := .text "g", properties := .dict c.properties }) rfl (by
      rintro d ⟨⟩; exact .of_texts ["foo"] rfl (by decide))
  have hgroup : Role.consumer = .consumer → c.group.isSome := fun _ => rfl
  obtain ⟨r, h⟩ := creation_failures_are_told_apart Scripted.library hc hgroup (by decide)
    (w := w) (f := .error e) rfl
  have hprefix : ¬Blueprint.creationFailed.toList <+: e.reason.toList := by decide
  have hname : RejectedProperty.find? e.reason = some "foo" := by decide
  have hrejects : Blueprint.Rejects (.error e) (.ofOption (some "foo")) e.reason :=
    hname ▸ .error hprefix
  have htold : Blueprint.Tells (.error e) (.config (.text "foo") e) := .rejected hrejects (by decide)
  rw [(h.told _).mp htold]
  exact ⟨h.ended, h.once⟩

/-- A value that the client library refuses in a text with a NUL. -/
theorem refusal_with_nul_is_not_told :
    let text := String.ofList ['a', Char.ofNat 0, 'b']
    let c : Config := ⟨["a:1"], none, none, .latest, []⟩
    let w : World Scripted :=
      { library := { nextScript := { faults := [(.create, some (.raised .value text))] } } }
    c.Produced ∧ (Scripted.library.answer 0 (.create .producer (c.managed .producer))
        w.library).1 = .error (.raised .value text) ∧
      (make Scripted.library .producer (.config c) w).1 = .error .textHoldsNul ∧
      ∀ name e, Fault.textHoldsNul ≠ .config name e :=
  ⟨.built (s := { servers := .text "a:1" }) rfl nofun, rfl, rfl, fun _ _ => nofun⟩

end Handle

end KafkaHandles
