import KafkaHandles.Proofs.Config.Assignment
import KafkaHandles.Proofs.Config.Normal
import KafkaHandles.Proofs.Handle.Making
import KafkaHandles.Proofs.PropertySet
import KafkaHandles.Scripted.Client

/-!
# The properties of a new client

A client is created with the managed properties of its role, and after them the further properties
of the configuration in their own order. A further property that is managed keeps the client from
being created, so none can take the place of a managed one.
-/

namespace KafkaHandles

open PropertyName

/-! ## Managed properties -/

namespace Config

/-- The properties that secure connections, or leave them open. -/
def security (c : Config) : Dict :=
  match c.tls with
  | none => [(.text securityProtocol, .text "plaintext")]
  | some tls => [(.text securityProtocol, .text "ssl"), (.text caLocation, .text tls.caLocation),
      (.text certificateLocation, .text tls.certificateLocation),
      (.text keyLocation, .text tls.keyLocation)]

/-- The managed properties of a client of a role, in order. -/
def managed (c : Config) : Role → Dict
  | .producer => [(.text bootstrapServers, .text (Text.join "," c.servers))] ++ c.security ++
      [(.text acks, .text "all"), (.text logger, .logSink)]
  | .consumer => [(.text bootstrapServers, .text (Text.join "," c.servers)),
      (.text groupId, .ofOption c.group)] ++ c.security ++
      [(.text autoOffsetReset, .text c.policy.word), (.text enablePartitionEof, .text "true"),
        (.text logger, .logSink)]

/-- The names of the managed properties. -/
def managedNames (secured : Bool) (role : Role) : List String :=
  let security := securityProtocol ::
    if secured then [caLocation, certificateLocation, keyLocation] else []
  match role with
  | .producer => [bootstrapServers] ++ security ++ [acks, logger]
  | .consumer => [bootstrapServers, groupId] ++ security ++
      [autoOffsetReset, enablePartitionEof, logger]

theorem keys_managed (c : Config) (role : Role) :
    (c.managed role).keys = (managedNames c.secured role).map .text := by
  unfold managed managedNames security secured
  cases role <;> cases c.tls <;> rfl

theorem nodup_managedNames (secured : Bool) (role : Role) : (managedNames secured role).Nodup := by
  cases secured <;> cases role <;> decide

theorem managed_proper (c : Config) (role : Role) : (c.managed role).Proper :=
  .of_texts _ (c.keys_managed role) (nodup_managedNames _ _)

theorem isReason_managedNames (secured : Bool) (role : Role) :
    ∀ name ∈ managedNames secured role,
      ClientError.isReason ("Property " ++ name ++ " already set") = true := by
  cases secured <;> cases role <;> decide

theorem alreadySet_managed {c : Config} {role : Role} {name : Value}
    (h : (c.managed role).hasKey name = true) :
    ∃ s, name = .text s ∧ PropertySet.alreadySet name = .config name
      (.ofCode ErrorCode.invalidArgument (some ("Property " ++ s ++ " already set"))) := by
  obtain ⟨s, hs, rfl⟩ := (Dict.hasKey_texts (c.keys_managed role)).mp h
  exact ⟨s, rfl, if_pos (isReason_managedNames _ _ s hs)⟩

theorem validateFor_role {c : Config} {role : Role} (h : role = .consumer → c.group.isSome) :
    c.validateFor (.role role) = .ok () := by
  cases role with
  | producer => rfl
  | consumer =>
    have hgroup : c.group.isNone = false := by simpa using h rfl
    simp [validateFor, hgroup]

/-- The properties that a client of a role is created with. -/
def allProperties (c : Config) (role : Role) : Dict :=
  c.managed role ++ c.properties

/-- Properties that are none of the managed ones are all set after them. -/
theorem setAll_allProperties {c : Config} (hc : c.properties.Proper) {role : Role}
    (hnew : ∀ e ∈ c.properties, (c.managed role).hasKey e.1 = false) :
    PropertySet.setAll (c.allProperties role) {} = (.ok (), ⟨c.allProperties role, .held⟩) := by
  have hmanaged : PropertySet.setAll (c.managed role) {} = (.ok (), ⟨c.managed role, .held⟩) :=
    PropertySet.setAll_new (c.managed_proper role) (by simp [Dict.hasKey])
  rw [allProperties, PropertySet.setAll_append, Action.bind_ok hmanaged]
  exact PropertySet.setAll_new hc hnew

/-- A configuration that was built from settings or taken from a dictionary. -/
inductive Produced : Config → Prop
  | built {s : Settings} {c : Config} (h : build s = .ok c)
      (proper : ∀ d, s.properties = .dict d → Dict.Proper d) : Produced c
  | ofDict {v role : Value} {c : Config} (h : ofDict v role = .ok c)
      (proper : ∀ d, v = .dict d → Dict.Proper d) : Produced c

theorem build_properties {s : Settings} {c : Config} (h : build s = .ok c) :
    checkProperties s.properties = .ok c.properties := by
  obtain ⟨-, -, -, -, hproperties, -⟩ := build_ok.mp h
  exact hproperties

theorem build_proper {s : Settings} {c : Config} (h : build s = .ok c)
    (proper : ∀ d, s.properties = .dict d → Dict.Proper d) : c.properties.Proper := by
  have hproperties := build_properties h
  cases hs : s.properties with
  | none =>
    rw [hs] at hproperties
    have hnone := Except.ok.inj hproperties
    rw [← hnone]
    exact ⟨by simp, List.Pairwise.nil⟩
  | dict d =>
    rw [hs] at hproperties
    obtain rfl := Except.ok.inj hproperties
    exact proper _ hs
  | _ =>
    rw [hs] at hproperties
    cases hproperties

theorem Produced.proper {c : Config} (h : c.Produced) : c.properties.Proper := by
  cases h with
  | built h proper => exact build_proper h proper
  | @ofDict v role _ h proper =>
    unfold Config.ofDict at h
    split at h
    · rename_i d
      split at h
      · cases h
      · refine build_proper h fun e he => ?_
        cases he
        exact (proper d rfl).erase_all _
    · cases h

end Config

/-! ## Creation -/

namespace Blueprint

/-- The kind of handles of a role. -/
def ofRole : Role → Blueprint
  | .producer => producer
  | .consumer => consumer

/-- What configures the handles of a role sets all their properties in order. -/
theorem configure_ofRole (role : Role) :
    (ofRole role).configure = some fun c => PropertySet.setAll (c.allProperties role) := by
  cases role with
  | producer =>
    refine congrArg some (funext fun c => ?_)
    unfold configureProducer setSecurity Config.allProperties Config.managed Config.security
    cases c.tls <;>
      simp [setText, setLogSink, PropertySet.setAll, bind_assoc, Config.joinedServers]
  | consumer =>
    refine congrArg some (funext fun c => ?_)
    unfold configureConsumer setSecurity Config.allProperties Config.managed Config.security
    cases c.tls <;> cases c.group <;>
      simp [setText, setLogSink, PropertySet.setAll, bind_assoc, Config.joinedServers,
        Value.ofOption]

variable {σ : Type} (L : Library σ)

theorem client_ofRole (role : Role) : (ofRole role).client = some role := by
  cases role <;> rfl

theorem role_ofRole (role : Role) : (ofRole role).role = some role := by
  cases role <;> rfl

variable (role : Role) (c : Config) (w : World σ)

/-- All properties are set and handed over to a new client, or one of them is rejected and no client
is created. -/
theorem launch_ofRole :
    Action.startingAt {} ((launch L (ofRole role) c).thenAlways PropertySet.release.onFirst) w =
      match PropertySet.setAll (c.allProperties role) {} with
      | (.ok _, _) => (World.create L role (c.allProperties role)).mapFault creationFault w
      | (.error f, _) => (.error f, w) := by
  simp only [launch, configure_ofRole, client_ofRole, Action.startingAt, Action.thenAlways,
    Action.bind_apply, Action.onFirst]
  rcases PropertySet.setAll_cases (c.allProperties role) [] with h | ⟨f, set, h⟩
  · rw [h]
    simp only [PropertySet.take_held, List.nil_append, Action.onSecond, Action.mapFault]
    rcases World.create L role (c.allProperties role) w with ⟨_ | _, u⟩ <;> rfl
  · rw [h]
    rfl

end Blueprint

variable {σ : Type} (L : Library σ)

namespace Handle

/-- Makes a handle of a role. -/
def make (role : Role) (given : ConfigArgument) : Action (World σ) Handle :=
  match role with
  | .producer => do
    let p ← Producer.make L given
    pure (.producer p)
  | .consumer => do
    let c ← Consumer.make L given
    pure (.consumer c)

/-- A handle that is made of a client that was just created. -/
def ofClient (role : Role) (id : ClientId) (c : Config) : Except Fault Handle :=
  match role with
  | .producer => .ok (.producer ⟨some id⟩)
  | .consumer => (Config.isIncremental c.properties).map fun incremental =>
      .consumer ⟨some id, none, c.policy, incremental⟩

theorem ofClient_error {role : Role} {id : ClientId} {c : Config} {f : Fault}
    (h : ofClient role id c = .error f) : ∃ flaw, f = .untold flaw := by
  cases role with
  | producer => cases h
  | consumer =>
    simp only [ofClient] at h
    cases hincremental : Config.isIncremental c.properties with
    | ok b =>
      rw [hincremental] at h
      cases h
    | error g =>
      rw [hincremental] at h
      cases h
      exact Config.isIncremental_error hincremental

theorem make_eq (role : Role) (given : ConfigArgument) :
    make L role given = (Blueprint.ofRole role).make L given >>= fun r =>
      Action.lift (ofClient role r.1 r.2) := by
  cases role with
  | producer => rw [make, Producer.make, bind_assoc]; rfl
  | consumer =>
    rw [make, Consumer.make, bind_assoc]
    refine congrArg _ (funext fun r => funext fun w => ?_)
    rw [bind_assoc, Action.bind_apply, Action.lift_apply, Action.lift_apply, ofClient]
    cases Config.isIncremental r.2.properties <;> rfl

theorem make_of_invalid {role : Role} {c : Config} {f : Fault}
    (hc : c.validateFor (.role role) = .error f) (w : World σ) :
    make L role (.config c) w = (.error f, w) := by
  simp only [make_eq, Blueprint.make, Action.bind_apply, Blueprint.role_ofRole, Option.map_some,
    Option.getD_some, hc, Action.lift_apply]

section Make

variable {role : Role} {c : Config} (hc : c.validateFor (.role role) = .ok ()) (w : World σ)
include hc

theorem make_of_set {s : PropertySet}
    (h : PropertySet.setAll (c.allProperties role) {} = (.ok (), s)) :
    make L role (.config c) w = match World.create L role (c.allProperties role) w with
      | (.ok id, u) => (ofClient role id c,
          (World.say .handle LogLevel.info (Blueprint.createdText role c) u).2)
      | (.error f, u) => (.error (Blueprint.creationFault f), u) := by
  simp only [make_eq, Blueprint.make, Action.bind_apply, Blueprint.role_ofRole, Option.map_some,
    Option.getD_some, hc, Action.lift_apply, Blueprint.launch_ofRole, h, Action.mapFault]
  rcases World.create L role (c.allProperties role) w with ⟨f | id, u⟩
  · rfl
  · rfl

theorem make_of_rejected {f : Fault} {s : PropertySet}
    (h : PropertySet.setAll (c.allProperties role) {} = (.error f, s)) :
    make L role (.config c) w = (.error f, w) := by
  simp only [make_eq, Blueprint.make, Action.bind_apply, Blueprint.role_ofRole, Option.map_some,
    Option.getD_some, hc, Action.lift_apply, Blueprint.launch_ofRole, h]

end Make

/-- No handle is made and nothing is asked of the library, or all that is left is to create its
client. -/
theorem make_cases (role : Role) (given : ConfigArgument) (w : World σ) :
    (∃ f, make L role given w = (.error f, w)) ∨
    ∃ c, given = .config c ∧ make L role given w =
      match World.create L role (c.allProperties role) w with
      | (.ok id, u) => (ofClient role id c,
          (World.say .handle LogLevel.info (Blueprint.createdText role c) u).2)
      | (.error f, u) => (.error (Blueprint.creationFault f), u) := by
  cases given with
  | other v => exact Or.inl ⟨_, by rw [make_eq]; rfl⟩
  | config c =>
    rcases hc : c.validateFor (.role role) with f | _
    · exact Or.inl ⟨f, make_of_invalid L hc w⟩
    · rcases PropertySet.setAll_cases (c.allProperties role) [] with hset | ⟨f, set, hset⟩
      · exact Or.inr ⟨c, rfl, make_of_set L hc w hset⟩
      · exact Or.inl ⟨f, make_of_rejected L hc w hset⟩

/-- Making a handle asks for one client at most. -/
theorem make_calls (role : Role) (c : Config) (w : World σ) :
    ∃ made, (make L role (.config c) w).2.calls = w.calls ++ made ∧
      (made = [] ∨ made = [(w.rules.length, .create role (c.allProperties role))]) := by
  rcases make_cases L role (.config c) w with ⟨f, hmake⟩ | ⟨c', hc, hmake⟩
  · exact ⟨[], by simp [hmake], Or.inl rfl⟩
  · cases hc
    have hcalls := World.create_calls (L := L) role (c.allProperties role) w
    refine ⟨_, ?_, Or.inr rfl⟩
    rw [hmake]
    rcases hcreate : World.create L role (c.allProperties role) w with ⟨f | id, u⟩ <;>
      rw [hcreate] at hcalls <;> exact hcalls

end Handle

theorem Consumer.make_cases (given : ConfigArgument) (w : World σ) :
    (∃ f, make L given w = (.error f, w)) ∨
    ∃ c, given = .config c ∧ make L given w =
      match World.create L .consumer (c.allProperties .consumer) w with
      | (.ok id, u) => ((Config.isIncremental c.properties).map (⟨some id, none, c.policy, ·⟩),
          (World.say .handle LogLevel.info (Blueprint.createdText .consumer c) u).2)
      | (.error f, u) => (.error (Blueprint.creationFault f), u) := by
  have heq : Handle.make L .consumer given w =
      ((make L given w).1.map .consumer, (make L given w).2) :=
    Action.bind_pure_apply _ _ _
  have hinjective : Function.Injective (Except.map Handle.consumer : Except Fault Consumer → _) := by
    rintro (f | c) (g | d) h <;> cases h <;> rfl
  have hmake {r : Except Fault Consumer} {u : World σ}
      (h : Handle.make L .consumer given w = (r.map .consumer, u)) : make L given w = (r, u) := by
    rw [heq] at h
    obtain ⟨hr, hu⟩ := Prod.mk.inj h
    exact Prod.ext (hinjective hr) hu
  rcases Handle.make_cases L .consumer given w with ⟨f, h⟩ | ⟨c, hc, h⟩
  · exact Or.inl ⟨f, hmake h⟩
  · refine Or.inr ⟨c, hc, hmake (h.trans ?_)⟩
    rcases World.create L .consumer (c.allProperties .consumer) w with ⟨f | id, u⟩
    · rfl
    · cases hincremental : Config.isIncremental c.properties <;>
        simp only [Handle.ofClient, hincremental] <;> rfl

namespace Handle

/-- No managed property can be overridden. Unless a further property has the name of a managed one,
one client is created, with the managed properties first and the further ones after them, both in
their order. Otherwise the first of those is rejected, and nothing is asked of the library. -/
theorem managed_properties_come_first {c : Config} (hc : c.Produced) (role : Role)
    (hgroup : role = .consumer → c.group.isSome) (w : World σ) :
    ((∀ e ∈ c.properties, (c.managed role).hasKey e.1 = false) →
      (make L role (.config c) w).2.calls =
        w.calls ++ [(w.rules.length, .create role (c.managed role ++ c.properties))]) ∧
    ∀ before name v after, c.properties = before ++ (name, v) :: after →
      (∀ e ∈ before, (c.managed role).hasKey e.1 = false) →
      (c.managed role).hasKey name = true →
      ∃ s, name = .text s ∧ make L role (.config c) w = (.error (.config name
        (.ofCode ErrorCode.invalidArgument (some ("Property " ++ s ++ " already set")))), w) := by
  have hvalid : c.validateFor (.role role) = .ok () := Config.validateFor_role hgroup
  have hmanaged : PropertySet.setAll (c.managed role) {} = (.ok (), ⟨c.managed role, .held⟩) :=
    PropertySet.setAll_new (c.managed_proper role) (by simp [Dict.hasKey])
  have hall : PropertySet.setAll (c.allProperties role) {} =
      PropertySet.setAll c.properties ⟨c.managed role, .held⟩ := by
    rw [Config.allProperties, PropertySet.setAll_append, Action.bind_ok hmanaged]
  constructor
  · intro hnew
    have hset := hall.trans (PropertySet.setAll_new hc.proper hnew)
    have hcalls := World.create_calls (L := L) role (c.allProperties role) w
    rw [make_of_set L hvalid w hset]
    split <;> rename_i hcreate <;> rw [hcreate] at hcalls <;> exact hcalls
  · intro before name v after hsplit hnew htaken
    have hproper := hc.proper
    rw [hsplit] at hproper hall
    have hset := hall.trans (PropertySet.setAll_taken hproper hnew htaken)
    obtain ⟨s, hs, halready⟩ := Config.alreadySet_managed htaken
    exact ⟨s, hs, by rw [make_of_rejected L hvalid w hset, halready]⟩

/-- The location of a key is taken for a consumer with TLS material, which rejects it, and is
nothing special for a producer without. -/
theorem key_location_is_taken_or_passed :
    let further : Dict := [(.text acks, .int 1), (.text keyLocation, .text "mine"),
      (.text groupId, .text "g")]
    let reader : Config := ⟨["a:1", "b:2"], some "readers", some ⟨"ca", "crt", "key"⟩, .earliest,
      further⟩
    let writer : Config := ⟨["a:1"], none, none, .latest, further.drop 1⟩
    let w : World Scripted := { library := {} }
    reader.Produced ∧ writer.Produced ∧
      make Scripted.library .consumer (.config reader) w =
        (.error (.config (.text keyLocation) (.ofCode ErrorCode.invalidArgument
          (some "Property ssl.key.location already set"))), w) ∧
      (make Scripted.library .producer (.config writer) w).2.calls =
        [(0, .create .producer (writer.managed .producer ++ writer.properties))] := by
  intro further reader writer w
  have hproper : further.Proper := .of_texts [acks, keyLocation, groupId] rfl (by decide)
  have hreader : reader.Produced := .built (s := {
    servers := .text "a:1, b:2", group := .text "readers", caLocation := .text "ca"
    certificateLocation := .text "crt", keyLocation := .text "key", policy := .text " Earliest"
    properties := .dict further }) rfl (by rintro d ⟨⟩; exact hproper)
  have hwriter : writer.Produced := .built (s := {
    servers := .list [.text " a:1"], properties := .dict (further.drop 1) }) rfl (by
      rintro d ⟨⟩; exact hproper.sublist (List.drop_sublist 1 _))
  refine ⟨hreader, hwriter, ?_, ?_⟩
  · obtain ⟨s, hs, hmake⟩ :=
      (managed_properties_come_first Scripted.library hreader .consumer (fun _ => rfl) w).2
        [(.text acks, .int 1)] (.text keyLocation) (.text "mine") [(.text groupId, .text "g")] rfl
        (by decide) rfl
    cases hs
    exact hmake
  · exact (managed_properties_come_first Scripted.library hwriter .producer nofun w).1 (by decide)

end Handle

end KafkaHandles
