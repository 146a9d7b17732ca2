import KafkaHandles.Proofs.Config.Normal
import KafkaHandles.Proofs.Handle.Creation

/-!
# Configurations and dictionaries

Taking a configuration from a dictionary is building one from the values of the extracted names and
all other properties in their order, unless a reserved name is set. What has been built can be
written as such a dictionary, and is the same configuration when it is taken from there.
-/

namespace KafkaHandles

open PropertyName

theorem Value.same_text_right {v : Value} {s : String} : v.same (text s) = true ↔ v = text s := by
  cases v with
  | text t => simp [same, sameAtom, integral?, bytes?]
  | _ => simp [same, sameAtom, integral?, bytes?]

/-! ## Looking names up -/

namespace Dict

variable {d : Dict} {name : String} {v : Value}

/-- The value of a property, which is the absent one if the property is not set. -/
def Gives (d : Dict) (name : String) (v : Value) : Prop :=
  (.text name, v) ∈ d ∨ (∀ w, (.text name, w) ∉ d) ∧ v = .none

theorem hasKey_text : d.hasKey (.text name) = true ↔ ∃ v, (.text name, v) ∈ d := by
  simp only [hasKey, List.any_eq_true, Value.same_text_right]
  constructor
  · rintro ⟨⟨key, v⟩, he, rfl⟩
    exact ⟨v, he⟩
  · rintro ⟨v, he⟩
    exact ⟨_, he, rfl⟩

theorem Proper.get?_of_mem (hd : d.Proper) (h : (.text name, v) ∈ d) :
    d.get? (.text name) = some v := by
  induction d with
  | nil => cases h
  | cons e d ih =>
    obtain ⟨hfirst, -⟩ := List.pairwise_cons.mp hd.distinct
    rcases List.mem_cons.mp h with rfl | h
    · simp [get?, Value.same_text_right.mpr]
    · have hne : e.1.same (.text name) = false := hfirst _ h
      have hrest := ih (hd.sublist (List.sublist_cons_self e d)) h
      rwa [get?, List.find?_cons, hne]

theorem get?_of_not_mem (h : ∀ w, (.text name, w) ∉ d) : d.get? (.text name) = none := by
  have hnone : (d.find? fun e => e.1.same (.text name)) = none := by
    rw [List.find?_eq_none]
    rintro ⟨key, w⟩ he hsame
    obtain rfl := Value.same_text_right.mp hsame
    exact h w he
  rw [get?, hnone]
  rfl

theorem get?_append (d e : Dict) (key : Value) :
    Dict.get? (d ++ e) key = (d.get? key).or (e.get? key) := by
  simp [get?, List.find?_append, Option.map_or]

theorem Proper.gives_iff (hd : d.Proper) : d.Gives name v ↔ Config.propertyOf d name = v := by
  by_cases h : ∃ w, (.text name, w) ∈ d
  · obtain ⟨w, hw⟩ := h
    have hvalue : Config.propertyOf d name = w := by
      rw [Config.propertyOf, hd.get?_of_mem hw]
      rfl
    rw [hvalue]
    constructor
    · rintro (hv | ⟨hnone, -⟩)
      · exact Option.some.inj ((hd.get?_of_mem hw).symm.trans (hd.get?_of_mem hv))
      · exact absurd hw (hnone w)
    · rintro rfl
      exact Or.inl hw
  · have hnone : ∀ w, (.text name, w) ∉ d := not_exists.mp h
    have hvalue : Config.propertyOf d name = .none := by
      rw [Config.propertyOf, get?_of_not_mem hnone]
      rfl
    rw [hvalue]
    constructor
    · rintro (hv | ⟨-, rfl⟩)
      · exact absurd hv (hnone v)
      · rfl
    · rintro rfl
      exact Or.inr ⟨hnone, rfl⟩

theorem erase_names (names : List String) (d : Dict) :
    names.foldl (fun d name => Dict.erase d (.text name)) d =
      d.filter fun e => !names.any fun name => e.1.same (.text name) := by
  induction names generalizing d with
  | nil => simp
  | cons name names ih =>
    rw [List.foldl_cons, ih, erase, List.filter_filter]
    simp only [List.any_cons, Bool.not_or, Bool.and_comm]

end Dict

namespace Config

/-- Whether a key is one of those that a configuration takes out of a dictionary. -/
def isExtracted (key : Value) : Bool :=
  match key with
  | .text name => extractedNames.contains name
  | _ => false

theorem isExtracted_iff {key : Value} :
    isExtracted key = true ↔ ∃ name ∈ extractedNames, key = .text name := by
  cases key with
  | text s => simp [isExtracted]
  | _ => simp [isExtracted]

theorem erase_extractedNames (d : Dict) :
    extractedNames.foldl (fun d name => Dict.erase d (.text name)) d =
      d.filter fun e => !isExtracted e.1 := by
  have hany (key : Value) :
      (extractedNames.any fun name => key.same (.text name)) = isExtracted key := by
    rw [Bool.eq_iff_iff, isExtracted_iff, List.any_eq_true]
    simp only [Value.same_text_right]
  simp only [Dict.erase_names, hany]

/-- Settings that are read from a dictionary: the values of the extracted names, and all other
properties in their order. -/
structure Settings.ReadFrom (d : Dict) (s : Settings) : Prop where
  servers : d.Gives bootstrapServers s.servers
  group : d.Gives groupId s.group
  caLocation : d.Gives PropertyName.caLocation s.caLocation
  certificateLocation : d.Gives PropertyName.certificateLocation s.certificateLocation
  keyLocation : d.Gives PropertyName.keyLocation s.keyLocation
  policy : d.Gives autoOffsetReset s.policy
  properties : s.properties = .dict (d.filter fun e => !isExtracted e.1)

theorem Settings.readFrom_iff {d : Dict} (hd : d.Proper) {s : Settings} :
    s.ReadFrom d ↔ s = .ofDict d s.role := by
  constructor
  · intro h
    cases s
    simp only [ofDict, mk.injEq, true_and, erase_extractedNames]
    exact ⟨(hd.gives_iff.mp h.servers).symm, (hd.gives_iff.mp h.group).symm,
      (hd.gives_iff.mp h.caLocation).symm, (hd.gives_iff.mp h.certificateLocation).symm,
      (hd.gives_iff.mp h.keyLocation).symm, (hd.gives_iff.mp h.policy).symm, h.properties⟩
  · intro h
    rw [h]
    exact ⟨hd.gives_iff.mpr rfl, hd.gives_iff.mpr rfl, hd.gives_iff.mpr rfl, hd.gives_iff.mpr rfl,
      hd.gives_iff.mpr rfl, hd.gives_iff.mpr rfl,
      congrArg Value.dict (erase_extractedNames d)⟩

/-! ## Reserved names -/

theorem ofDict_securityProtocol {d : Dict} (h : ∃ v, (.text securityProtocol, v) ∈ d)
    (role : Value) :
    ofDict (.dict d) role = .error (.refused (.propertyManaged securityProtocol)) := by
  simp [ofDict, reservedNames, Dict.hasKey_text.mpr h]

theorem ofDict_acks {d : Dict} (hfirst : ∀ v, (.text securityProtocol, v) ∉ d)
    (h : ∃ v, (.text acks, v) ∈ d) (role : Value) :
    ofDict (.dict d) role = .error (.refused (.propertyManaged acks)) := by
  have hnone : d.hasKey (.text securityProtocol) = false :=
    Bool.eq_false_iff.mpr fun hkey => not_exists.mpr hfirst (Dict.hasKey_text.mp hkey)
  simp [ofDict, reservedNames, hnone, Dict.hasKey_text.mpr h]

theorem ofDict_unreserved {d : Dict} (h : ∀ name ∈ reservedNames, ∀ v, (.text name, v) ∉ d)
    (role : Value) : ofDict (.dict d) role = build (.ofDict d role) := by
  have hnone : reservedNames.find? (fun name => d.hasKey (.text name)) = none := by
    rw [List.find?_eq_none]
    intro name hname hkey
    exact not_exists.mpr (h name hname) (Dict.hasKey_text.mp hkey)
  rw [ofDict, hnone]

/-! ## What has been built -/

/-- The settings that a configuration itself stands for. -/
def settings (c : Config) (policy role : Value) : Settings where
  servers := .list (c.servers.map .text)
  group := .ofOption c.group
  caLocation := .ofOption (c.tls.map Tls.caLocation)
  certificateLocation := .ofOption (c.tls.map Tls.certificateLocation)
  keyLocation := .ofOption (c.tls.map Tls.keyLocation)
  policy := policy
  role := role
  properties := .dict c.properties

/-- A configuration is built again from what it stands for. -/
theorem build_settings {s : Settings} {c : Config} (h : build s = .ok c) {policy role : Value}
    (hpolicy : policy = .policy c.policy ∨ policy = .text c.policy.word)
    (hrole : c.validateFor role = .ok ()) : build (c.settings policy role) = .ok c := by
  obtain ⟨hservers, hgroup, htls, -, -, -⟩ := build_ok.mp h
  refine build_ok.mpr ⟨checkServers_listed hservers, ?_, Tls.ofLocations_final htls,
    OffsetPolicy.parse_named hpolicy, rfl, hrole⟩
  show Check.textOrNone (.ofOption c.group) "group_id" = .ok c.group
  rwa [← Check.textOrNone_final hgroup]

/-! ## Configurations as dictionaries -/

/-- What a configuration has for the extracted names: the endpoints, the group and the TLS material
if there is any, and the policy. -/
def extracts (c : Config) (policy : Value) : Dict :=
  let group : Dict := match c.group with
    | none => []
    | some group => [(.text groupId, .text group)]
  let locations : Dict := match c.tls with
    | none => []
    | some tls => [(.text caLocation, .text tls.caLocation),
        (.text certificateLocation, .text tls.certificateLocation),
        (.text keyLocation, .text tls.keyLocation)]
  [(.text bootstrapServers, .list (c.servers.map .text))] ++ group ++ locations ++
    [(.text autoOffsetReset, policy)]

/-- A configuration written as a dictionary, with the further properties at the end. -/
def rendered (c : Config) (policy : Value) : Dict :=
  c.extracts policy ++ c.properties

/-- Whether no further property has a reserved or an extracted name. -/
def PassesOn (c : Config) : Prop :=
  ∀ name ∈ reservedNames ++ extractedNames, ∀ v, (.text name, v) ∉ c.properties

variable {c : Config} {policy role : Value}

theorem keys_extracts (c : Config) (policy : Value) :
    ∃ names : List String, (c.extracts policy).keys = names.map .text ∧
      names.Sublist extractedNames := by
  obtain ⟨servers, group, tls, p, properties⟩ := c
  cases group <;> cases tls
  · exact ⟨[bootstrapServers, autoOffsetReset], rfl, by decide⟩
  · exact ⟨[bootstrapServers, caLocation, certificateLocation, keyLocation, autoOffsetReset], rfl,
      by decide⟩
  · exact ⟨[bootstrapServers, groupId, autoOffsetReset], rfl, by decide⟩
  · exact ⟨extractedNames, rfl, .refl _⟩

theorem isExtracted_extracts {e : Value × Value} (he : e ∈ c.extracts policy) :
    isExtracted e.1 = true := by
  obtain ⟨names, hkeys, hsub⟩ := c.keys_extracts policy
  have hkey : e.1 ∈ (c.extracts policy).keys := List.mem_map_of_mem he
  rw [hkeys] at hkey
  obtain ⟨name, hname, hkey⟩ := List.mem_map.mp hkey
  exact isExtracted_iff.mpr ⟨name, hsub.subset hname, hkey.symm⟩

theorem PassesOn.isExtracted (h : c.PassesOn) {e : Value × Value} (he : e ∈ c.properties) :
    isExtracted e.1 = false := by
  refine Bool.eq_false_iff.mpr fun hkey => ?_
  obtain ⟨name, hname, hkey⟩ := isExtracted_iff.mp hkey
  refine h name (List.mem_append_right _ hname) e.2 ?_
  rwa [← hkey]

theorem rendered_proper (h : c.PassesOn) (hc : c.properties.Proper) :
    (c.rendered policy).Proper := by
  obtain ⟨names, hkeys, hsub⟩ := c.keys_extracts policy
  have hextracts : (c.extracts policy).Proper := .of_texts names hkeys (hsub.nodup (by decide))
  refine hextracts.append hc fun x hx y hy => Bool.eq_false_iff.mpr fun hsame => ?_
  obtain ⟨name, -, hname⟩ := isExtracted_iff.mp (isExtracted_extracts hx)
  rw [hname, Value.same_text] at hsame
  have hy := h.isExtracted hy
  rw [hsame, ← hname, isExtracted_extracts hx] at hy
  cases hy

theorem reservedNames_not_extracted : ∀ name ∈ reservedNames, name ∉ extractedNames := by
  decide

theorem rendered_unreserved (h : c.PassesOn) :
    ∀ name ∈ reservedNames, ∀ v, (.text name, v) ∉ c.rendered policy := by
  intro name hname v hv
  rcases List.mem_append.mp hv with hv | hv
  · obtain ⟨n, hn, heq⟩ := isExtracted_iff.mp (isExtracted_extracts hv)
    cases heq
    exact reservedNames_not_extracted name hname hn
  · exact h name (List.mem_append_left _ hname) v hv

theorem ofDict_rendered_settings (h : c.PassesOn) (policy role : Value) :
    Settings.ofDict (c.rendered policy) role = c.settings policy role := by
  have hrest : extractedNames.foldl (fun d name => Dict.erase d (.text name)) (c.rendered policy) =
      c.properties := by
    rw [erase_extractedNames, rendered, List.filter_append]
    rw [List.filter_eq_nil_iff.mpr, List.filter_eq_self.mpr, List.nil_append]
    · exact fun e he => by rw [h.isExtracted he]; rfl
    · exact fun e he => by simp [isExtracted_extracts he]
  have hnone (name : String) (hname : name ∈ extractedNames) :
      Dict.get? c.properties (.text name) = none :=
    Dict.get?_of_not_mem (h name (List.mem_append_right _ hname))
  have hget (name : String) (hname : name ∈ extractedNames) :
      propertyOf (c.rendered policy) name = propertyOf (c.extracts policy) name := by
    rw [propertyOf, propertyOf, rendered, Dict.get?_append, hnone name hname, Option.or_none]
  simp only [Settings.ofDict, settings, hrest, Settings.mk.injEq, and_true,
    hget bootstrapServers (by decide), hget groupId (by decide), hget caLocation (by decide),
    hget certificateLocation (by decide), hget keyLocation (by decide),
    hget autoOffsetReset (by decide)]
  obtain ⟨servers, group, tls, p, properties⟩ := c
  cases group <;> cases tls <;> exact ⟨rfl, rfl, rfl, rfl, rfl, rfl⟩

/-- A dictionary that sets a reserved name is refused for the first of those it sets. Any other one
has the outcome of building from the values that it gives the extracted names and from its other
properties. A configuration that was built is taken unchanged from what it is written as, for every
role it is valid for. -/
theorem ofDict_agrees_with_build :
    (∀ (d : Dict) role, d.Proper →
      ((∃ v, (.text securityProtocol, v) ∈ d) →
        ofDict (.dict d) role = .error (.refused (.propertyManaged securityProtocol))) ∧
      ((∀ v, (.text securityProtocol, v) ∉ d) → (∃ v, (.text acks, v) ∈ d) →
        ofDict (.dict d) role = .error (.refused (.propertyManaged acks))) ∧
      ((∀ name ∈ reservedNames, ∀ v, (.text name, v) ∉ d) →
        (∃ s : Settings, s.ReadFrom d ∧ s.role = role) ∧
        ∀ s : Settings, s.ReadFrom d → s.role = role → ofDict (.dict d) role = build s)) ∧
    ∀ s c, build s = .ok c → (∀ d, s.properties = .dict d → Dict.Proper d) → c.PassesOn →
      ∀ policy role, policy = .policy c.policy ∨ policy = .text c.policy.word →
        c.validateFor role = .ok () →
        (c.rendered policy).Proper ∧ ofDict (.dict (c.rendered policy)) role = .ok c := by
  constructor
  · intro d role hd
    refine ⟨fun h => ofDict_securityProtocol h role, fun hfirst h => ofDict_acks hfirst h role, ?_⟩
    intro h
    refine ⟨⟨.ofDict d role, (Settings.readFrom_iff hd).mpr rfl, rfl⟩, ?_⟩
    rintro s hs rfl
    rw [ofDict_unreserved h, ← (Settings.readFrom_iff hd).mp hs]
  · intro s c hbuild hproper hpasses policy role hpolicy hrole
    refine ⟨rendered_proper hpasses (build_proper hbuild hproper), ?_⟩
    rw [ofDict_unreserved (rendered_unreserved hpasses), ofDict_rendered_settings hpasses]
    exact build_settings hbuild hpolicy hrole

/-- Settings with blanks around the endpoints and the policy, taken back as a consumer's. -/
theorem consumer_settings_are_taken_back :
    let properties : Dict := [(.text "client.id", .text "reader-1")]
    let c : Config :=
      { servers := ["b1:9092", "b2:9092"], group := some "readers",
        tls := some ⟨"ca.crt", "client.crt", "client.key"⟩, policy := .earliest, properties }
    (c.rendered (.text "earliest")).Proper ∧
      ofDict (.dict (c.rendered (.text "earliest"))) (.role .consumer) = .ok c := by
  intro properties c
  have hproper : properties.Proper := .of_texts ["client.id"] rfl (by decide)
  have hpasses : c.PassesOn := by
    intro name hname v hv
    cases List.mem_singleton.mp hv
    revert hname
    decide
  let s : Settings :=
    { servers := .text " b1:9092 ,b2:9092", group := .text "readers", caLocation := .text "ca.crt",
      certificateLocation := .text "client.crt", keyLocation := .text "client.key",
      policy := .text " Earliest", properties := .dict properties }
  have hbuild : build s = .ok c := rfl
  refine ofDict_agrees_with_build.2 s c hbuild ?_ hpasses _ _ (Or.inr rfl) rfl
  rintro d ⟨rfl⟩
  exact hproper

end Config

end KafkaHandles
