import KafkaHandles.Proofs.Config.Normal
import KafkaHandles.Proofs.OffsetPolicy
import KafkaHandles.Proofs.Text.Pieces

/-!
# Which settings are accepted

A configuration is built from settings of any kind exactly if each of their six parts is in order,
and says what they say. Other settings are refused, for the first part that is not in order, unless
that is a policy whose text cannot be made.
-/

namespace KafkaHandles

open Text (NonBlank)

/-! ## Parts -/

/-- The parts of settings. -/
inductive ConfigPart
  | servers
  | group
  | locations
  | policy
  | properties
  | role
  deriving DecidableEq

namespace ConfigPart

/-- The place of a part in the order of the checks. -/
def rank : ConfigPart → Nat
  | servers => 0
  | group => 1
  | locations => 2
  | policy => 3
  | properties => 4
  | role => 5

theorem rank_injective {p q : ConfigPart} (h : p.rank = q.rank) : p = q := by
  cases p <;> cases q <;> simp_all [rank]

theorem before_next {P : ConfigPart → Prop} {p : ConfigPart}
    (h : ∀ q, q.rank < p.rank → P q) (hp : P p) : ∀ q, q.rank < p.rank + 1 → P q := by
  intro q hq
  rcases Nat.lt_succ_iff_lt_or_eq.mp hq with hlt | heq
  · exact h q hlt
  · rw [rank_injective heq]
    exact hp

/-- The part of settings that a refusal is about. -/
def of? : Refusal → Option ConfigPart
  | .serversNotListed | .serverNotText | .serverBlank | .serversMissing => some servers
  | .notText parameter | .blank parameter =>
    if parameter = "group_id" then some group
    else if parameter ∈ ["ca_location", "certificate_location", "key_location"] then some locations
    else none
  | .locationsMissing _ => some locations
  | .policyUnknown _ => some policy
  | .propertiesNotDict => some properties
  | .groupMissing => some role
  | _ => none

/-- A check that ends in nothing but values and refusals of a part. -/
def Judges {α : Type} (p : ConfigPart) (e : Except Fault α) : Prop :=
  ∀ f, e = .error f → ∃ cause, f = .refused cause ∧ of? cause = some p

section Judges

variable {α β : Type} {p : ConfigPart}

theorem Judges.ok (v : α) : p.Judges (.ok v : Except Fault α) :=
  fun _ h => nomatch h

theorem Judges.refused {cause : Refusal} (h : of? cause = some p) :
    p.Judges (.error (.refused cause) : Except Fault α) := by
  rintro f ⟨⟩
  exact ⟨cause, rfl, h⟩

theorem Judges.bind {e : Except Fault α} {next : α → Except Fault β} (he : p.Judges e)
    (hn : ∀ v, p.Judges (next v)) : p.Judges (e >>= next) := by
  cases e with
  | error f =>
    intro g hg
    cases hg
    exact he f rfl
  | ok v => exact hn v

theorem Judges.text {v : Value} {parameter : String} (hkind : of? (.notText parameter) = some p) :
    p.Judges (Check.text v parameter) := by
  have hblank : of? (.blank parameter) = some p := hkind
  unfold Check.text
  split
  · split
    · exact .refused hblank
    · exact .ok _
  · exact .refused hkind

end Judges

end ConfigPart

namespace Config

/-! ## Endpoints -/

/-- The texts that a value lists: those between the commas of a text, or the entries of a list or a
tuple of texts. -/
inductive Lists : Value → List String → Prop
  | text (s : String) : Lists (.text s) (Text.atCommas s)
  | list (entries : List String) : Lists (.list (entries.map .text)) entries
  | tuple (entries : List String) : Lists (.tuple (entries.map .text)) entries

theorem map_text_injective {l l' : List String} (h : l.map Value.text = l'.map Value.text) :
    l = l' :=
  List.map_injective_iff.mpr (fun _ _ => Value.text.inj) h

theorem Lists.listed {v : Value} {entries : List String} (h : Lists v entries) :
    listedServers v = .ok (entries.map .text) := by
  cases h with
  | text s =>
    exact congrArg (fun l : List String => Except.ok (l.map Value.text)) (Text.commaPieces_eq s)
  | list => rfl
  | tuple => rfl

theorem Lists.unique {v : Value} {entries entries' : List String} (h : Lists v entries)
    (h' : Lists v entries') : entries = entries' :=
  map_text_injective (Except.ok.inj (h.listed.symm.trans h'.listed))

theorem lists_iff {v : Value} {entries : List String} (hne : entries ≠ []) :
    Lists v entries ↔ listedServers v = .ok (entries.map .text) := by
  constructor
  · exact Lists.listed
  · intro h
    cases v with
    | none => exact absurd (List.map_eq_nil_iff.mp (Except.ok.inj h).symm) hne
    | text s =>
      obtain rfl : Text.commaPieces s = entries := map_text_injective (Except.ok.inj h)
      rw [Text.commaPieces_eq]
      exact .text s
    | list vs =>
      obtain rfl := Except.ok.inj h
      exact .list entries
    | tuple vs =>
      obtain rfl := Except.ok.inj h
      exact .tuple entries
    | _ => cases h

theorem checkServer_ok {v : Value} {server : String} :
    checkServer v = .ok server ↔ ∃ s, v = .text s ∧ NonBlank s ∧ server = Text.strip s := by
  cases v with
  | text s =>
    by_cases hs : NonBlank s
    · have hkept : ¬(Text.strip s).isEmpty = true := mt Text.strip_isEmpty.mp (not_not_intro hs)
      simp [checkServer, hkept, hs, eq_comm]
    · simp [checkServer, Text.strip_isEmpty.mpr hs, hs]
  | _ => simp [checkServer]

theorem mapM_checkServer_ok {vs : List Value} {servers : List String} :
    vs.mapM checkServer = .ok servers ↔
      ∃ entries : List String, vs = entries.map .text ∧ (∀ e ∈ entries, NonBlank e) ∧
        servers = entries.map Text.strip := by
  induction vs generalizing servers with
  | nil =>
    constructor
    · intro h
      cases h
      exact ⟨[], rfl, by simp, rfl⟩
    · rintro ⟨entries, hentries, -, rfl⟩
      rw [List.map_eq_nil_iff.mp hentries.symm]
      rfl
  | cons v vs ih =>
    rw [List.mapM_cons]
    constructor
    · intro h
      obtain ⟨server, hserver, h⟩ := Check.bind_ok.mp h
      obtain ⟨rest, hrest, h⟩ := Check.bind_ok.mp h
      cases h
      obtain ⟨s, rfl, hs, rfl⟩ := checkServer_ok.mp hserver
      obtain ⟨entries, rfl, hentries, rfl⟩ := ih.mp hrest
      exact ⟨s :: entries, rfl, List.forall_mem_cons.mpr ⟨hs, hentries⟩, rfl⟩
    · rintro ⟨entries, hentries, hnonblank, rfl⟩
      obtain ⟨s, entries, rfl, rfl, rfl⟩ := List.map_eq_cons_iff.mp hentries.symm
      obtain ⟨hs, hrest⟩ := List.forall_mem_cons.mp hnonblank
      exact Check.bind_ok.mpr ⟨_, checkServer_ok.mpr ⟨s, rfl, hs, rfl⟩,
        Check.bind_ok.mpr ⟨_, ih.mpr ⟨entries, rfl, hrest, rfl⟩, rfl⟩⟩

theorem checkServers_iff {v : Value} {servers : List String} : checkServers v = .ok servers ↔
    ∃ entries, Lists v entries ∧ entries ≠ [] ∧ (∀ e ∈ entries, NonBlank e) ∧
      servers = entries.map Text.strip := by
  rw [checkServers_ok]
  constructor
  · rintro ⟨vs, hvs, hchecked, hne⟩
    obtain ⟨entries, rfl, hentries, rfl⟩ := mapM_checkServer_ok.mp hchecked
    have hne : entries ≠ [] := mt (congrArg (List.map Text.strip)) hne
    exact ⟨entries, (lists_iff hne).mpr hvs, hne, hentries, rfl⟩
  · rintro ⟨entries, hlists, hne, hentries, rfl⟩
    exact ⟨_, (lists_iff hne).mp hlists, mapM_checkServer_ok.mpr ⟨entries, rfl, hentries, rfl⟩,
      mt List.map_eq_nil_iff.mp hne⟩

theorem checkServer_judges (v : Value) : ConfigPart.servers.Judges (checkServer v) := by
  cases v with
  | text s =>
    simp only [checkServer]
    split
    · exact .refused rfl
    · exact .ok _
  | _ => exact .refused rfl

theorem mapM_checkServer_judges (vs : List Value) :
    ConfigPart.servers.Judges (vs.mapM checkServer) := by
  induction vs with
  | nil => exact .ok []
  | cons v vs ih =>
    rw [List.mapM_cons]
    exact .bind (checkServer_judges v) fun _ => .bind ih fun _ => .ok _

theorem checkServers_judges (v : Value) : ConfigPart.servers.Judges (checkServers v) := by
  have hlisted : ConfigPart.servers.Judges (listedServers v) := by
    cases v with
    | none | text _ | list _ | tuple _ => exact .ok _
    | _ => exact .refused rfl
  refine .bind hlisted fun vs => .bind (mapM_checkServer_judges vs) fun servers => ?_
  split
  · exact .refused rfl
  · exact .ok _

end Config

/-! ## Group -/

theorem Check.text_iff {v : Value} {parameter s : String} :
    text v parameter = .ok s ↔ v = .text s ∧ NonBlank s := by
  rw [text_ok, Text.strip_isEmpty, not_not]

theorem Check.textOrNone_iff {v : Value} {parameter : String} {s : Option String} :
    textOrNone v parameter = .ok s ↔
      v = .none ∧ s = none ∨ ∃ t, v = .text t ∧ NonBlank t ∧ s = some t := by
  by_cases hv : v = .none
  · subst hv
    simp [textOrNone, eq_comm]
  · have htext : textOrNone v parameter = (text v parameter).map some := by
      cases v with
      | none => exact absurd rfl hv
      | _ => rfl
    rw [htext]
    constructor
    · intro h
      cases ht : text v parameter with
      | error f =>
        rw [ht] at h
        cases h
      | ok t =>
        rw [ht] at h
        obtain ⟨rfl, hnonblank⟩ := text_iff.mp ht
        exact Or.inr ⟨t, rfl, hnonblank, (Except.ok.inj h).symm⟩
    · rintro (⟨hnone, -⟩ | ⟨t, rfl, hnonblank, rfl⟩)
      · exact absurd hnone hv
      · rw [text_iff.mpr ⟨rfl, hnonblank⟩]
        rfl

theorem Check.textOrNone_judges {p : ConfigPart} {parameter : String}
    (h : ConfigPart.of? (.notText parameter) = some p) (v : Value) :
    p.Judges (textOrNone v parameter) := by
  have hsome : p.Judges ((text v parameter).map some) :=
    .bind (.text h) fun t => .ok (some t)
  cases v with
  | none => exact .ok _
  | _ => exact hsome

/-! ## TLS material -/

namespace Tls

/-- The paths of TLS material. -/
def paths (t : Tls) : List String := [t.caLocation, t.certificateLocation, t.keyLocation]

theorem isGiven_eq_false {v : Value} : isGiven v = false ↔ v = .none ∨ v = .text "" := by
  cases v <;> simp [isGiven]

theorem isGiven_of_nonBlank {s : String} (h : NonBlank s) : isGiven (.text s) = true := by
  refine Bool.eq_false_or_eq_true _ |>.resolve_right fun hnot => ?_
  rcases isGiven_eq_false.mp hnot with hs | hs
  · cases hs
  · obtain rfl := Value.text.inj hs
    obtain ⟨c, hc, -⟩ := h
    cases hc

variable {ca certificate key : Value}

theorem ofLocations_absent (h : ∀ v ∈ [ca, certificate, key], isGiven v = false) :
    ofLocations ca certificate key = .ok none := by
  simp_all [ofLocations]

theorem ofLocations_given (h : ∀ v ∈ [ca, certificate, key], isGiven v = true) :
    ofLocations ca certificate key = (do
      let ca ← Check.text ca "ca_location"
      let certificate ← Check.text certificate "certificate_location"
      let key ← Check.text key "key_location"
      .ok (some ⟨ca, certificate, key⟩)) := by
  simp_all [ofLocations]

theorem ofLocations_partial (hsome : ∃ v ∈ [ca, certificate, key], isGiven v = true)
    (hnot : ∃ v ∈ [ca, certificate, key], isGiven v = false) :
    ∃ names, ofLocations ca certificate key = .error (.refused (.locationsMissing names)) := by
  cases hca : isGiven ca <;> cases hcertificate : isGiven certificate <;>
    cases hkey : isGiven key <;> simp_all [ofLocations]

theorem ofLocations_iff {tls : Option Tls} : ofLocations ca certificate key = .ok tls ↔
    tls = none ∧ (∀ v ∈ [ca, certificate, key], v = .none ∨ v = .text "") ∨
      ∃ t : Tls, tls = some t ∧ [ca, certificate, key] = t.paths.map .text ∧
        ∀ p ∈ t.paths, NonBlank p := by
  constructor
  · intro h
    by_cases hsome : ∃ v ∈ [ca, certificate, key], isGiven v = true
    · have hall : ∀ v ∈ [ca, certificate, key], isGiven v = true := by
        intro v hv
        refine Bool.of_not_eq_false fun hnot => ?_
        obtain ⟨names, hrefused⟩ := ofLocations_partial hsome ⟨v, hv, hnot⟩
        rw [hrefused] at h
        cases h
      rw [ofLocations_given hall] at h
      obtain ⟨a, hca, h⟩ := Check.bind_ok.mp h
      obtain ⟨b, hcertificate, h⟩ := Check.bind_ok.mp h
      obtain ⟨c, hkey, h⟩ := Check.bind_ok.mp h
      cases h
      obtain ⟨rfl, ha⟩ := Check.text_iff.mp hca
      obtain ⟨rfl, hb⟩ := Check.text_iff.mp hcertificate
      obtain ⟨rfl, hc⟩ := Check.text_iff.mp hkey
      exact Or.inr ⟨_, rfl, rfl, by simp [paths, ha, hb, hc]⟩
    · have hnone : ∀ v ∈ [ca, certificate, key], isGiven v = false :=
        fun v hv => Bool.eq_false_iff.mpr fun hgiven => hsome ⟨v, hv, hgiven⟩
      rw [ofLocations_absent hnone] at h
      cases h
      exact Or.inl ⟨rfl, fun v hv => isGiven_eq_false.mp (hnone v hv)⟩
  · rintro (⟨rfl, h⟩ | ⟨t, rfl, hpaths, hnonblank⟩)
    · exact ofLocations_absent fun v hv => isGiven_eq_false.mpr (h v hv)
    · simp only [paths, List.map_cons, List.map_nil, List.cons.injEq, and_true] at hpaths
      obtain ⟨rfl, rfl, rfl⟩ := hpaths
      have htext {s : String} (hs : s ∈ t.paths) (parameter : String) :
          Check.text (.text s) parameter = .ok s := Check.text_iff.mpr ⟨rfl, hnonblank s hs⟩
      have hgiven : ∀ v ∈ t.paths.map Value.text, isGiven v = true := by
        intro v hv
        obtain ⟨s, hs, rfl⟩ := List.mem_map.mp hv
        exact isGiven_of_nonBlank (hnonblank s hs)
      rw [ofLocations_given hgiven, htext (by simp [paths]), htext (by simp [paths]),
        htext (by simp [paths])]
      rfl

theorem ofLocations_judges : ConfigPart.locations.Judges (ofLocations ca certificate key) := by
  unfold ofLocations
  dsimp only
  split
  · exact .ok _
  · split
    · exact .refused rfl
    · exact .bind (.text rfl) fun _ => .bind (.text rfl) fun _ => .bind (.text rfl) fun _ => .ok _

end Tls

/-! ## Policy, properties and role -/

namespace Config

theorem checkProperties_iff {v : Value} {d : Dict} :
    checkProperties v = .ok d ↔ v = .none ∧ d = [] ∨ v = .dict d := by
  cases v <;> simp [checkProperties, eq_comm]

theorem checkProperties_judges (v : Value) : ConfigPart.properties.Judges (checkProperties v) := by
  cases v with
  | none | dict _ => exact .ok _
  | _ => exact .refused rfl

theorem validateFor_iff {c : Config} {role : Value} :
    c.validateFor role = .ok () ↔ role ≠ .role .consumer ∨ c.group ≠ none := by
  by_cases hrole : role = .role .consumer
  · subst hrole
    cases hgroup : c.group <;> simp [validateFor, hgroup]
  · unfold validateFor
    split
    · exact absurd rfl hrole
    · simp [hrole]

theorem validateFor_judges (c : Config) (role : Value) :
    ConfigPart.role.Judges (c.validateFor role) := by
  unfold validateFor
  split
  · split
    · exact .refused rfl
    · exact .ok _
  · exact .ok _

/-! ## Whole settings -/

namespace Settings

/-- The three locations of TLS material. -/
def locations (s : Settings) : List Value := [s.caLocation, s.certificateLocation, s.keyLocation]

/-- When a part of settings is in order. -/
def InOrder (s : Settings) : ConfigPart → Prop
  | .servers => ∃ entries, Lists s.servers entries ∧ entries ≠ [] ∧ ∀ e ∈ entries, NonBlank e
  | .group => s.group = .none ∨ ∃ t, s.group = .text t ∧ NonBlank t
  | .locations => (∀ v ∈ s.locations, v = .none ∨ v = .text "") ∨
      ∀ v ∈ s.locations, ∃ t, v = .text t ∧ NonBlank t
  | .policy => ∃ p, OffsetPolicy.parse s.policy = .ok p
  | .properties => s.properties = .none ∨ ∃ d, s.properties = .dict d
  | .role => s.role ≠ .role .consumer ∨ s.group ≠ .none

/-- A configuration that says what settings say. -/
structure Describes (s : Settings) (c : Config) : Prop where
  servers : ∃ entries, Lists s.servers entries ∧ c.servers = entries.map Text.strip
  group : s.group = .ofOption c.group
  locations : ∀ t, c.tls = some t → s.locations = t.paths.map .text
  unsecured : c.tls = none ↔ ∀ v ∈ s.locations, v = .none ∨ v = .text ""
  policy : OffsetPolicy.parse s.policy = .ok c.policy
  latest : s.policy = .none → c.policy = .latest
  properties : s.properties = .none ∧ c.properties = [] ∨ s.properties = .dict c.properties

/-- How building fails at a part that is not in order: with a refusal of this part, unless it is a
policy that cannot be shown. -/
structure Fails (s : Settings) (p : ConfigPart) (f : Fault) : Prop where
  refused : p ≠ .policy ∨ s.policy.HasText →
    ∃ cause, f = .refused cause ∧ ConfigPart.of? cause = some p
  untold : p = .policy → ¬s.policy.HasText →
    ∃ flaw, s.policy.shown = .error flaw ∧ f = .untold flaw

variable {s : Settings}

theorem Fails.of_judges {α : Type} {p : ConfigPart} {e : Except Fault α} {f : Fault}
    (hp : p ≠ .policy) (h : p.Judges e) (he : e = .error f) : s.Fails p f :=
  ⟨fun _ => h f he, fun hpolicy => absurd hpolicy hp⟩

theorem Fails.of_parse {f : Fault} (h : OffsetPolicy.parse s.policy = .error f) :
    s.Fails .policy f := by
  rw [OffsetPolicy.parse_error h]
  refine ⟨fun htext => ?_, fun _ htext => OffsetPolicy.unknown_of_not_hasText htext⟩
  obtain ⟨text, -, hunknown⟩ :=
    OffsetPolicy.unknown_of_hasText (htext.resolve_left (not_not_intro rfl))
  exact ⟨_, hunknown, rfl⟩

theorem inOrder_servers : s.InOrder .servers ↔ ∃ servers, checkServers s.servers = .ok servers := by
  constructor
  · rintro ⟨entries, hlists, hne, hentries⟩
    exact ⟨_, checkServers_iff.mpr ⟨entries, hlists, hne, hentries, rfl⟩⟩
  · rintro ⟨servers, h⟩
    obtain ⟨entries, hlists, hne, hentries, -⟩ := checkServers_iff.mp h
    exact ⟨entries, hlists, hne, hentries⟩

theorem inOrder_group :
    s.InOrder .group ↔ ∃ group, Check.textOrNone s.group "group_id" = .ok group := by
  constructor
  · rintro (hnone | ⟨t, ht, hnonblank⟩)
    · exact ⟨none, Check.textOrNone_iff.mpr (Or.inl ⟨hnone, rfl⟩)⟩
    · exact ⟨some t, Check.textOrNone_iff.mpr (Or.inr ⟨t, ht, hnonblank, rfl⟩)⟩
  · rintro ⟨group, h⟩
    rcases Check.textOrNone_iff.mp h with ⟨hnone, -⟩ | ⟨t, ht, hnonblank, -⟩
    · exact Or.inl hnone
    · exact Or.inr ⟨t, ht, hnonblank⟩

theorem inOrder_locations : s.InOrder .locations ↔
    ∃ tls, Tls.ofLocations s.caLocation s.certificateLocation s.keyLocation = .ok tls := by
  constructor
  · rintro (hnone | hgiven)
    · exact ⟨none, Tls.ofLocations_iff.mpr (Or.inl ⟨rfl, hnone⟩)⟩
    · obtain ⟨ca, hca, ha⟩ := hgiven s.caLocation (by simp [locations])
      obtain ⟨certificate, hcertificate, hb⟩ := hgiven s.certificateLocation (by simp [locations])
      obtain ⟨key, hkey, hc⟩ := hgiven s.keyLocation (by simp [locations])
      refine ⟨some ⟨ca, certificate, key⟩, Tls.ofLocations_iff.mpr (Or.inr ⟨_, rfl, ?_, ?_⟩)⟩
      · simp [Tls.paths, hca, hcertificate, hkey]
      · simp [Tls.paths, ha, hb, hc]
  · rintro ⟨tls, h⟩
    rcases Tls.ofLocations_iff.mp h with ⟨-, hnone⟩ | ⟨t, -, hpaths, hnonblank⟩
    · exact Or.inl hnone
    · refine Or.inr fun v hv => ?_
      rw [locations, hpaths] at hv
      obtain ⟨p, hp, rfl⟩ := List.mem_map.mp hv
      exact ⟨p, rfl, hnonblank p hp⟩

theorem inOrder_properties : s.InOrder .properties ↔ ∃ d, checkProperties s.properties = .ok d := by
  constructor
  · rintro (hnone | ⟨d, hd⟩)
    · exact ⟨[], checkProperties_iff.mpr (Or.inl ⟨hnone, rfl⟩)⟩
    · exact ⟨d, checkProperties_iff.mpr (Or.inr hd)⟩
  · rintro ⟨d, h⟩
    rcases checkProperties_iff.mp h with ⟨hnone, -⟩ | hd
    · exact Or.inl hnone
    · exact Or.inr ⟨d, hd⟩

theorem inOrder_role {c : Config} (h : s.group = .ofOption c.group) :
    s.InOrder .role ↔ c.validateFor s.role = .ok () := by
  have hgroup : s.group ≠ .none ↔ c.group ≠ none := by
    rw [h]
    cases c.group <;> simp [Value.ofOption]
  rw [validateFor_iff, InOrder, hgroup]

end Settings

/-! ## Building -/

theorem build_describes {s : Settings} {c : Config} (h : build s = .ok c) : s.Describes c := by
  obtain ⟨hservers, hgroup, htls, hpolicy, hproperties, -⟩ := build_ok.mp h
  obtain ⟨entries, hlists, -, -, heq⟩ := checkServers_iff.mp hservers
  have hlatest : s.policy = .none → c.policy = .latest := by
    intro hnone
    rw [hnone] at hpolicy
    exact (Except.ok.inj hpolicy).symm
  have htls : (∀ t, c.tls = some t → s.locations = t.paths.map .text) ∧
      (c.tls = none ↔ ∀ v ∈ s.locations, v = .none ∨ v = .text "") := by
    rcases Tls.ofLocations_iff.mp htls with ⟨hnone, hlocations⟩ | ⟨t, ht, hpaths, hnonblank⟩
    · rw [hnone]
      exact ⟨nofun, fun _ => hlocations, fun _ => rfl⟩
    · rw [ht]
      refine ⟨fun t' ht' => Option.some.inj ht' ▸ hpaths, nofun, fun hlocations => ?_⟩
      have hca : t.caLocation ∈ t.paths := by simp [Tls.paths]
      have hgiven := Tls.isGiven_of_nonBlank (hnonblank _ hca)
      have hmem : .text t.caLocation ∈ s.locations := by
        rw [Settings.locations, hpaths]
        exact List.mem_map_of_mem hca
      rw [Tls.isGiven_eq_false.mpr (hlocations _ hmem)] at hgiven
      cases hgiven
  exact ⟨⟨entries, hlists, heq⟩, Check.textOrNone_final hgroup, htls.1, htls.2, hpolicy, hlatest,
    checkProperties_iff.mp hproperties⟩

theorem inOrder_of_build {s : Settings} {c : Config} (h : build s = .ok c) (p : ConfigPart) :
    s.InOrder p := by
  obtain ⟨hservers, hgroup, htls, hpolicy, hproperties, hrole⟩ := build_ok.mp h
  cases p with
  | servers => exact Settings.inOrder_servers.mpr ⟨_, hservers⟩
  | group => exact Settings.inOrder_group.mpr ⟨_, hgroup⟩
  | locations => exact Settings.inOrder_locations.mpr ⟨_, htls⟩
  | policy => exact ⟨_, hpolicy⟩
  | properties => exact Settings.inOrder_properties.mpr ⟨_, hproperties⟩
  | role => exact (Settings.inOrder_role (Check.textOrNone_final hgroup)).mpr hrole

theorem build_of_inOrder {s : Settings} (h : ∀ p, s.InOrder p) : ∃ c, build s = .ok c := by
  obtain ⟨servers, hservers⟩ := Settings.inOrder_servers.mp (h .servers)
  obtain ⟨group, hgroup⟩ := Settings.inOrder_group.mp (h .group)
  obtain ⟨tls, htls⟩ := Settings.inOrder_locations.mp (h .locations)
  obtain ⟨policy, hpolicy⟩ := h .policy
  obtain ⟨properties, hproperties⟩ := Settings.inOrder_properties.mp (h .properties)
  let c : Config := { servers, group, tls, policy, properties }
  have hrole : c.validateFor s.role = .ok () :=
    (Settings.inOrder_role (c := c) (Check.textOrNone_final hgroup)).mp (h .role)
  exact ⟨c, build_ok.mpr ⟨hservers, hgroup, htls, hpolicy, hproperties, hrole⟩⟩

/-- Building fails at the first part that is not in order. -/
theorem build_error {s : Settings} {f : Fault} (h : build s = .error f) :
    ∃ p, ¬s.InOrder p ∧ (∀ q, q.rank < p.rank → s.InOrder q) ∧ s.Fails p f := by
  have failed {α : Type} {p : ConfigPart} {e : Except Fault α}
      (hiff : s.InOrder p ↔ ∃ v, e = .ok v) (he : e = .error f) (hfails : s.Fails p f)
      (hbefore : ∀ q, q.rank < p.rank → s.InOrder q) :
      ∃ p, ¬s.InOrder p ∧ (∀ q, q.rank < p.rank → s.InOrder q) ∧ s.Fails p f := by
    refine ⟨p, fun hp => ?_, hbefore, hfails⟩
    obtain ⟨v, hv⟩ := hiff.mp hp
    rw [he] at hv
    cases hv
  have h0 : ∀ q : ConfigPart, q.rank < ConfigPart.servers.rank → s.InOrder q :=
    fun _ hq => absurd hq (Nat.not_lt_zero _)
  rcases Check.bind_error h with hservers | ⟨servers, hservers, h⟩
  · exact failed Settings.inOrder_servers hservers
      (.of_judges nofun (checkServers_judges _) hservers) h0
  have h1 := ConfigPart.before_next h0 (Settings.inOrder_servers.mpr ⟨_, hservers⟩)
  rcases Check.bind_error h with hgroup | ⟨group, hgroup, h⟩
  · exact failed Settings.inOrder_group hgroup
      (.of_judges nofun (Check.textOrNone_judges rfl _) hgroup) h1
  have h2 := ConfigPart.before_next (p := .group) h1 (Settings.inOrder_group.mpr ⟨_, hgroup⟩)
  rcases Check.bind_error h with htls | ⟨tls, htls, h⟩
  · exact failed Settings.inOrder_locations htls
      (.of_judges nofun Tls.ofLocations_judges htls) h2
  have h3 := ConfigPart.before_next (p := .locations) h2 (Settings.inOrder_locations.mpr ⟨_, htls⟩)
  rcases Check.bind_error h with hpolicy | ⟨policy, hpolicy, h⟩
  · exact failed Iff.rfl hpolicy (.of_parse hpolicy) h3
  have h4 := ConfigPart.before_next (p := .policy) h3 ⟨_, hpolicy⟩
  rcases Check.bind_error h with hproperties | ⟨properties, hproperties, h⟩
  · exact failed Settings.inOrder_properties hproperties
      (.of_judges nofun (checkProperties_judges _) hproperties) h4
  have h5 := ConfigPart.before_next (p := .properties) h4
    (Settings.inOrder_properties.mpr ⟨_, hproperties⟩)
  rcases Check.bind_error h with hrole | ⟨_, -, h⟩
  · refine failed (p := .role) ?_ hrole (.of_judges nofun (validateFor_judges _ _) hrole) h5
    rw [Settings.inOrder_role (c := ⟨servers, group, tls, policy, properties⟩)
      (Check.textOrNone_final hgroup)]
    exact ⟨fun h => ⟨(), h⟩, fun ⟨_, h⟩ => h⟩
  · cases h

/-- Settings of any kind are built exactly if all their parts are in order, and the configuration
says what they say. If not, the first part that is not in order is refused, except for a policy that
cannot be shown: what keeps it from being shown is told instead. -/
theorem settings_in_order_are_built (s : Settings) :
    ((∃ c, build s = .ok c) ↔ ∀ p, s.InOrder p) ∧
    (∀ c, build s = .ok c → s.Describes c) ∧
    ∀ p, ¬s.InOrder p → (∀ q, q.rank < p.rank → s.InOrder q) →
      ∃ f, build s = .error f ∧ s.Fails p f := by
  refine ⟨⟨fun ⟨c, h⟩ => inOrder_of_build h, build_of_inOrder⟩, fun c => build_describes, ?_⟩
  intro p hp hbefore
  cases hbuild : build s with
  | ok c => exact absurd (inOrder_of_build hbuild p) hp
  | error f =>
    obtain ⟨q, hq, hfirst, hfails⟩ := build_error hbuild
    -- both are the first part that is not in order
    have hsame : q = p := by
      refine ConfigPart.rank_injective (Nat.le_antisymm ?_ ?_)
      · exact Nat.not_lt.mp fun hlt => hp (hfirst p hlt)
      · exact Nat.not_lt.mp fun hlt => hq (hbefore q hlt)
    exact ⟨f, rfl, hsame ▸ hfails⟩

/-- A blank key location and an unknown policy: the locations come first. -/
example : build { servers := .text "a:1, b:2", caLocation := .text "ca"
                  certificateLocation := .text "crt", keyLocation := .text " "
                  policy := .text "sometimes" } = .error (.refused (.blank "key_location")) := rfl

/-- A policy that is an integer with too many digits, where nothing else is wrong. -/
theorem long_policy_is_not_refused :
    let s : Settings := { servers := .text "b:1", policy := .int Text.digitBound }
    build s = .error (.untold .digitsTooMany) ∧
      (Fault.untold .digitsTooMany).cls ≠ .validation := by
  intro s
  refine ⟨?_, by decide⟩
  have hservers : checkServers s.servers = .ok ["b:1"] := rfl
  have hgroup : Check.textOrNone s.group "group_id" = .ok none := rfl
  have htls : Tls.ofLocations s.caLocation s.certificateLocation s.keyLocation = .ok none := rfl
  have hpolicy : OffsetPolicy.parse s.policy = .error (.untold .digitsTooMany) :=
    OffsetPolicy.parse_digitBound
  simp only [build, hservers, hgroup, htls, hpolicy, bind, Except.bind]

end Config

end KafkaHandles
