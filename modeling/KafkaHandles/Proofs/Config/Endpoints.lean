import KafkaHandles.Proofs.Config.Acceptance
import KafkaHandles.Proofs.Handle.Creation

/-!
# Endpoints on their way to a client

A client is given all endpoints in one text, with commas between them. Cutting that text gives the
endpoints back, and building from it gives the same configuration, as long as no endpoint holds a
comma of its own. Only the entries of a list or a tuple can; they are not cut when they are checked.
-/

namespace KafkaHandles

open PropertyName
open Text (NonBlank CommaFree Trimmed atCommas)

namespace Config

variable {s : Settings} {c : Config}

/-! ## Three notations -/

theorem checkServers_tuple (vs : List Value) :
    checkServers (.tuple vs) = checkServers (.list vs) := rfl

theorem checkServers_text (t : String) :
    checkServers (.text t) = checkServers (.list ((atCommas t).map .text)) := by
  rw [← Text.commaPieces_eq]
  rfl

/-- Where no entry holds a comma, its notation makes no difference. -/
theorem checkServers_joined {entries : List String} (hne : entries ≠ [])
    (hfree : ∀ e ∈ entries, CommaFree e) :
    checkServers (.text (Text.join "," entries)) = checkServers (.list (entries.map .text)) := by
  rw [checkServers_text, (Text.atCommas_join_eq hne).mpr hfree]

theorem build_congr {v v' : Value} (h : checkServers v = checkServers v') :
    build { s with servers := v } = build { s with servers := v' } := by
  simp only [build, h]

/-- With other endpoints, all that changes is the endpoints. -/
theorem build_replaced (h : build s = .ok c) {v : Value} {c' : Config} :
    build { s with servers := v } = .ok c' ↔
      checkServers v = .ok c'.servers ∧ c' = { c with servers := c'.servers } := by
  obtain ⟨-, hgroup, htls, hpolicy, hproperties, hrole⟩ := build_ok.mp h
  constructor
  · intro h'
    obtain ⟨hservers', hgroup', htls', hpolicy', hproperties', -⟩ := build_ok.mp h'
    obtain ⟨servers, group, tls, policy, properties⟩ := c'
    rw [hgroup] at hgroup'
    rw [htls] at htls'
    rw [hpolicy] at hpolicy'
    rw [hproperties] at hproperties'
    cases hgroup'
    cases htls'
    cases hpolicy'
    cases hproperties'
    exact ⟨hservers', rfl⟩
  · rintro ⟨hservers, hc'⟩
    rw [hc'] at hservers ⊢
    exact build_ok.mpr ⟨hservers, hgroup, htls, hpolicy, hproperties, hrole⟩

/-! ## Endpoints of a configuration -/

theorem servers_ne_nil (h : build s = .ok c) : c.servers ≠ [] := by
  obtain ⟨hservers, -⟩ := build_ok.mp h
  obtain ⟨-, -, -, hne⟩ := checkServers_ok.mp hservers
  exact hne

theorem servers_listed (h : build s = .ok c) : ∃ entries, Lists s.servers entries ∧
    (∀ e ∈ entries, NonBlank e) ∧ c.servers = entries.map Text.strip := by
  obtain ⟨hservers, -⟩ := build_ok.mp h
  obtain ⟨entries, hlists, -, hentries, heq⟩ := checkServers_iff.mp hservers
  exact ⟨entries, hlists, hentries, heq⟩

theorem server_trimmed (h : build s = .ok c) {server : String} (hserver : server ∈ c.servers) :
    NonBlank server ∧ Trimmed server := by
  obtain ⟨entries, -, hentries, heq⟩ := servers_listed h
  rw [heq] at hserver
  obtain ⟨e, he, rfl⟩ := List.mem_map.mp hserver
  exact ⟨Text.nonBlank_strip.mpr (hentries e he), Text.strip_trimmed e⟩

theorem strip_servers (h : build s = .ok c) : c.servers.map Text.strip = c.servers := by
  obtain ⟨entries, -, -, heq⟩ := servers_listed h
  rw [heq, List.map_map]
  exact List.map_congr_left fun e _ => Text.strip_strip e

/-- Stripping takes no comma off. -/
theorem commaFree_servers (h : build s = .ok c) {entries : List String}
    (hlists : Lists s.servers entries) :
    (∀ server ∈ c.servers, CommaFree server) ↔ ∀ e ∈ entries, CommaFree e := by
  obtain ⟨listed, hlisted, -, heq⟩ := servers_listed h
  rw [heq, hlisted.unique hlists, List.forall_mem_map]
  exact forall₂_congr fun e _ => Text.commaFree_strip

theorem commaFree_of_text (h : build s = .ok c) {t : String} (ht : s.servers = .text t) :
    ∀ server ∈ c.servers, CommaFree server := by
  have hlists : Lists s.servers (atCommas t) := ht ▸ .text t
  exact (commaFree_servers h hlists).mpr fun e => Text.commaFree_of_mem_atCommas

/-- Building from the joined endpoints cuts each of them. -/
theorem build_joined (h : build s = .ok c) {c' : Config} :
    build { s with servers := .text c.joinedServers } = .ok c' ↔
      (∀ server ∈ c.servers, ∀ piece ∈ atCommas server, NonBlank piece) ∧
        c' = { c with servers := (c.servers.flatMap atCommas).map Text.strip } := by
  have hpieces : atCommas c.joinedServers = c.servers.flatMap atCommas :=
    Text.atCommas_join (servers_ne_nil h)
  have hlists : Lists (.text c.joinedServers) (c.servers.flatMap atCommas) :=
    hpieces ▸ .text c.joinedServers
  have hne : c.servers.flatMap atCommas ≠ [] := hpieces ▸ Text.atCommas_ne_nil _
  have hnonblank : (∀ piece ∈ c.servers.flatMap atCommas, NonBlank piece) ↔
      ∀ server ∈ c.servers, ∀ piece ∈ atCommas server, NonBlank piece := List.forall_mem_flatMap
  rw [build_replaced h, checkServers_iff]
  constructor
  · rintro ⟨⟨entries, hentries, -, hall, heq⟩, hc'⟩
    obtain rfl := hentries.unique hlists
    exact ⟨hnonblank.mp hall, by rw [hc', heq]⟩
  · rintro ⟨hall, rfl⟩
    exact ⟨⟨_, hlists, hne, hnonblank.mpr hall, rfl⟩, rfl⟩

/-- Free of commas, they are the same endpoints again. -/
theorem build_joined_commaFree (h : build s = .ok c)
    (hfree : ∀ server ∈ c.servers, CommaFree server) :
    build { s with servers := .text c.joinedServers } = .ok c := by
  have hcut : c.servers.flatMap atCommas = c.servers := by
    rw [← Text.atCommas_join (servers_ne_nil h)]
    exact (Text.atCommas_join_eq (servers_ne_nil h)).mpr hfree
  refine (build_joined h).mpr ⟨fun server hserver piece hpiece => ?_, by
    rw [hcut, strip_servers h]⟩
  rw [(hfree server hserver).atCommas_eq, List.mem_singleton] at hpiece
  exact hpiece ▸ (server_trimmed h hserver).1

end Config

/-! ## What a client is given -/

namespace Handle

variable {σ : Type} (L : Library σ) (role : Role) (c : Config) (w : World σ)

/-- Making a handle creates one client, with all endpoints in one text. -/
def HandsServers : Prop :=
  ∃ properties : Dict, (make L role (.config c) w).2.calls =
      w.calls ++ [(w.rules.length, .create role properties)] ∧
    properties.get? (.text bootstrapServers) = some (.text c.joinedServers)

variable {L role c w}

theorem HandsServers.of_make
    (h : make L role (.config c) w = match World.create L role (c.allProperties role) w with
      | (.ok id, u) => (ofClient role id c,
          (World.say .handle LogLevel.info (Blueprint.createdText role c) u).2)
      | (.error f, u) => (.error (Blueprint.creationFault f), u)) : HandsServers L role c w := by
  refine ⟨c.allProperties role, ?_, by cases role <;> rfl⟩
  have hcalls := World.create_calls (L := L) role (c.allProperties role) w
  rw [h]
  split <;> rename_i hcreate <;> rw [hcreate] at hcalls <;> exact hcalls

variable (L role c w)

theorem make_hands_servers :
    (∃ f, make L role (.config c) w = (.error f, w)) ∨ HandsServers L role c w := by
  rcases make_cases L role (.config c) w with hfault | ⟨c', hc', hmake⟩
  · exact Or.inl hfault
  · cases hc'
    exact Or.inr (.of_make hmake)

end Handle

namespace Config

/-- Settings, and the endpoints that a client is given for them. -/
structure Carried (s : Settings) (c : Config) : Prop where
  trimmed : ∀ server ∈ c.servers, NonBlank server ∧ Trimmed server
  handed : ∀ {σ : Type} (L : Library σ) role w,
    (∃ f, Handle.make L role (.config c) w = (.error f, w)) ∨ Handle.HandsServers L role c w
  reached : c.properties.Proper → ∀ role, (role = .consumer → c.group.isSome) →
    (∀ e ∈ c.properties, (c.managed role).hasKey e.1 = false) →
      ∀ {σ : Type} (L : Library σ) w, Handle.HandsServers L role c w
  cut : atCommas c.joinedServers = c.servers.flatMap atCommas
  whole : atCommas c.joinedServers = c.servers ↔ ∀ server ∈ c.servers, CommaFree server
  text : ∀ t, s.servers = .text t → ∀ server ∈ c.servers, CommaFree server
  listed : ∀ entries, Lists s.servers entries →
    ((∀ server ∈ c.servers, CommaFree server) ↔ ∀ e ∈ entries, CommaFree e)
  again : ∀ c', build { s with servers := .text c.joinedServers } = .ok c' ↔
    (∀ server ∈ c.servers, ∀ piece ∈ atCommas server, NonBlank piece) ∧
      c' = { c with servers := (c.servers.flatMap atCommas).map Text.strip }
  same : (∀ server ∈ c.servers, CommaFree server) →
    build { s with servers := .text c.joinedServers } = .ok c

theorem carried_of_build (h : build s = .ok c) : Carried s c where
  trimmed _ := server_trimmed h
  handed L role w := Handle.make_hands_servers L role c w
  reached hproper _ hgroup hnew _ L w :=
    .of_make (Handle.make_of_set L (validateFor_role hgroup) w (setAll_allProperties hproper hnew))
  cut := Text.atCommas_join (servers_ne_nil h)
  whole := Text.atCommas_join_eq (servers_ne_nil h)
  text _ := commaFree_of_text h
  listed _ := commaFree_servers h
  again _ := build_joined h
  same := build_joined_commaFree h

/-- The endpoints of whatever is built reach the client in one text, each of them as it is between
two commas, and the same is built from that text again, exactly as long as no entry of a list or a
tuple holds a comma. Then all three notations are built, and refused, alike. -/
theorem endpoints_reach_clients (s : Settings) :
    (∀ c, build s = .ok c → Carried s c) ∧
    ∀ entries : List String, entries ≠ [] → (∀ e ∈ entries, CommaFree e) →
      build { s with servers := .text (Text.join "," entries) } =
          build { s with servers := .list (entries.map .text) } ∧
        build { s with servers := .tuple (entries.map .text) } =
          build { s with servers := .list (entries.map .text) } :=
  ⟨fun _ => carried_of_build, fun _ hne hfree =>
    ⟨build_congr (checkServers_joined hne hfree), build_congr (checkServers_tuple _)⟩⟩

theorem endpoints_of_text_survive :
    let s : Settings := { servers := .text " a:1 , b:2" }
    let c : Config := ⟨["a:1", "b:2"], none, none, .latest, []⟩
    build s = .ok c ∧ atCommas c.joinedServers = c.servers ∧
      build { s with servers := .text c.joinedServers } = .ok c := by
  intro s c
  have h : build s = .ok c := rfl
  have hcarried := (endpoints_reach_clients s).1 c h
  have hfree := hcarried.text _ rfl
  exact ⟨h, hcarried.whole.mpr hfree, hcarried.same hfree⟩

/-- An entry that holds an empty endpoint between commas is built, and reaches the client as it is.
In a text it is refused. -/
theorem entry_with_commas_is_not_cut :
    let s : Settings := { servers := .list [.text "a:1,,b:2"] }
    ∃ c, build s = .ok c ∧ c.servers = ["a:1,,b:2"] ∧ c.joinedServers = "a:1,,b:2" ∧
      atCommas c.joinedServers = ["a:1", "", "b:2"] ∧
      build { s with servers := .text c.joinedServers } = .error (.refused .serverBlank) :=
  ⟨⟨["a:1,,b:2"], none, none, .latest, []⟩, rfl, rfl, rfl, by decide, rfl⟩

end Config

end KafkaHandles
