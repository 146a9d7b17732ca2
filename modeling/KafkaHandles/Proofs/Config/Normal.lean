import KafkaHandles.Config
import KafkaHandles.Proofs.Check
import Mathlib.Data.List.DropRight

/-!
# Settings in their final form

Every check of a configuration lets through what it has made itself, and leaves it as it is: there
are no blanks to take off a second time, and all locations are there or none is.
-/

namespace KafkaHandles

/-! ## Blanks -/

namespace Text

theorem dropWhile_rdropWhile {α : Type} {p : α → Bool} {l : List α} (h : l.dropWhile p = l) :
    (l.rdropWhile p).dropWhile p = l.rdropWhile p := by
  have hprefix := List.rdropWhile_prefix p l
  generalize l.rdropWhile p = kept at hprefix ⊢
  obtain ⟨rest, rfl⟩ := hprefix
  cases kept with
  | nil => rfl
  | cons a kept =>
    rw [List.cons_append, List.dropWhile_cons] at h
    split at h
    · have hlength := congrArg List.length h
      have hle := (List.dropWhile_sublist p (l := kept ++ rest)).length_le
      rw [List.length_cons] at hlength
      omega
    · rename_i ha
      rw [List.dropWhile_cons, if_neg ha]

theorem stripChars_stripChars (cs : List Char) : stripChars (stripChars cs) = stripChars cs := by
  have hdropped : (cs.dropWhile isBlank).dropWhile isBlank = cs.dropWhile isBlank :=
    List.dropWhile_idempotent isBlank cs
  show ((stripChars cs).dropWhile isBlank).rdropWhile isBlank = stripChars cs
  have hfront : (stripChars cs).dropWhile isBlank = stripChars cs := dropWhile_rdropWhile hdropped
  rw [hfront]
  exact List.rdropWhile_idempotent isBlank (cs.dropWhile isBlank)

theorem strip_strip (s : String) : strip (strip s) = strip s := by
  rw [strip, strip, String.toList_ofList, stripChars_stripChars]

end Text

namespace Config

/-! ## Parts of a configuration -/

/-- A configuration is built when all its parts pass, each by its own check. -/
theorem build_ok {s : Settings} {c : Config} : build s = .ok c ↔
    checkServers s.servers = .ok c.servers ∧ Check.textOrNone s.group "group_id" = .ok c.group ∧
      Tls.ofLocations s.caLocation s.certificateLocation s.keyLocation = .ok c.tls ∧
      OffsetPolicy.parse s.policy = .ok c.policy ∧
      checkProperties s.properties = .ok c.properties ∧ c.validateFor s.role = .ok () := by
  constructor
  · intro h
    obtain ⟨servers, hservers, h⟩ := Check.bind_ok.mp h
    obtain ⟨group, hgroup, h⟩ := Check.bind_ok.mp h
    obtain ⟨tls, htls, h⟩ := Check.bind_ok.mp h
    obtain ⟨policy, hpolicy, h⟩ := Check.bind_ok.mp h
    obtain ⟨properties, hproperties, h⟩ := Check.bind_ok.mp h
    obtain ⟨_, hrole, h⟩ := Check.bind_ok.mp h
    cases h
    exact ⟨hservers, hgroup, htls, hpolicy, hproperties, hrole⟩
  · rintro ⟨hservers, hgroup, htls, hpolicy, hproperties, hrole⟩
    exact Check.bind_ok.mpr ⟨_, hservers, Check.bind_ok.mpr ⟨_, hgroup,
      Check.bind_ok.mpr ⟨_, htls, Check.bind_ok.mpr ⟨_, hpolicy,
        Check.bind_ok.mpr ⟨_, hproperties, Check.bind_ok.mpr ⟨_, hrole, rfl⟩⟩⟩⟩⟩⟩

/-! ## Endpoints -/

theorem checkServer_stripped {v : Value} {s : String} (h : checkServer v = .ok s) :
    checkServer (.text s) = .ok s := by
  unfold checkServer at h
  split at h
  · dsimp only at h
    split at h
    · cases h
    · rename_i hs
      obtain rfl := Except.ok.inj h
      simp only [checkServer, Text.strip_strip, if_neg hs]
  · cases h

theorem checkServer_all {vs : List Value} {servers : List String}
    (h : vs.mapM checkServer = .ok servers) :
    (servers.map Value.text).mapM checkServer = .ok servers := by
  induction vs generalizing servers with
  | nil =>
    cases h
    rfl
  | cons v vs ih =>
    rw [List.mapM_cons] at h
    obtain ⟨server, hserver, h⟩ := Check.bind_ok.mp h
    obtain ⟨rest, hrest, h⟩ := Check.bind_ok.mp h
    cases h
    rw [List.map_cons, List.mapM_cons]
    exact Check.bind_ok.mpr ⟨server, checkServer_stripped hserver,
      Check.bind_ok.mpr ⟨rest, ih hrest, rfl⟩⟩

theorem checkServers_ok {v : Value} {servers : List String} : checkServers v = .ok servers ↔
    ∃ vs, listedServers v = .ok vs ∧ vs.mapM checkServer = .ok servers ∧ servers ≠ [] := by
  constructor
  · intro h
    obtain ⟨vs, hvs, h⟩ := Check.bind_ok.mp h
    obtain ⟨checked, hchecked, h⟩ := Check.bind_ok.mp h
    split at h
    · cases h
    · rename_i hne
      cases h
      exact ⟨vs, hvs, hchecked, by simpa using hne⟩
  · rintro ⟨vs, hvs, hchecked, hne⟩
    refine Check.bind_ok.mpr ⟨vs, hvs, Check.bind_ok.mpr ⟨servers, hchecked, ?_⟩⟩
    rw [if_neg (by simpa using hne)]

theorem checkServers_listed {v : Value} {servers : List String} (h : checkServers v = .ok servers) :
    checkServers (.list (servers.map .text)) = .ok servers := by
  obtain ⟨vs, -, hchecked, hne⟩ := checkServers_ok.mp h
  exact checkServers_ok.mpr ⟨_, rfl, checkServer_all hchecked, hne⟩

end Config

/-! ## Group, locations and policy -/

theorem Check.textOrNone_final {v : Value} {parameter : String} {s : Option String}
    (h : textOrNone v parameter = .ok s) : v = .ofOption s := by
  unfold textOrNone at h
  split at h
  · cases h
    rfl
  · cases ht : text v parameter with
    | error f =>
      rw [ht] at h
      cases h
    | ok t =>
      rw [ht] at h
      cases h
      exact (text_ok.mp ht).1

theorem Tls.ofLocations_final {ca certificate key : Value} {tls : Option Tls}
    (h : ofLocations ca certificate key = .ok tls) :
    ofLocations (.ofOption (tls.map caLocation)) (.ofOption (tls.map certificateLocation))
      (.ofOption (tls.map keyLocation)) = .ok tls := by
  have hgiven := h
  unfold ofLocations at hgiven
  dsimp only at hgiven
  split at hgiven
  · cases hgiven
    rfl
  · split at hgiven
    · cases hgiven
    · obtain ⟨a, ha, hgiven⟩ := Check.bind_ok.mp hgiven
      obtain ⟨b, hb, hgiven⟩ := Check.bind_ok.mp hgiven
      obtain ⟨c, hc, hgiven⟩ := Check.bind_ok.mp hgiven
      cases hgiven
      obtain ⟨rfl, -⟩ := Check.text_ok.mp ha
      obtain ⟨rfl, -⟩ := Check.text_ok.mp hb
      obtain ⟨rfl, -⟩ := Check.text_ok.mp hc
      exact h

theorem OffsetPolicy.parse_named {p : OffsetPolicy} {v : Value}
    (h : v = .policy p ∨ v = .text p.word) : parse v = .ok p := by
  rcases h with rfl | rfl
  · rfl
  · cases p <;> rfl

end KafkaHandles
