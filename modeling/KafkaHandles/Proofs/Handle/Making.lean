import KafkaHandles.Host
import KafkaHandles.Proofs.Client.Calls

/-!
# Making a handle

Whichever way a handle is made, its client is created by one call, the only one there is, and the
handle owns it. Filling and releasing the property set touches no client.
-/

namespace KafkaHandles

variable {σ : Type} {L : Library σ}

namespace Action

variable {S T α : Type}

/-- An action that is followed by a closing one has ended in a value only if both have. -/
theorem thenAlways_ok {a : Action S α} {closing : Action S Unit} {s u : S} {v : α}
    (h : a.thenAlways closing s = (.ok v, u)) :
    ∃ t, a s = (.ok v, t) ∧ closing t = (.ok (), u) := by
  unfold thenAlways at h
  rcases ha : a s with ⟨r, t⟩
  rw [ha] at h
  dsimp only at h
  rcases hc : closing t with ⟨_ | _, _⟩ <;> rw [hc] at h <;> cases h
  exact ⟨t, rfl, hc⟩

theorem startingAt_eq {s : S} {a : Action (S × T) α} {t u : T} {r : Except Fault α}
    (h : startingAt s a t = (r, u)) : ∃ s', a (s, t) = (r, (s', u)) := by
  unfold startingAt at h
  rcases ha : a (s, t) with ⟨r', s', t'⟩
  rw [ha] at h
  cases h
  exact ⟨s', rfl⟩

theorem mapFault_ok {f : Fault → Fault} {a : Action S α} {s t : S} {v : α}
    (h : a.mapFault f s = (.ok v, t)) : a s = (.ok v, t) := by
  unfold mapFault at h
  rcases ha : a s with ⟨_ | _, _⟩ <;> rw [ha] at h <;> cases h
  rfl

theorem onSecond_eq {a : Action T α} {s : S × T} {u : S × T} {r : Except Fault α}
    (h : a.onSecond s = (r, u)) : a s.2 = (r, u.2) := by
  unfold onSecond at h
  cases h
  rfl

end Action

/-- Creating a client is one request, under a number that no client has had. -/
theorem World.create_eq (role : Role) (properties : Dict) (w : World σ) :
    create L role properties w =
      let id := w.rules.length
      let asked := request L id (.create role properties) { w with rules := w.rules ++ [none] }
      (asked.1.map fun _ => id, asked.2) :=
  Action.bind_pure_apply (request L w.rules.length (.create role properties)) _ _

theorem World.create_calls (role : Role) (properties : Dict) (w : World σ) :
    (create L role properties w).2.calls =
      w.calls ++ [(w.rules.length, .create role properties)] := by
  rw [create_eq]
  exact request_calls _ _

theorem World.create_ok {role : Role} {properties : Dict} {w u : World σ} {id : ClientId}
    (h : create L role properties w = (.ok id, u)) :
    id = w.rules.length ∧ u.calls = w.calls ++ [(id, .create role properties)] ∧
      u.rules = w.rules ++ [none] := by
  simp only [create, Action.bind_apply, Action.get_apply, Action.modify_apply,
    Action.pure_apply] at h
  split at h
  · rename_i v u' hrequest
    cases h
    have hu := congrArg Prod.snd hrequest
    rw [request_state] at hu
    subst hu
    exact ⟨rfl, calls_enter _ w, rfl⟩
  · cases h

namespace Blueprint

theorem launch_ok {b : Blueprint} {c : Config} {s : PropertySet × World σ} {id : ClientId}
    {u : PropertySet × World σ} (h : launch L b c s = (.ok id, u)) :
    ∃ role properties, b.client = some role ∧
      World.create L role properties s.2 = (.ok id, u.2) := by
  obtain ⟨role, configure, client⟩ := b
  cases configure with
  | none => cases h
  | some configure =>
    obtain ⟨_, t, hconfigure, h⟩ := Action.bind_ok_cases h
    have ht : s.2 = t.2 := congrArg (fun r => r.2.2) hconfigure
    cases client with
    | none => cases h
    | some role =>
      obtain ⟨properties, t', htake, h⟩ := Action.bind_ok_cases h
      have ht' : t.2 = t'.2 := congrArg (fun r => r.2.2) htake
      have hcreate := Action.onSecond_eq (Action.mapFault_ok h)
      rw [← ht', ← ht] at hcreate
      exact ⟨role, properties, rfl, hcreate⟩

/-- Making a handle creates one client, with a number of its own, and asks nothing else. -/
theorem make_ok {b : Blueprint} {given : ConfigArgument} {w u : World σ} {id : ClientId}
    {c : Config} (h : make L b given w = (.ok (id, c), u)) :
    id = w.rules.length ∧ u.rules = w.rules ++ [none] ∧ ∃ role properties, b.client = some role ∧
      u.calls = w.calls ++ [(id, .create role properties)] := by
  cases given with
  | other v => cases h
  | config c =>
    obtain ⟨_, t, hcheck, h⟩ := Action.bind_ok_cases h
    cases (congrArg Prod.snd hcheck : w = t)
    obtain ⟨id', v, hlaunch, h⟩ := Action.bind_ok_cases h
    obtain ⟨ps, hps⟩ := Action.startingAt_eq hlaunch
    obtain ⟨t, hok, hrelease⟩ := Action.thenAlways_ok hps
    have hv : v = t.2 := congrArg (fun r => r.2.2) hrelease.symm
    obtain ⟨role, properties, hrole, hcreate⟩ := launch_ok hok
    rw [← hv] at hcreate
    obtain ⟨hid, hcalls, hrules⟩ := World.create_ok hcreate
    have hsame : id' = id ∧ u.calls = v.calls ∧ u.rules = v.rules := by
      split at h
      · cases h
        exact ⟨rfl, rfl, rfl⟩
      · cases h
        exact ⟨rfl, rfl, rfl⟩
    obtain ⟨rfl, hc, hr⟩ := hsame
    exact ⟨hid, hr.trans hrules, role, properties, hrole, hc.trans hcalls⟩

end Blueprint

/-! ## The ways to make a handle -/

/-- A handle that was made in a world, and the world that this left. -/
inductive Handle.Made (L : Library σ) (w : World σ) : Handle → World σ → Prop
  | producer {given : ConfigArgument} {p : Producer} {u : World σ}
      (h : Producer.make L given w = (.ok p, u)) : Made L w (.producer p) u
  | consumer {given : ConfigArgument} {c : Consumer} {u : World σ}
      (h : Consumer.make L given w = (.ok c, u)) : Made L w (.consumer c) u
  | producerByHost {a : Arguments} {p : Producer} {u : World σ}
      (h : Host.makeProducer L a w = (.ok p, u)) : Made L w (.producer p) u
  | consumerByHost {a : Arguments} {c : Consumer} {u : World σ}
      (h : Host.makeConsumer L a w = (.ok c, u)) : Made L w (.consumer c) u

/-- The client of a handle, until it is closed. -/
def Handle.client? : Handle → Option ClientId
  | .producer p => p.client
  | .consumer c => c.client

theorem Producer.make_ok {given : ConfigArgument} {p : Producer} {w u : World σ}
    (h : make L given w = (.ok p, u)) :
    p.client = some w.rules.length ∧ u.rules = w.rules ++ [none] ∧
      ∃ properties, u.calls = w.calls ++ [(w.rules.length, .create .producer properties)] := by
  obtain ⟨⟨id, c⟩, t, hmake, h⟩ := Action.bind_ok_cases h
  cases h
  obtain ⟨rfl, hrules, role, properties, hrole, hcalls⟩ := Blueprint.make_ok hmake
  cases hrole
  exact ⟨rfl, hrules, properties, hcalls⟩

theorem Consumer.make_ok {given : ConfigArgument} {c : Consumer} {w u : World σ}
    (h : make L given w = (.ok c, u)) :
    c.client = some w.rules.length ∧ c.mode = none ∧ u.rules = w.rules ++ [none] ∧
      ∃ properties, u.calls = w.calls ++ [(w.rules.length, .create .consumer properties)] := by
  obtain ⟨⟨id, c'⟩, t, hmake, h⟩ := Action.bind_ok_cases h
  obtain ⟨incremental, t, hincremental, h⟩ := Action.bind_ok_cases h
  obtain ⟨-, rfl⟩ := Action.lift_ok_cases hincremental
  cases h
  obtain ⟨rfl, hrules, role, properties, hrole, hcalls⟩ := Blueprint.make_ok hmake
  cases hrole
  exact ⟨rfl, rfl, hrules, properties, hcalls⟩

theorem Host.makeProducer_ok {a : Arguments} {p : Producer} {w u : World σ}
    (h : makeProducer L a w = (.ok p, u)) : ∃ given, Producer.make L given w = (.ok p, u) := by
  obtain ⟨s, t, hs, h⟩ := Action.bind_ok_cases h
  cases (congrArg Prod.snd hs : w = t)
  obtain ⟨c, t, hc, h⟩ := Action.bind_ok_cases h
  cases (congrArg Prod.snd hc : w = t)
  exact ⟨.config c, h⟩

theorem Host.makeConsumer_ok {a : Arguments} {c : Consumer} {w u : World σ}
    (h : makeConsumer L a w = (.ok c, u)) : ∃ given, Consumer.make L given w = (.ok c, u) := by
  obtain ⟨s, t, hs, h⟩ := Action.bind_ok_cases h
  cases (congrArg Prod.snd hs : w = t)
  obtain ⟨config, t, hc, h⟩ := Action.bind_ok_cases h
  cases (congrArg Prod.snd hc : w = t)
  exact ⟨.config config, h⟩

/-- However a handle was made, it owns the one client that was created for it. -/
theorem Handle.Made.owns {w u : World σ} {h : Handle} (made : Made L w h u) :
    h.client? = some w.rules.length ∧ u.rules = w.rules ++ [none] ∧
      ∃ properties, u.calls = w.calls ++ [(w.rules.length, .create h.role properties)] := by
  cases made with
  | producer h => exact Producer.make_ok h
  | consumer h =>
    obtain ⟨hclient, -, hrest⟩ := Consumer.make_ok h
    exact ⟨hclient, hrest⟩
  | producerByHost h =>
    obtain ⟨given, h⟩ := Host.makeProducer_ok h
    exact Producer.make_ok h
  | consumerByHost h =>
    obtain ⟨given, h⟩ := Host.makeConsumer_ok h
    obtain ⟨hclient, -, hrest⟩ := Consumer.make_ok h
    exact ⟨hclient, hrest⟩

end KafkaHandles
