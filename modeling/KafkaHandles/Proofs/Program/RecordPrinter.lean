import KafkaHandles.Program.RecordPrinter
import KafkaHandles.Proofs.Consumer.Refusals
import KafkaHandles.Scripted.Client

/-!
# Runs of a record printer

A run makes a consumer, subscribes it, and polls until a poll fails; then it closes the consumer.
The subscription is not covered by that: if it fails, the run ends with a client that is open.
-/

namespace KafkaHandles.RecordPrinter

variable {σ : Type} {L : Library σ} {o : RecordPrinter} {fuel n : Nat} {id : ClientId}
  {c : Consumer} {w u v : World σ} {f : Fault}

/-! ## Polls -/

/-- The call by which the program polls. -/
def pollCall : Call := .pollMessage (.atMost (.ofRatio 1 1))

/-- Polls that were answered one after another. -/
inductive Answers (L : Library σ) (c : Consumer) : Nat → World σ → World σ → Prop
  | start (w : World σ) : Answers L c 0 w w
  | more {n : Nat} {p : Option Polled} {w u v : World σ}
      (first : Consumer.poll L Consumer.defaultTimeout (c, w) = (.ok p, (c, u)))
      (rest : Answers L c n u v) : Answers L c (n + 1) w v

/-- How printing goes: for as many polls as it may make, or up to one that fails. -/
inductive Prints (L : Library σ) (c : Consumer) (fuel : Nat) (w : World σ) :
    Except Fault Unit → World σ → Prop
  | unfinished {u : World σ} (h : Answers L c fuel w u) : Prints L c fuel w (.ok ()) u
  | failed {n : Nat} {u v : World σ} {f : Fault} (hn : n < fuel) (h : Answers L c n w u)
      (hf : Consumer.poll L Consumer.defaultTimeout (c, u) = (.error f, (c, v))) :
      Prints L c fuel w (.error f) v

theorem poll_state (hc : c.client = some id) (w : World σ) :
    (Consumer.poll L Consumer.defaultTimeout (c, w)).2 = (c, (World.invoke L id pollCall w).2) := by
  have htimeout : Check.timeout Consumer.defaultTimeout "timeout" = .ok (some (.ofRatio 1 1)) := rfl
  rw [Consumer.poll_apply]
  simp only [hc, openClient, htimeout, Consumer.waitFor]
  rcases hinvoke : World.invoke L id pollCall w with ⟨f | m, u⟩
  · unfold pollCall at hinvoke
    rw [hinvoke]
  · unfold pollCall at hinvoke
    rw [hinvoke]

/-- A poll of a client that holds no start rule is one call. -/
theorem poll_calls (hc : c.client = some id) (hrule : w.rule? id = none)
    {r : Except Fault (Option Polled)}
    (h : Consumer.poll L Consumer.defaultTimeout (c, w) = (r, (c, u))) :
    u.calls = w.calls ++ [(id, pollCall)] ∧ u.rule? id = none := by
  have hstate := poll_state (L := L) hc w
  rw [h] at hstate
  cases hstate
  have hrules : (World.invoke L id pollCall w).2.rules = w.rules := World.invoke_rules _ _
  exact ⟨World.invoke_calls_of_rule_none pollCall hrule, (World.rule?_of_rules hrules).trans hrule⟩

theorem Answers.calls (h : Answers L c n w u) (hc : c.client = some id)
    (hrule : w.rule? id = none) :
    u.calls = w.calls ++ List.replicate n (id, pollCall) ∧ u.rule? id = none := by
  induction h with
  | start w => exact ⟨by simp, hrule⟩
  | more first _ ih =>
    obtain ⟨hcalls, hrule⟩ := poll_calls hc hrule first
    obtain ⟨hrest, hrule⟩ := ih hrule
    refine ⟨?_, hrule⟩
    rw [hrest, hcalls, List.replicate_succ, List.append_assoc]
    rfl

theorem tell_apply (p : Option Polled) (t : Terminal) (c : Consumer) (w : World σ) :
    ∃ t', tell p (t, c, w) = (.ok (), (t', c, w)) := by
  rcases p with _ | m | e
  · exact ⟨t, rfl⟩
  · exact ⟨_, rfl⟩
  · exact ⟨_, rfl⟩

/-- What is printed decides nothing: printing goes as the polls go. -/
theorem printAll_prints (hc : c.client = some id) (fuel : Nat) (t : Terminal) (w : World σ) :
    ∃ r t' v, printAll L fuel (t, c, w) = (r, (t', c, v)) ∧ Prints L c fuel w r v := by
  induction fuel generalizing t w with
  | zero => exact ⟨_, t, w, rfl, .unfinished (.start w)⟩
  | succ fuel ih =>
    have hstate := poll_state (L := L) hc w
    rcases hpoll : Consumer.poll L Consumer.defaultTimeout (c, w) with ⟨f | p, s⟩ <;>
      rw [hpoll] at hstate <;> cases hstate
    · exact ⟨_, _, _, Action.bind_error (Terminal.logged_apply hpoll _ t),
        .failed (Nat.succ_pos fuel) (.start w) hpoll⟩
    · obtain ⟨t₁, htell⟩ := tell_apply p _ c _
      obtain ⟨r, t₂, v, hrest, hprints⟩ := ih t₁ (World.invoke L id pollCall w).2
      refine ⟨r, t₂, v, ?_, ?_⟩
      · have hlogged := Terminal.logged_apply hpoll (·.2.log) t
        rw [printAll, Action.bind_ok hlogged, Action.bind_ok htell]
        exact hrest
      · cases hprints with
        | unfinished h => exact .unfinished (.more hpoll h)
        | failed hn h hf => exact .failed (Nat.succ_lt_succ hn) (.more hpoll h) hf

/-! ## Reading to the end -/

/-- What the program makes of the fault at which its polls end. -/
def verdict (f : Fault) : Except Fault Bool :=
  if f.cls = .general .interrupt then .ok true else .error f

/-- How a subscribed consumer is read: its polls go on, or they have come to an end and its client
has been closed. -/
inductive Reads (L : Library σ) (id : ClientId) (c : Consumer) (fuel : Nat) (w : World σ) :
    Except Fault Bool → List (ClientId × Call) → Prop
  | unfinished {u : World σ} (h : Answers L c fuel w u) :
      Reads L id c fuel w (.ok false) (List.replicate fuel (id, pollCall))
  | closed {n : Nat} {u v : World σ} {f : Fault} (hn : n < fuel) (h : Answers L c n w u)
      (hf : Consumer.poll L Consumer.defaultTimeout (c, u) = (.error f, (c, v))) :
      Reads L id c fuel w (Reading.afterClosing (World.invoke L id .close v).1 (verdict f))
        (List.replicate (n + 1) (id, pollCall) ++ [(id, .close)])

theorem printUntilInterrupt_unfinished {t : Terminal} {s : Terminal × Consumer × World σ}
    (h : printAll L fuel (t, c, w) = (.ok (), s)) :
    printUntilInterrupt L fuel (t, c, w) = (.ok false, s) := by
  simp only [printUntilInterrupt, Action.bind_apply, Action.attempt, h, Action.pure_apply]

theorem printUntilInterrupt_failed {t t' : Terminal} {s : Consumer × World σ}
    (h : printAll L fuel (t, c, w) = (.error f, (t', s))) :
    ∃ t'', printUntilInterrupt L fuel (t, c, w) = (verdict f, (t'', s)) := by
  simp only [printUntilInterrupt, verdict, Action.bind_apply, Action.attempt, h]
  split
  · exact ⟨_, rfl⟩
  · exact ⟨t', rfl⟩

theorem verdict_ne (f : Fault) : verdict f ≠ .ok false := by
  unfold verdict
  split
  · exact nofun
  · exact nofun

/-- Reads a consumer to the end and closes it. -/
theorem reads (hc : c.client = some id) (hrule : w.rule? id = none) (fuel : Nat) (t : Terminal) :
    ∃ r s made,
      Action.thenAtEnd (printUntilInterrupt L fuel) (Terminal.logged (·.2.log) (Consumer.close L))
        (t, c, w) = (r, s) ∧
      s.2.2.calls = w.calls ++ made ∧ Reads L id c fuel w r made := by
  obtain ⟨_, t', v, hprint, hprints⟩ := printAll_prints (L := L) hc fuel t w
  cases hprints with
  | unfinished h =>
    have huntil := printUntilInterrupt_unfinished hprint
    exact ⟨_, _, _, Action.thenAtEnd_unfinished huntil, (h.calls hc hrule).1, .unfinished h⟩
  | @failed n u _ f hn h hf =>
    obtain ⟨t'', huntil⟩ := printUntilInterrupt_failed hprint
    obtain ⟨hanswered, hrule⟩ := h.calls hc hrule
    obtain ⟨hpolled, hrule⟩ := poll_calls hc hrule hf
    obtain ⟨log, hclose⟩ := Consumer.close_open L hc v
    have hlogged := Terminal.logged_apply hclose (·.2.log) t''
    refine ⟨_, _, List.replicate (n + 1) (id, pollCall) ++ [(id, .close)],
      Action.thenAtEnd_finished huntil (verdict_ne f) hlogged, ?_, ?_⟩
    · calc (World.invoke L id .close v).2.calls
        _ = v.calls ++ [(id, .close)] := World.invoke_calls_of_rule_none .close hrule
        _ = w.calls ++ List.replicate n (id, pollCall) ++ [(id, pollCall)] ++ [(id, .close)] := by
          rw [hpolled, hanswered]
        _ = w.calls ++ (List.replicate (n + 1) (id, pollCall) ++ [(id, .close)]) := by
          rw [List.replicate_succ', List.append_assoc, List.append_assoc, List.append_assoc]
    · rw [Reading.closing_afterClosing]
      exact .closed hn h hf

theorem Reads.closes {r : Except Fault Bool} {made : List (ClientId × Call)}
    (h : Reads L id c fuel w r made) :
    (r = .ok false → ∀ e ∈ made, ¬e.2.isClosing) ∧
      (r ≠ .ok false → ∃ used, made = used ++ [(id, .close)] ∧ ∀ e ∈ used, ¬e.2.isClosing) := by
  have hpolls (n : Nat) : ∀ e ∈ List.replicate n (id, pollCall), ¬e.2.isClosing := by
    intro e he
    rw [List.eq_of_mem_replicate he]
    exact nofun
  cases h with
  | unfinished h => exact ⟨fun _ => hpolls fuel, fun hr => absurd rfl hr⟩
  | @closed n u v f hn h hf =>
    refine ⟨fun hr => ?_, fun _ => ⟨_, rfl, hpolls (n + 1)⟩⟩
    unfold Reading.afterClosing at hr
    split at hr
    · exact absurd hr (verdict_ne f)
    · split at hr
      · exact absurd hr (verdict_ne f)
      · cases hr

/-! ## The subscription -/

/-- The checks of the subscription. -/
def request (o : RecordPrinter) (c : Consumer) : Except Fault ModeRequest :=
  if o.partition.isNone then c.topicRequest o.topic .none
  else c.placeRequest o.topic o.partition o.offset

theorem subscribe_apply (o : RecordPrinter) (hc : c.client = some id) (w : World σ) :
    subscribe L o (c, w) = match o.request c with
      | .error f => (.error f, (c, w))
      | .ok q => q.perform L id (c, w) := by
  have hdemand : subscribe L o (c, w) = Consumer.demand L (o.request c) (c, w) := by
    unfold subscribe request
    split
    · exact Consumer.subscribeByTopic_apply L _ _ c w
    · exact Consumer.subscribeAtOffset_apply L _ _ _ c w
  rw [hdemand]
  cases hq : o.request c <;> simp only [Consumer.demand, hc, openClient]

/-- The subscription is under the consumer's own policy, so it brings no start rule. -/
theorem ask_rule? {q : ModeRequest} (hq : o.request c = .ok q) (hrule : w.rule? id = none) :
    (q.ask L c id w).2.rule? id = none := by
  have hgranted : (q.rules c id w.rules)[id]?.join = none := by
    unfold request at hq
    split at hq
    · obtain ⟨t, p, -, hp, -, rfl⟩ := Consumer.topicRequest_ok.mp hq
      cases hp
      simp only [ModeRequest.rules, Consumer.ruleFor, if_true, List.getElem?_set_self']
      cases w.rules[id]? <;> rfl
    · obtain ⟨t, p, i, place, -, -, -, -, -, rfl⟩ := Consumer.placeRequest_ok.mp hq
      exact hrule
  have hrules := q.ask_rules (L := L) c id w
  unfold World.rule?
  split at hrules
  · rw [hrules]
    exact hgranted
  · rw [hrules]
    exact hrule

/-! ## Runs -/

/-- The configuration has no further properties. -/
theorem isIncremental_of_config {g : Config} (h : o.config = .ok g) :
    Config.isIncremental g.properties = .ok false := by
  have hproperties : Config.checkProperties .none = .ok g.properties := Config.build_properties h
  rw [← Except.ok.inj hproperties]
  rfl

/-- The run makes a consumer with a configuration. -/
structure Makes (L : Library σ) (o : RecordPrinter) (w : World σ) (g : Config) (u : World σ) :
    Prop where
  config : o.config = .ok g
  made : Consumer.make L (.config g) w = (.ok (Consumer.fresh w.rules.length g false), u)

/-- The run makes a consumer, and its client grants the subscription. -/
def Subscribes (L : Library σ) (o : RecordPrinter) (w : World σ) : Prop :=
  ∃ g u q v, Makes L o w g u ∧ o.request (Consumer.fresh w.rules.length g false) = .ok q ∧
    q.ask L (Consumer.fresh w.rules.length g false) w.rules.length u = (.ok (), v)

/-- How a run goes that begins in a world, and the calls that it makes. -/
inductive Goes (L : Library σ) (o : RecordPrinter) (fuel : Nat) (w : World σ) :
    Except Fault Bool → List (ClientId × Call) → Prop
  | unconfigured {f : Fault} (h : o.config = .error f) : Goes L o fuel w (.error f) []
  | unmade {g : Config} {f : Fault} {u : World σ} {made : List (ClientId × Call)}
      (hg : o.config = .ok g) (h : Consumer.make L (.config g) w = (.error f, u))
      (hmade : made = [] ∨
        made = [(w.rules.length, .create .consumer (g.allProperties .consumer))]) :
      Goes L o fuel w (.error f) made
  | refused {g : Config} {u : World σ} {f : Fault} (h : Makes L o w g u)
      (hq : o.request (Consumer.fresh w.rules.length g false) = .error f) :
      Goes L o fuel w (.error f)
        [(w.rules.length, .create .consumer (g.allProperties .consumer))]
  | rejected {g : Config} {u v : World σ} {q : ModeRequest} {f : Fault} (h : Makes L o w g u)
      (hq : o.request (Consumer.fresh w.rules.length g false) = .ok q)
      (hask : q.ask L (Consumer.fresh w.rules.length g false) w.rules.length u = (.error f, v)) :
      Goes L o fuel w (.error (Consumer.brokerFault f))
        [(w.rules.length, .create .consumer (g.allProperties .consumer)),
          (w.rules.length, q.call (Consumer.fresh w.rules.length g false))]
  | subscribed {g : Config} {u v : World σ} {q : ModeRequest} {r : Except Fault Bool}
      {made : List (ClientId × Call)} (h : Makes L o w g u)
      (hq : o.request (Consumer.fresh w.rules.length g false) = .ok q)
      (hask : q.ask L (Consumer.fresh w.rules.length g false) w.rules.length u = (.ok (), v))
      (hreads : Reads L w.rules.length
        { Consumer.fresh w.rules.length g false with mode := some q.mode } fuel
        (World.say .consumer LogLevel.info q.text v).2 r made) :
      Goes L o fuel w r ((w.rules.length, .create .consumer (g.allProperties .consumer)) ::
        (w.rules.length, q.call (Consumer.fresh w.rules.length g false)) :: made)

theorem make_goes {g : Config} (fuel : Nat) (hg : o.config = .ok g)
    (h : Consumer.make L (.config g) w = (.error f, u)) :
    ∃ made, u.calls = w.calls ++ made ∧ Goes L o fuel w (.error f) made := by
  have hmake : Handle.make L .consumer (.config g) w = (.error f, u) := Action.bind_error h
  obtain ⟨made, hcalls, hmade⟩ := Handle.make_calls L .consumer g w
  rw [hmake] at hcalls
  exact ⟨made, hcalls, .unmade hg h hmade⟩

/-- A consumer that has been made is subscribed, and is read only if its client grants that. -/
theorem subscribe_goes {g : Config} (h : Makes L o w g u) (fuel : Nat) (t : Terminal) :
    ∃ r s made,
      (Terminal.logged (S := Consumer × World σ) (·.2.log) (subscribe L o) >>= fun _ =>
        Action.thenAtEnd (printUntilInterrupt L fuel)
          (Terminal.logged (·.2.log) (Consumer.close L)))
        (t, Consumer.fresh w.rules.length g false, u) = (r, s) ∧
      s.2.2.calls = w.calls ++ made ∧ Goes L o fuel w r made := by
  obtain ⟨-, -, hrules, hcreated⟩ := Consumer.make_config h.made
  have hrule : u.rule? w.rules.length = none := by simp [World.rule?, hrules]
  have hsubscribe := subscribe_apply (L := L) o (c := Consumer.fresh w.rules.length g false) rfl u
  cases hq : o.request (Consumer.fresh w.rules.length g false) with
  | error f =>
    rw [hq] at hsubscribe
    exact ⟨_, _, _, Action.bind_error (Terminal.logged_apply hsubscribe _ t), hcreated,
      .refused h hq⟩
  | ok q =>
    have hasked := q.ask_calls (L := L) (Consumer.fresh w.rules.length g false) w.rules.length u
    have hunruled := ask_rule? (L := L) hq hrule
    simp only [hq, ModeRequest.perform] at hsubscribe
    rcases hask : q.ask L (Consumer.fresh w.rules.length g false) w.rules.length u with ⟨f | ⟨⟩, v⟩ <;>
      rw [hask] at hsubscribe hasked hunruled <;> rw [hcreated, List.append_assoc] at hasked
    · exact ⟨_, _, _, Action.bind_error (Terminal.logged_apply hsubscribe _ t), hasked,
        .rejected h hq hask⟩
    · obtain ⟨r, s, made, hread, hcalls, hreads⟩ := reads (L := L)
        (c := { Consumer.fresh w.rules.length g false with mode := some q.mode })
        (w := (World.say .consumer LogLevel.info q.text v).2) rfl hunruled fuel
        (t.takeUp (World.say .consumer LogLevel.info q.text v).2.log)
      refine ⟨r, s, _, ?_, ?_, .subscribed h hq hask hreads⟩
      · rw [Action.bind_ok (Terminal.logged_apply hsubscribe _ t)]
        exact hread
      · calc s.2.2.calls
          _ = v.calls ++ made := hcalls
          _ = _ := by rw [hasked, List.append_assoc]; rfl

theorem run_goes (L : Library σ) (o : RecordPrinter) (fuel : Nat) (t : Terminal) (w : World σ) :
    ∃ made, (run L fuel o (t, w)).2.2.calls = w.calls ++ made ∧
      Goes L o fuel w (run L fuel o (t, w)).1 made := by
  unfold run
  rw [Action.bind_apply, Action.lift_apply]
  cases hg : o.config with
  | error f => exact ⟨[], by simp, .unconfigured hg⟩
  | ok g =>
    dsimp only
    rcases hmake : Consumer.make L (.config g) w with ⟨f | c, u⟩
    · obtain ⟨made, hcalls, hgoes⟩ := make_goes fuel hg hmake
      rw [Action.bind_error (Terminal.logged_apply hmake _ t)]
      exact ⟨made, hcalls, hgoes⟩
    · obtain ⟨hc, hincremental, -⟩ := Consumer.make_config hmake
      obtain hsteps : c.incremental = false :=
        Except.ok.inj (hincremental.symm.trans (isIncremental_of_config hg))
      obtain rfl : c = Consumer.fresh w.rules.length g false := by rw [hc, hsteps]; rfl
      obtain ⟨r, s, made, hbody, hcalls, hgoes⟩ :=
        subscribe_goes ⟨hg, hmake⟩ fuel (t.takeUp u.log)
      rw [Action.bind_ok (Terminal.logged_apply hmake _ t), Terminal.holding_apply hbody]
      exact ⟨made, hcalls, hgoes⟩

theorem Makes.unique {g g' : Config} (h : Makes L o w g u) (h' : Makes L o w g' v) :
    g' = g ∧ v = u := by
  obtain rfl : g = g' := Except.ok.inj (h.config.symm.trans h'.config)
  cases h.made.symm.trans h'.made
  exact ⟨rfl, rfl⟩

theorem Goes.closes {r : Except Fault Bool} {made : List (ClientId × Call)}
    (h : Goes L o fuel w r made) :
    (Subscribes L o w → r ≠ .ok false →
      ∃ used, made = used ++ [(w.rules.length, .close)] ∧ ∀ e ∈ used, ¬e.2.isClosing) ∧
    (¬Subscribes L o w ∨ r = .ok false → ∀ e ∈ made, ¬e.2.isClosing) := by
  have hcreate (properties : Dict) : ¬(Call.create .consumer properties).isClosing := nofun
  have hcall (q : ModeRequest) (c : Consumer) : ¬(q.call c).isClosing := by
    cases q <;> exact nofun
  cases h with
  | unconfigured h =>
    refine ⟨?_, fun _ => by simp⟩
    rintro ⟨g, u, q, v, hmakes, -⟩
    cases h.symm.trans hmakes.config
  | unmade hg h hmade =>
    refine ⟨?_, fun _ => by rcases hmade with rfl | rfl <;> simp [hcreate]⟩
    rintro ⟨g', u', q, v, hmakes, -⟩
    cases hg.symm.trans hmakes.config
    cases h.symm.trans hmakes.made
  | refused h hq =>
    refine ⟨?_, fun _ => by simp [hcreate]⟩
    rintro ⟨g', u', q, v, hmakes, hgranted, -⟩
    obtain ⟨rfl, rfl⟩ := h.unique hmakes
    cases hq.symm.trans hgranted
  | rejected h hq hask =>
    refine ⟨?_, fun _ => by simp [hcreate, hcall]⟩
    rintro ⟨g', u', q', v', hmakes, hgranted, hasked⟩
    obtain ⟨rfl, rfl⟩ := h.unique hmakes
    cases hq.symm.trans hgranted
    cases hask.symm.trans hasked
  | @subscribed g u v q r made h hq hask hreads =>
    obtain ⟨hunfinished, hfinished⟩ := hreads.closes
    refine ⟨fun _ hr => ?_, fun hr => ?_⟩
    · obtain ⟨used, rfl, hused⟩ := hfinished hr
      refine ⟨_ :: _ :: used, rfl, ?_⟩
      simpa [hcreate, hcall] using hused
    · have hopen := hunfinished (hr.resolve_left fun hnone => hnone ⟨g, u, q, v, h, hq, hask⟩)
      simpa [hcreate, hcall] using hopen

/-- A consumer that has been subscribed is closed once, by the last call of the run, whatever the
client does and at whichever fault its polls end: at an interrupt, which ends the program, or at
another, which is raised again. Only a fault of closing takes their place. A run whose subscription
is refused or rejected ends with that fault, and its client is never closed. -/
theorem subscribed_consumer_is_closed_once (L : Library σ) (o : RecordPrinter) (fuel : Nat)
    (t : Terminal) (w : World σ) :
    let r := (run L fuel o (t, w)).1
    ∃ made, (run L fuel o (t, w)).2.2.calls = w.calls ++ made ∧ Goes L o fuel w r made ∧
      (Subscribes L o w → r ≠ .ok false →
        ∃ used, made = used ++ [(w.rules.length, .close)] ∧ ∀ e ∈ used, ¬e.2.isClosing) ∧
      (¬Subscribes L o w ∨ r = .ok false → ∀ e ∈ made, ¬e.2.isClosing) := by
  intro r
  obtain ⟨made, hcalls, hgoes⟩ := run_goes L o fuel t w
  exact ⟨made, hcalls, hgoes, hgoes.closes⟩

/-- A run that ends with the rejection of its subscription, and with a client that it has created
and not closed. -/
theorem rejected_subscription_leaves_client_open :
    let o : RecordPrinter := { servers := .text "b:1", group := .text "grp", topic := .text "t" }
    let e := ClientError.ofCode (-188) none
    let w : World (Scripted × List Exchange) :=
      { library := ({ nextScript := { faults := [(.subscribe, some (.error e))] } }, []) }
    let ended := run Scripted.library.recorded 1 o (terminal, w)
    (∃ f, ended.1 = .error f ∧ f.clientError? = some e) ∧ (∃ x ∈ ended.2.2.heard, x.creates) ∧
      ∀ x ∈ ended.2.2.calls, ¬x.2.isClosing := by
  intro o e w ended
  have hcreated : ended.2.2.heard.any Exchange.creates = true := by decide +kernel
  have hopen : ended.2.2.calls.any (·.2.isClosing) = false := by decide +kernel
  have hfault : (match ended.1 with
      | .error f => f.clientError?
      | .ok _ => none) = some e := by decide +kernel
  refine ⟨?_, ?_, ?_⟩
  · cases hended : ended.1 with
    | error f =>
      rw [hended] at hfault
      exact ⟨f, rfl, hfault⟩
    | ok b =>
      rw [hended] at hfault
      cases hfault
  · simpa using hcreated
  · simpa using hopen

end KafkaHandles.RecordPrinter
