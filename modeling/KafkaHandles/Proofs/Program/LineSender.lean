import KafkaHandles.Program.LineSender
import KafkaHandles.Proofs.Handle.Creation
import KafkaHandles.Proofs.Producer.Operations
import KafkaHandles.Proofs.Text.Pieces
import KafkaHandles.Scripted.Client

/-!
# Runs of a line sender

A run makes a producer, sends one record for each line, and destroys the producer. The record is the
whole line if the line holds at most one delimiter. Of a line with more of them only the part before
the first is sent.
-/

namespace KafkaHandles

/-- Whether a call drops the messages that are not reported yet, as the destruction of a producer
begins. -/
def Call.isPurging : Call → Bool
  | .purge .. => true
  | _ => false

theorem Call.not_isPurging_of_isSending {c : Call} (h : c.isSending) : ¬c.isPurging := by
  cases c <;> simp_all [isPurging, isSending, isFollowing]

namespace LineSender

open Text (Holds FirstBetween)

/-! ## Records of lines -/

/-- The line that a record stands for. -/
def KeyedText.line (delimiter : String) (r : KeyedText) : String :=
  match r.key with
  | some key => key ++ delimiter ++ r.value
  | none => r.value

/-- What becomes of a line: it is cut at a delimiter that is the only one, and otherwise its value
is what stands before the first delimiter. -/
inductive Becomes (delimiter : String) : String → KeyedText → Prop
  | value {line : String} (h : ¬Holds line delimiter) : Becomes delimiter line ⟨none, line⟩
  | keyed {key value : String} (first : FirstBetween delimiter key value)
      (only : ¬Holds value delimiter) :
      Becomes delimiter (key ++ delimiter ++ value) ⟨some key, value⟩
  | cut {value rest : String} (first : FirstBetween delimiter value rest)
      (more : Holds rest delimiter) : Becomes delimiter (value ++ delimiter ++ rest) ⟨none, value⟩

variable {delimiter line : String}

theorem record_becomes (hne : delimiter ≠ "") (line : String) :
    ∃ r, record delimiter line = .ok r ∧ Becomes delimiter line r := by
  have hempty : delimiter.isEmpty = false := by simpa using hne
  simp only [record, hempty, Bool.false_eq_true, if_false]
  rcases Text.split_cases hne line with ⟨hnone, hsplit⟩ | ⟨before, after, rfl, hfirst, hsplit⟩
  · rw [hsplit]
    exact ⟨_, rfl, .value hnone⟩
  · rw [hsplit]
    rcases Text.split_cases hne after with ⟨hnone, hrest⟩ | ⟨second, rest, hafter, -, hrest⟩
    · rw [hrest]
      exact ⟨_, rfl, .keyed hfirst hnone⟩
    · obtain ⟨third, more, hmore⟩ := List.exists_cons_of_ne_nil (Text.split_ne_nil hne rest)
      rw [hrest, hmore]
      exact ⟨_, rfl, .cut hfirst ⟨second, rest, hafter⟩⟩

/-- A record is the whole line exactly if no two delimiters stand apart in it. -/
theorem Becomes.whole_iff {r : KeyedText} (h : Becomes delimiter line r) (hne : delimiter ≠ "") :
    r.line delimiter = line ↔ ¬∃ a b c, line = a ++ delimiter ++ b ++ delimiter ++ c := by
  have hpos : 0 < delimiter.length := by
    rw [← String.length_toList]
    exact List.length_pos_of_ne_nil (mt String.toList_eq_nil_iff.mp hne)
  cases h with
  | value h =>
    refine iff_of_true rfl ?_
    rintro ⟨a, b, c, rfl⟩
    exact h ⟨a, b ++ delimiter ++ c, by simp only [String.append_assoc]⟩
  | keyed first only =>
    refine iff_of_true rfl ?_
    rintro ⟨a, b, c, hline⟩
    exact only (first.holds_after hline)
  | @cut value rest first more =>
    obtain ⟨b, c, rfl⟩ := more
    refine iff_of_false (fun hline => ?_) (not_not_intro ⟨value, b, c, ?_⟩)
    · have hlength := congrArg String.length hline
      simp only [KeyedText.line, String.length_append] at hlength
      omega
    · simp only [String.append_assoc]

/-! ## Sending -/

variable {σ : Type} {L : Library σ} {fuel : Nat} {topic : Value} {p : Producer} {id : ClientId}
  {w u v : World σ}

/-- How the program sends a record. -/
def sendRecordOf (L : Library σ) (fuel : Nat) (topic : Value) (r : KeyedText) :
    Action (Producer × World σ) (Option Receipt) :=
  Producer.send L fuel topic (.text r.value) (Value.ofOption r.key) .none

/-- How lines are sent in a world: each by one send, in order, up to their end or to a send that
fails otherwise than by an error of the brokers. A send that goes on leaves the lines unfinished. -/
inductive Sends (L : Library σ) (fuel : Nat) (topic : Value) (delimiter : String) (p : Producer) :
    List String → World σ → Except Fault Bool → World σ → Prop
  | done (w : World σ) : Sends L fuel topic delimiter p [] w (.ok true) w
  | stored {line : String} {lines : List String} {k : KeyedText} {place : Receipt}
      {w u v : World σ} {r : Except Fault Bool} (hk : record delimiter line = .ok k)
      (hsend : sendRecordOf L fuel topic k (p, w) = (.ok (some place), (p, u)))
      (rest : Sends L fuel topic delimiter p lines u r v) :
      Sends L fuel topic delimiter p (line :: lines) w r v
  | rejected {line : String} {lines : List String} {k : KeyedText} {f : Fault}
      {w u v : World σ} {r : Except Fault Bool} (hk : record delimiter line = .ok k)
      (hsend : sendRecordOf L fuel topic k (p, w) = (.error f, (p, u))) (hf : f.cls = .broker)
      (rest : Sends L fuel topic delimiter p lines u r v) :
      Sends L fuel topic delimiter p (line :: lines) w r v
  | failed {line : String} {lines : List String} {k : KeyedText} {f : Fault} {w u : World σ}
      (hk : record delimiter line = .ok k)
      (hsend : sendRecordOf L fuel topic k (p, w) = (.error f, (p, u))) (hf : f.cls ≠ .broker) :
      Sends L fuel topic delimiter p (line :: lines) w (.error f) u
  | unfinished {line : String} {lines : List String} {k : KeyedText} {w u : World σ}
      (hk : record delimiter line = .ok k)
      (hsend : sendRecordOf L fuel topic k (p, w) = (.ok none, (p, u))) :
      Sends L fuel topic delimiter p (line :: lines) w (.ok false) u

/-- What the program makes of the outcome of a send. -/
def goesOn (outcome : Except Fault (Option Receipt)) : Except Fault Bool :=
  match outcome with
  | .ok place => .ok place.isSome
  | .error f => if f.cls = .broker then .ok true else .error f

theorem sendRecord_apply {k : KeyedText} {s : Producer × World σ}
    {outcome : Except Fault (Option Receipt)}
    (h : sendRecordOf L fuel topic k (p, w) = (outcome, s)) (t : Terminal) :
    ∃ t', sendRecord L fuel topic k (t, p, w) = (goesOn outcome, (t', s)) := by
  have hlogged := Terminal.logged_apply h (·.2.log) t
  unfold sendRecordOf at hlogged
  simp only [sendRecord, goesOn, Action.bind_apply, Action.attempt, hlogged]
  rcases outcome with f | _ | place
  · dsimp only
    split
    · exact ⟨_, rfl⟩
    · exact ⟨_, rfl⟩
  · exact ⟨_, rfl⟩
  · exact ⟨_, rfl⟩

theorem sendRecordOf_state (L : Library σ) (fuel : Nat) (topic : Value) (k : KeyedText)
    (p : Producer) (w : World σ) :
    ∃ outcome u, sendRecordOf L fuel topic k (p, w) = (outcome, (p, u)) := by
  have hsame : (sendRecordOf L fuel topic k (p, w)).2.1 = p :=
    (Producer.send_uses fuel topic _ _ _ (p, w)).handle
  exact ⟨_, _, Prod.ext rfl (Prod.ext hsame rfl)⟩

/-- Lines are sent as described, whatever is printed meanwhile. -/
theorem sendLines_sends (L : Library σ) (fuel : Nat) (topic : Value) (p : Producer)
    (hne : delimiter ≠ "") (lines : List String) (t : Terminal) (w : World σ) :
    ∃ r t' v, sendLines L fuel topic (.text delimiter) lines (t, p, w) = (r, (t', p, v)) ∧
      Sends L fuel topic delimiter p lines w r v := by
  induction lines generalizing t w with
  | nil => exact ⟨_, _, w, rfl, .done w⟩
  | cons line lines ih =>
    obtain ⟨k, hk, -⟩ := record_becomes hne line
    obtain ⟨outcome, u, hsend⟩ := sendRecordOf_state L fuel topic k p w
    obtain ⟨t₁, hsent⟩ := sendRecord_apply hsend (t.write ">")
    have hlines : sendLines L fuel topic (.text delimiter) (line :: lines) (t, p, w) =
        match goesOn outcome with
        | .ok true => sendLines L fuel topic (.text delimiter) lines (t₁, p, u)
        | .ok false => (.ok false, (t₁, p, u))
        | .error f => (.error f, (t₁, p, u)) := by
      simp only [sendLines, Action.bind_apply, Terminal.prompt_apply, recordBy, hk,
        Action.lift_apply, hsent]
      rcases goesOn outcome with f | _ | _ <;> rfl
    rw [hlines]
    rcases outcome with f | _ | place
    · by_cases hf : f.cls = .broker
      · obtain ⟨r, t₂, v, hrest, hsends⟩ := ih t₁ u
        refine ⟨r, t₂, v, ?_, .rejected hk hsend hf hsends⟩
        simpa only [goesOn, hf, if_true] using hrest
      · refine ⟨.error f, t₁, u, ?_, .failed hk hsend hf⟩
        simp only [goesOn, hf, if_false]
    · exact ⟨_, t₁, u, rfl, .unfinished hk hsend⟩
    · obtain ⟨r, t₂, v, hrest, hsends⟩ := ih t₁ u
      exact ⟨r, t₂, v, hrest, .stored hk hsend hsends⟩

theorem Sends.uses {lines : List String} {r : Except Fault Bool}
    (h : Sends L fuel topic delimiter p lines w r v) :
    World.Asks p.client (·.isSending) w v ∧ v.rules = w.rules := by
  have hone {k : KeyedText} {outcome : Except Fault (Option Receipt)} {w u : World σ}
      (hsend : sendRecordOf L fuel topic k (p, w) = (outcome, (p, u))) :
      World.Asks p.client (·.isSending) w u ∧ u.rules = w.rules := by
    have huses := Producer.send_uses (L := L) fuel topic (.text k.value) (Value.ofOption k.key)
      .none (p, w)
    unfold sendRecordOf at hsend
    rw [hsend] at huses
    exact ⟨huses.asks, huses.rules⟩
  induction h with
  | done w => exact ⟨refl_of _ w, rfl⟩
  | stored hk hsend _ ih =>
    exact ⟨trans_of _ (hone hsend).1 ih.1, ih.2.trans (hone hsend).2⟩
  | rejected hk hsend hf _ ih =>
    exact ⟨trans_of _ (hone hsend).1 ih.1, ih.2.trans (hone hsend).2⟩
  | failed hk hsend hf => exact hone hsend
  | unfinished hk hsend => exact hone hsend

/-! ## Runs -/

variable {o : LineSender} {f : Fault} {lines : List String}

/-- The run makes a producer with a configuration. -/
structure Makes (L : Library σ) (o : LineSender) (w : World σ) (g : Config) (u : World σ) :
    Prop where
  config : o.config = .ok g
  made : Producer.make L (.config g) w = (.ok ⟨some w.rules.length⟩, u)

/-- How a run goes that begins in a world, and the calls that it makes. -/
inductive Goes (L : Library σ) (o : LineSender) (delimiter : String) (fuel : Nat)
    (lines : List String) (w : World σ) : Except Fault Bool → List (ClientId × Call) → Prop
  | unconfigured {f : Fault} (h : o.config = .error f) :
      Goes L o delimiter fuel lines w (.error f) []
  | unmade {g : Config} {f : Fault} {u : World σ} {made : List (ClientId × Call)}
      (hg : o.config = .ok g) (h : Producer.make L (.config g) w = (.error f, u))
      (hmade : made = [] ∨
        made = [(w.rules.length, .create .producer (g.allProperties .producer))]) :
      Goes L o delimiter fuel lines w (.error f) made
  | unfinished {g : Config} {u v : World σ} {sent : List (ClientId × Call)}
      (h : Makes L o w g u)
      (hsends : Sends L fuel o.topic delimiter ⟨some w.rules.length⟩ lines u (.ok false) v)
      (hcalls : v.calls = u.calls ++ sent)
      (hsent : ∀ e ∈ sent, e.1 = w.rules.length ∧ e.2.isSending) :
      Goes L o delimiter fuel lines w (.ok false)
        ((w.rules.length, .create .producer (g.allProperties .producer)) :: sent)
  | destroyed {g : Config} {u v : World σ} {r : Except Fault Bool}
      {sent served : List (ClientId × Call)} (h : Makes L o w g u)
      (hsends : Sends L fuel o.topic delimiter ⟨some w.rules.length⟩ lines u r v)
      (hr : r ≠ .ok false) (hcalls : v.calls = u.calls ++ sent)
      (hsent : ∀ e ∈ sent, e.1 = w.rules.length ∧ e.2.isSending)
      (hserved : served = [] ∨ served = [(w.rules.length, .pollReports .instant)]) :
      Goes L o delimiter fuel lines w
        ((Producer.destroy L (⟨some w.rules.length⟩, v)).1 >>= fun _ => r)
        ((w.rules.length, .create .producer (g.allProperties .producer)) :: sent ++
          (w.rules.length, .purge true true false) :: served)

theorem make_goes {g : Config} (delimiter : String) (fuel : Nat) (lines : List String)
    (hg : o.config = .ok g) (h : Producer.make L (.config g) w = (.error f, u)) :
    ∃ made, u.calls = w.calls ++ made ∧ Goes L o delimiter fuel lines w (.error f) made := by
  have hmake : Handle.make L .producer (.config g) w = (.error f, u) := Action.bind_error h
  obtain ⟨made, hcalls, hmade⟩ := Handle.make_calls L .producer g w
  rw [hmake] at hcalls
  exact ⟨made, hcalls, .unmade hg h hmade⟩

theorem make_made {g : Config} (hg : o.config = .ok g)
    (h : Producer.make L (.config g) w = (.ok p, u)) :
    p = ⟨some w.rules.length⟩ ∧ Makes L o w g u ∧ u.rule? w.rules.length = none ∧
      u.calls = w.calls ++ [(w.rules.length, .create .producer (g.allProperties .producer))] := by
  obtain ⟨hclient, hrules, properties, hcreated⟩ := Producer.make_ok h
  obtain rfl : p = ⟨some w.rules.length⟩ := congrArg Producer.mk hclient
  have hmake : Handle.make L .producer (.config g) w =
      (.ok (.producer ⟨some w.rules.length⟩), u) := Action.bind_ok h
  refine ⟨rfl, ⟨hg, h⟩, by simp [World.rule?, hrules], ?_⟩
  obtain ⟨made, hcalls, hmade⟩ := Handle.make_calls L .producer g w
  rw [hmake] at hcalls
  rcases hmade with rfl | rfl
  · rw [hcreated] at hcalls
    simp at hcalls
  · exact hcalls

/-- A producer that has been made sends the lines and is destroyed, unless a send goes on. -/
theorem sendLines_goes {g : Config} (hd : o.delimiter = .text delimiter) (hne : delimiter ≠ "")
    (h : Makes L o w g u) (hrule : u.rule? w.rules.length = none)
    (hcreated : u.calls =
      w.calls ++ [(w.rules.length, .create .producer (g.allProperties .producer))])
    (fuel : Nat) (lines : List String) (text : String) (t : Terminal) :
    ∃ r s made,
      Action.thenAtEnd
        (Terminal.print text >>= fun _ => sendLines L fuel o.topic o.delimiter lines)
        (Terminal.logged (·.2.log) (Producer.destroy L)) (t, ⟨some w.rules.length⟩, u) = (r, s) ∧
      s.2.2.calls = w.calls ++ made ∧ Goes L o delimiter fuel lines w r made := by
  obtain ⟨r, t', v, hlines, hsends⟩ := sendLines_sends L fuel o.topic
    ⟨some w.rules.length⟩ hne lines (t.write (text ++ "\n")) u
  obtain ⟨⟨sent, hcalls, hsent⟩, hrules⟩ := hsends.uses
  have howned : ∀ e ∈ sent, e.1 = w.rules.length ∧ e.2.isSending :=
    fun e he => ⟨(Option.some.inj (hsent e he).1).symm, (hsent e he).2⟩
  have hbody : (Terminal.print text >>= fun _ => sendLines L fuel o.topic o.delimiter lines)
      (t, ⟨some w.rules.length⟩, u) = (r, (t', ⟨some w.rules.length⟩, v)) := by
    rw [Action.bind_ok (Terminal.print_apply text t _), hd]
    exact hlines
  have hmade : v.calls = w.calls ++
      ((w.rules.length, .create .producer (g.allProperties .producer)) :: sent) := by
    rw [hcalls, hcreated, List.append_assoc]
    rfl
  by_cases hr : r = .ok false
  · subst hr
    exact ⟨_, _, _, Action.thenAtEnd_unfinished hbody, hmade,
      .unfinished h hsends hcalls howned⟩
  · obtain ⟨served, hdestroyed, hserved⟩ := Producer.destroy_calls (L := L)
      (p := ⟨some w.rules.length⟩) rfl ((World.rule?_of_rules hrules).trans hrule)
    have hlogged := Terminal.logged_apply (S := Producer × World σ) (a := Producer.destroy L)
      (s := (⟨some w.rules.length⟩, v)) rfl (·.2.log) t'
    refine ⟨_, _, _, Action.thenAtEnd_finished hbody hr hlogged, ?_,
      .destroyed h hsends hr hcalls howned hserved⟩
    exact hdestroyed.trans (by rw [hmade]; simp)

theorem run_goes (L : Library σ) (hd : o.delimiter = .text delimiter) (hne : delimiter ≠ "")
    (fuel : Nat) (lines : List String) (t : Terminal) (w : World σ) :
    ∃ made, (run L fuel lines o (t, w)).2.2.calls = w.calls ++ made ∧
      Goes L o delimiter fuel lines w (run L fuel lines o (t, w)).1 made := by
  unfold run
  rw [Action.bind_apply, Action.lift_apply]
  cases hg : o.config with
  | error f => exact ⟨[], by simp, .unconfigured hg⟩
  | ok g =>
    dsimp only
    rcases hmake : Producer.make L (.config g) w with ⟨f | p, u⟩
    · obtain ⟨made, hcalls, hgoes⟩ := make_goes delimiter fuel lines hg hmake
      rw [Action.bind_error (Terminal.logged_apply hmake _ t)]
      exact ⟨made, hcalls, hgoes⟩
    · obtain ⟨rfl, hmakes, hrule, hcreated⟩ := make_made hg hmake
      obtain ⟨r, s, made, hbody, hcalls, hgoes⟩ := sendLines_goes hd hne hmakes hrule hcreated fuel
        lines ("Producing records to topic " ++ topicText o.topic ++ ". ^C to exit.")
        (t.takeUp u.log)
      rw [Action.bind_ok (Terminal.logged_apply hmake _ t), Terminal.holding_apply hbody]
      exact ⟨made, hcalls, hgoes⟩

/-- Once it is made, the producer is destroyed by one call, however the run ends. -/
theorem Goes.destroys {r : Except Fault Bool} {made : List (ClientId × Call)}
    (h : Goes L o delimiter fuel lines w r made) (hmade : ∃ g u, Makes L o w g u)
    (hr : r ≠ .ok false) : made.countP (·.2.isPurging) = 1 := by
  obtain ⟨g, u, hmakes⟩ := hmade
  cases h with
  | unconfigured h => cases h.symm.trans hmakes.config
  | unmade hg h hmade =>
    cases hg.symm.trans hmakes.config
    cases h.symm.trans hmakes.made
  | unfinished h hsends hcalls hsent => exact absurd rfl hr
  | @destroyed g u v r sent served h hsends hr hcalls hsent hserved =>
    have hsending : sent.countP (·.2.isPurging) = 0 :=
      List.countP_eq_zero.mpr fun e he => Call.not_isPurging_of_isSending (hsent e he).2
    have hserving : served.countP (·.2.isPurging) = 0 := by
      rcases hserved with rfl | rfl <;> rfl
    rw [List.countP_append, List.countP_cons, List.countP_cons, hsending, hserving]
    rfl

/-- The lines are sent one after another, each by one send, until they are at their end or a send
fails otherwise than by an error of the brokers, which keeps no later line from being sent. However
that ends, the producer is then destroyed once. The record of a line is the whole line unless two
delimiters stand apart in the line; of such a line the part before the first is sent without a key,
and nothing of the rest. -/
theorem each_line_is_sent_once (L : Library σ) (o : LineSender) {delimiter : String}
    (hd : o.delimiter = .text delimiter) (hne : delimiter ≠ "") (fuel : Nat) (lines : List String)
    (t : Terminal) (w : World σ) :
    (∃ made, (run L fuel lines o (t, w)).2.2.calls = w.calls ++ made ∧
      Goes L o delimiter fuel lines w (run L fuel lines o (t, w)).1 made ∧
      ((∃ g u, Makes L o w g u) → (run L fuel lines o (t, w)).1 ≠ .ok false →
        made.countP (·.2.isPurging) = 1)) ∧
    ∀ line, ∃ k, record delimiter line = .ok k ∧ Becomes delimiter line k ∧
      (k.line delimiter = line ↔ ¬∃ a b c, line = a ++ delimiter ++ b ++ delimiter ++ c) := by
  constructor
  · obtain ⟨made, hcalls, hgoes⟩ := run_goes L hd hne fuel lines t w
    exact ⟨made, hcalls, hgoes, hgoes.destroys⟩
  · intro line
    obtain ⟨k, hk, hbecomes⟩ := record_becomes hne line
    exact ⟨k, hk, hbecomes, hbecomes.whole_iff hne⟩

/-- A run with one line, which holds a key and a value. -/
theorem keyed_line_is_sent_whole :
    let o : LineSender := { servers := .text "b:1" }
    let w : World Scripted := { library := {} }
    o.delimiter = .text "|" ∧ "|" ≠ "" ∧
      (run Scripted.library 20 ["k|v"] o (o.terminal, w)).1.toOption = some true ∧
      (∃ made, (run Scripted.library 20 ["k|v"] o (o.terminal, w)).2.2.calls = w.calls ++ made ∧
        Goes Scripted.library o "|" 20 ["k|v"] w
          (run Scripted.library 20 ["k|v"] o (o.terminal, w)).1 made ∧
        ((∃ g u, Makes Scripted.library o w g u) → made.countP (·.2.isPurging) = 1)) ∧
      ∃ k, record "|" "k|v" = .ok k ∧ k.key = some "k" ∧ k.line "|" = "k|v" := by
  intro o w
  have hne : "|" ≠ "" := by decide
  have hended : (run Scripted.library 20 ["k|v"] o (o.terminal, w)).1.toOption = some true := by
    decide +kernel
  obtain ⟨⟨made, hcalls, hgoes, hdestroyed⟩, -⟩ :=
    each_line_is_sent_once Scripted.library o rfl hne 20 ["k|v"] o.terminal w
  have hfinished : (run Scripted.library 20 ["k|v"] o (o.terminal, w)).1 ≠ .ok false := by
    intro h
    rw [h] at hended
    cases hended
  exact ⟨rfl, hne, hended, ⟨made, hcalls, hgoes, fun h => hdestroyed h hfinished⟩,
    ⟨some "k", "v"⟩, rfl, rfl, rfl⟩

/-- A run with one line that holds two delimiters: all that is sent is what stands before the
first. -/
theorem second_delimiter_loses_the_rest :
    let o : LineSender := { servers := .text "b:1" }
    let w : World Scripted := { library := {} }
    let ended := run Scripted.library 20 ["a|b|c"] o (o.terminal, w)
    let values := ended.2.2.calls.filterMap fun e => match e.2 with
      | .produce ⟨_, .bytes value, _, _⟩ _ => some value
      | _ => none
    record "|" "a|b|c" = .ok ⟨none, "a"⟩ ∧ (KeyedText.mk none "a").line "|" ≠ "a|b|c" ∧
      ended.1.toOption = some true ∧ values = [Utf8.ofText "a"] := by
  intro o w ended values
  have hended : ended.1.toOption = some true := by decide +kernel
  have hvalues : values = [Utf8.ofText "a"] := by decide +kernel
  exact ⟨rfl, by decide, hended, hvalues⟩

end LineSender

end KafkaHandles
