import KafkaHandles.Proofs.Consumer.Rounds

/-!
# The lines of a stream

A stream tells the log about every message, about every tenth poll that gave none, and about its end
at the stop flag. Its lines can be told from all others that a poll leaves in the log, and they are
a function of what its polls have given so far.
-/

namespace KafkaHandles

/-! ## What calls leave in the log -/

/-- Whether a record is the line of a stream. -/
def LogRecord.isStreams (r : LogRecord) : Bool :=
  r.logger == Logger.consumer.name && match r.text with
    | .ok s => "Polled ".toList.isPrefixOf s.toList ||
        "Consumer stream stopped".toList.isPrefixOf s.toList
    | .error _ => false

theorem LogRecord.OfCall.not_isStreams {r : LogRecord} (h : r.OfCall) : r.isStreams = false := by
  cases h with
  | line h =>
    have hlogger : (Logger.client.name == Logger.consumer.name) = false := by decide
    rw [isStreams, h, hlogger, Bool.false_and]
  | assigned ps =>
    simp only [isStreams, String.toList_append]
    rfl

namespace World

variable {σ : Type} {L : Library σ} {id : ClientId}

/-- What is added to the log in a call. -/
abbrev Logs : World σ → World σ → Prop :=
  Action.Adds World.log LogRecord.OfCall

theorem logs_of_eq {w u : World σ} (h : u.log = w.log) : Logs w u :=
  ⟨[], by rw [h, List.append_nil], by simp⟩

theorem handle_logs (e : Event) (w : World σ) : Logs w (handle L id e w).2 := by
  refine handle_within (fun c _ w => ?_) (fun r hr w => Action.Adds.one rfl hr)
    (fun note w => logs_of_eq rfl) (fun flag w => logs_of_eq ?_) e
    (fun t r _ w => logs_of_eq rfl) w
  · rw [request_state]
    exact logs_of_eq rfl
  · cases flag <;> rfl

theorem invoke_logs (c : Call) (w : World σ) : Logs w (invoke L id c w).2 := by
  have hall : Logs (begin L id c w).2 (handleAll L id (begin L id c w).1 (begin L id c w).2).2 :=
    handleAll_within (fun e _ => handle_logs e) _
  have hbegin : Logs w (begin L id c w).2 := logs_of_eq rfl
  rw [invoke_state]
  split <;> rename_i h <;> rw [h] at hall
  · rw [finish_state]
    exact trans_of Logs hbegin hall
  · exact trans_of Logs hbegin hall

end World

/-! ## Polls that give something -/

/-- What a poll with an answer gives its caller, unless it fails. -/
def PollAnswer.given? : PollAnswer → Option (Option Polled)
  | .ok m => (Consumer.classify m).toOption
  | .error _ => none

namespace Consumer

variable {σ : Type} {L : Library σ}

/-- The polls between two worlds that have given something, with lines of theirs that are not those
of a stream. -/
structure Gives (w u : World (σ × List Exchange)) (ps : List (Option Polled)) : Prop where
  answers : ∃ as, u.answers = w.answers ++ as ∧ as.filterMap PollAnswer.given? = ps
  log : w.Logs u

/-- A poll that comes back has been answered with what it gives. -/
theorem poll_gives (timeout : Value) (c : Consumer) (w : World (σ × List Exchange)) :
    ∃ r u, poll L.recorded timeout (c, w) = (r, (c, u)) ∧ Gives w u r.toOption.toList := by
  have hnothing : Gives w w [] := ⟨⟨[], by simp, rfl⟩, World.logs_of_eq rfl⟩
  rw [poll_apply]
  cases c.client with
  | none => exact ⟨_, w, rfl, hnothing⟩
  | some id =>
    dsimp only [openClient]
    cases Check.timeout timeout "timeout" with
    | error f => exact ⟨_, w, rfl, hnothing⟩
    | ok seconds =>
      have hlog : w.Logs (World.invoke L.recorded id (.pollMessage (waitFor seconds)) w).2 :=
        World.invoke_logs _ w
      have hpolled := World.invoke_polled L id (waitFor seconds) w
      rcases hinvoke : World.invoke L.recorded id (.pollMessage (waitFor seconds)) w with ⟨r, u⟩
      rw [hinvoke] at hlog hpolled
      simp only [hinvoke]
      rcases hpolled with ⟨f, rfl, hanswers⟩ | ⟨a, s, rfl, -, hanswers⟩
      · refine ⟨.error (brokerFault f), u, rfl, ⟨[], ?_, rfl⟩, hlog⟩
        rw [hanswers, List.append_nil]
      · rcases a with e | m
        · exact ⟨.error (brokerFault (.ofClient e)), u, rfl, ⟨[.error e], hanswers, rfl⟩, hlog⟩
        · refine ⟨classify m, u, rfl, ⟨[.ok m], hanswers, ?_⟩, hlog⟩
          cases hm : classify m <;> simp [PollAnswer.given?, hm, Except.toOption]

end Consumer

namespace Stream

/-! ## Lines -/

/-- A line that a stream writes into the log. -/
inductive Line
  | message (number : Nat) (m : Message)
  | progress (polls messages : Nat)
  | stopped (polls messages : Nat)
  deriving DecidableEq, Repr

namespace Line

/-- The record of a line. -/
def record : Line → LogRecord
  | message number m =>
    { logger := Logger.consumer.name, level := LogLevel.debug, text := .ok (messageText number m) }
  | progress polls messages =>
    { logger := Logger.consumer.name, level := LogLevel.debug
      text := .ok (progressText polls messages) }
  | stopped polls messages =>
    { logger := Logger.consumer.name, level := LogLevel.info
      text := .ok (stoppedText polls messages) }

theorem messageText_begins (number : Nat) (m : Message) :
    "Polled ".toList <+: (messageText number m).toList := by
  have hword : "Polled message #".toList = "Polled ".toList ++ "message #".toList := by decide
  unfold messageText
  simp only [String.toList_append, hword, List.append_assoc, List.prefix_append]

theorem progressText_begins (polls messages : Nat) :
    "Polled ".toList <+: (progressText polls messages).toList := by
  unfold progressText
  simp only [String.toList_append, List.append_assoc, List.prefix_append]

theorem stoppedText_begins (polls messages : Nat) :
    "Consumer stream stopped".toList <+: (stoppedText polls messages).toList := by
  have hword : "Consumer stream stopped: polled ".toList =
      "Consumer stream stopped".toList ++ ": polled ".toList := by decide
  unfold stoppedText
  simp only [String.toList_append, hword, List.append_assoc, List.prefix_append]

theorem record_isStreams (l : Line) : l.record.isStreams = true := by
  cases l with
  | message number m =>
    have h := List.isPrefixOf_iff_prefix.mpr (messageText_begins number m)
    simp only [record, LogRecord.isStreams, h, beq_self_eq_true, Bool.true_or, Bool.and_self]
  | progress polls messages =>
    have h := List.isPrefixOf_iff_prefix.mpr (progressText_begins polls messages)
    simp only [record, LogRecord.isStreams, h, beq_self_eq_true, Bool.true_or, Bool.and_self]
  | stopped polls messages =>
    have h := List.isPrefixOf_iff_prefix.mpr (stoppedText_begins polls messages)
    simp only [record, LogRecord.isStreams, h, beq_self_eq_true, Bool.or_true, Bool.and_self]

/-- The number of a message with the message. -/
def message? : Line → Option (Nat × Message)
  | message number m => some (number, m)
  | _ => none

/-- The polls and messages that a line on progress counts. -/
def progress? : Line → Option (Nat × Nat)
  | progress polls messages => some (polls, messages)
  | _ => none

/-- The polls and messages that a line on the end counts. -/
def stopped? : Line → Option (Nat × Nat)
  | stopped polls messages => some (polls, messages)
  | _ => none

end Line

/-- The message that a poll has given. -/
def message? : Option Polled → Option Message
  | some (.message m) => some m
  | _ => none

/-- The messages that polls have given. -/
def messagesIn (ps : List (Option Polled)) : List Message :=
  ps.filterMap message?

theorem messagesIn_append (ps qs : List (Option Polled)) :
    messagesIn (ps ++ qs) = messagesIn ps ++ messagesIn qs :=
  List.filterMap_append

theorem messagesIn_singleton (p : Option Polled) : messagesIn [p] = (message? p).toList := by
  cases hp : message? p <;> simp [messagesIn, hp]

/-- The line about a poll that follows others. -/
def line? (past : List (Option Polled)) (p : Option Polled) : Option Line :=
  match message? p with
  | some m => some (.message ((messagesIn past).length + 1) m)
  | none =>
    if (past.length + 1) % 10 = 0 then
      some (.progress (past.length + 1) (messagesIn past).length)
    else none

/-- The lines about polls that follow others. -/
def lines (past : List (Option Polled)) : List (Option Polled) → List Line
  | [] => []
  | p :: ps => (line? past p).toList ++ lines (past ++ [p]) ps

theorem lines_append (past ps qs : List (Option Polled)) :
    lines past (ps ++ qs) = lines past ps ++ lines (past ++ ps) qs := by
  induction ps generalizing past with
  | nil => simp [lines]
  | cons p ps ih => simp [lines, ih]

theorem lines_concat (ps : List (Option Polled)) (p : Option Polled) :
    lines [] (ps ++ [p]) = lines [] ps ++ (line? ps p).toList := by
  simp [lines_append, lines]

/-- The line about the end, if a step that ends so has come to the end at the stop flag. -/
def lastLine (ps : List (Option Polled)) : Except Fault (Option Item) → List Line
  | .ok (some .finished) => [.stopped ps.length (messagesIn ps).length]
  | _ => []

/-- The message that a step yields. -/
def yielded? : Except Fault (Option Item) → Option Message
  | .ok (some (.message m)) => some m
  | _ => none

/-! ## Steps -/

variable {σ : Type} {L : Library σ}

/-- A stream has counted its polls, and their messages. -/
structure Counts (s : Stream) (ps : List (Option Polled)) : Prop where
  polls : s.polls = ps.length
  messages : s.messages = (messagesIn ps).length

/-- What a step tells the log that comes after some polls and makes more, with its outcome. -/
structure Tells (past ps : List (Option Polled))
    (t u : Stream × Consumer × World (σ × List Exchange)) (r : Except Fault (Option Item)) :
    Prop where
  answers : ∃ as, u.2.2.answers = t.2.2.answers ++ as ∧ as.filterMap PollAnswer.given? = ps
  log : ∃ rs, u.2.2.log = t.2.2.log ++ rs ∧
    rs.filter LogRecord.isStreams = (lines past ps ++ lastLine (past ++ ps) r).map Line.record
  counts : Counts u.1 (past ++ ps)
  yielded : messagesIn ps = (yielded? r).toList

theorem Counts.snoc {s s' : Stream} {past : List (Option Polled)} {p : Option Polled}
    (h : Counts s past) (hpolls : s'.polls = s.polls + 1)
    (hmessages : s'.messages = s.messages + (message? p).toList.length) :
    Counts s' (past ++ [p]) := by
  constructor
  · rw [hpolls, h.polls, List.length_append, List.length_singleton]
  · rw [hmessages, h.messages, messagesIn_append, messagesIn_singleton, List.length_append]

/-- What a round does with a poll that has given no message. -/
theorem received_of_none {p : Option Polled} (hp : message? p = none) (s : Stream) (c : Consumer)
    (w : World σ) : received p (s, c, w) = (.ok none, ({ s with polls := s.polls + 1 }, c,
      if (s.polls + 1) % 10 = 0 then w.record (Line.progress (s.polls + 1) s.messages).record
      else w)) := by
  rcases p with _ | m | e
  · simp only [received, Action.bind_apply, Action.modify_apply, Action.get_apply]
    split <;> rfl
  · cases hp
  · simp only [received, Action.bind_apply, Action.modify_apply, Action.get_apply]
    split <;> rfl

theorem received_tells {past : List (Option Polled)} (p : Option Polled) {s : Stream}
    (h : Counts s past) (c : Consumer) (w : World σ) :
    ∃ s', received p (s, c, w) = (.ok ((message? p).map .message),
        (s', c, { w with log := w.log ++ (line? past p).toList.map Line.record })) ∧
      Counts s' (past ++ [p]) := by
  cases hp : message? p with
  | some m =>
    obtain rfl : p = some (.message m) := by
      rcases p with _ | m' | e <;> cases hp
      rfl
    refine ⟨{ s with polls := s.polls + 1, messages := s.messages + 1 }, ?_,
      h.snoc rfl (by rw [hp]; rfl)⟩
    simp only [line?, hp, ← h.messages]
    rfl
  | none =>
    refine ⟨{ s with polls := s.polls + 1 }, ?_, h.snoc rfl (by rw [hp]; rfl)⟩
    rw [received_of_none hp]
    simp only [line?, hp, ← h.messages, ← h.polls]
    split
    · rfl
    · simp

theorem filter_ofCall {rs : List LogRecord} (h : ∀ r ∈ rs, r.OfCall) :
    rs.filter LogRecord.isStreams = [] :=
  List.filter_eq_nil_iff.mpr fun r hr => by simp [(h r hr).not_isStreams]

theorem filter_lines (ls : List Line) :
    (ls.map Line.record).filter LogRecord.isStreams = ls.map Line.record :=
  List.filter_eq_self.mpr (List.forall_mem_map.mpr fun l _ => l.record_isStreams)

/-- A round has at most one poll, and tells of it. -/
theorem round_tells {past : List (Option Polled)}
    {t : Stream × Consumer × World (σ × List Exchange)} (h : Counts t.1 past) :
    ∃ r u ps, round L.recorded t = (r, u) ∧ Tells past ps t u r := by
  obtain ⟨s, c, w⟩ := t
  simp only [round, Action.bind_apply, Action.get_apply]
  cases hstop : s.isStopped w with
  | true =>
    refine ⟨.ok (some .finished), (s, c, w.record (Line.stopped s.polls s.messages).record), [],
      rfl, ⟨[], (List.append_nil _).symm, rfl⟩, ⟨_, rfl, ?_⟩, ?_, rfl⟩
    · rw [h.polls, h.messages]
      simp [lines, lastLine, Line.record_isStreams]
    · rw [List.append_nil]
      exact h
  | false =>
    obtain ⟨r, u, hpoll, ⟨as, hanswers, has⟩, rs, hlog, hrs⟩ :=
      Consumer.poll_gives (L := L) s.timeout c w
    simp only [Bool.false_eq_true, if_false, Action.bind_apply, Action.onSecond, hpoll]
    cases r with
    | error f =>
      refine ⟨.error f, (s, c, u), [], rfl, ⟨as, hanswers, has⟩, ⟨rs, hlog, ?_⟩, ?_, rfl⟩
      · rw [filter_ofCall hrs]
        rfl
      · rw [List.append_nil]
        exact h
    | ok p =>
      obtain ⟨s', hreceived, hcounts⟩ := received_tells p h c u
      refine ⟨_, _, [p], hreceived, ⟨as, hanswers, has⟩,
        ⟨rs ++ (line? past p).toList.map Line.record, ?_, ?_⟩, hcounts, ?_⟩
      · rw [hlog, List.append_assoc]
      · rw [List.filter_append, filter_ofCall hrs, filter_lines]
        cases hp : message? p <;> simp [lines, lastLine]
      · rw [messagesIn_singleton]
        cases message? p <;> rfl

theorem Tells.trans {past ps qs : List (Option Polled)}
    {t u v : Stream × Consumer × World (σ × List Exchange)} {r : Except Fault (Option Item)}
    (h : Tells past ps t u (.ok none)) (h' : Tells (past ++ ps) qs u v r) :
    Tells past (ps ++ qs) t v r := by
  obtain ⟨⟨as, hanswers, has⟩, ⟨rs, hlog, hrs⟩, -, hnone⟩ := h
  obtain ⟨⟨as', hanswers', has'⟩, ⟨rs', hlog', hrs'⟩, hcounts, hyielded⟩ := h'
  refine ⟨⟨as ++ as', ?_, ?_⟩, ⟨rs ++ rs', ?_, ?_⟩, ?_, ?_⟩
  · rw [hanswers', hanswers, List.append_assoc]
  · rw [List.filterMap_append, has, has']
  · rw [hlog', hlog, List.append_assoc]
  · rw [List.filter_append, hrs, hrs', ← List.map_append, lines_append, ← List.append_assoc past]
    simp [lastLine]
  · rw [← List.append_assoc]
    exact hcounts
  · rw [messagesIn_append, hnone, hyielded]
    rfl

theorem rounds_tells (fuel : Nat) {past : List (Option Polled)}
    {t : Stream × Consumer × World (σ × List Exchange)} (h : Counts t.1 past) :
    ∃ r u ps, rounds L.recorded fuel t = (r, u) ∧ Tells past ps t u r := by
  induction fuel generalizing past t with
  | zero =>
    refine ⟨.ok none, t, [], rfl, ⟨[], (List.append_nil _).symm, rfl⟩,
      ⟨[], (List.append_nil _).symm, rfl⟩, ?_, rfl⟩
    rw [List.append_nil]
    exact h
  | succ fuel ih =>
    obtain ⟨r, u, ps, hround, htells⟩ := round_tells (L := L) h
    simp only [rounds, Action.bind_apply, hround]
    rcases r with f | _ | item
    · exact ⟨.error f, u, ps, rfl, htells⟩
    · obtain ⟨r, v, qs, hrounds, hrest⟩ := ih htells.counts
      exact ⟨r, v, ps ++ qs, hrounds, htells.trans hrest⟩
    · exact ⟨.ok (some item), u, ps, rfl, htells⟩

/-- What a stream that is asked for its next message tells the log. -/
theorem next_tells (fuel : Nat) {past : List (Option Polled)}
    {t : Stream × Consumer × World (σ × List Exchange)} (h : Counts t.1 past)
    (hsuspended : t.1.status = .suspended) :
    ∃ r u ps, next L.recorded fuel t = (r, u) ∧ Tells past ps t u r ∧
      (r = .ok (some .finished) → u.1.status = .ended) := by
  obtain ⟨r, u, ps, hrounds, htells⟩ := rounds_tells (L := L) fuel h
  have hfinish : Tells past ps t (u.1.finish, u.2) r :=
    ⟨htells.answers, htells.log, ⟨htells.counts.polls, htells.counts.messages⟩, htells.yielded⟩
  simp only [next, hsuspended, hrounds]
  rcases r with f | _ | m | _
  · exact ⟨_, _, ps, rfl, hfinish, nofun⟩
  · exact ⟨_, _, ps, rfl, htells, nofun⟩
  · exact ⟨_, _, ps, rfl, htells, nofun⟩
  · exact ⟨_, _, ps, rfl, hfinish, fun _ => rfl⟩

end Stream

end KafkaHandles
