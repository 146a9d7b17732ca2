import KafkaHandles.Proofs.Consumer.Delivery
import KafkaHandles.Proofs.Consumer.Lines

/-!
# Progress of streams

What the lines of a stream tell about all of its polls, at every point of every run in which the
stream takes part. A tenth poll that gives a message is not told of as progress.
-/

namespace KafkaHandles

namespace Stream

/-! ## Tenth polls -/

/-- The message of the poll with a number, counted from one. -/
def messageOf? (ps : List (Option Polled)) (number : Nat) : Option Message :=
  ps[number - 1]?.bind message?

/-- The progress that is told of after a poll that has given no message: its number, and how many
messages the polls up to it have given. -/
def progressAt? (ps : List (Option Polled)) (number : Nat) : Option (Nat × Nat) :=
  match messageOf? ps number with
  | some _ => none
  | none => some (number, (messagesIn (ps.take number)).length)

/-- The numbers of the tenth polls. -/
def tenths (ps : List (Option Polled)) : List Nat :=
  (List.range (ps.length / 10)).map fun j => 10 * (j + 1)

theorem progressAt?_append {ps : List (Option Polled)} {number : Nat} (hpositive : 0 < number)
    (h : number ≤ ps.length) (p : Option Polled) :
    progressAt? (ps ++ [p]) number = progressAt? ps number := by
  have hget : (ps ++ [p])[number - 1]? = ps[number - 1]? :=
    List.getElem?_append_left (by omega)
  rw [progressAt?, progressAt?, messageOf?, messageOf?, hget, List.take_append_of_le_length h]

theorem tenths_concat (ps : List (Option Polled)) (p : Option Polled) :
    tenths (ps ++ [p]) =
      tenths ps ++ if (ps.length + 1) % 10 = 0 then [ps.length + 1] else [] := by
  rw [tenths, tenths, List.length_append, List.length_singleton]
  split
  · rename_i h
    have hdiv : (ps.length + 1) / 10 = ps.length / 10 + 1 := by omega
    have hlast : 10 * (ps.length / 10 + 1) = ps.length + 1 := by omega
    rw [hdiv, List.range_succ, List.map_append, List.map_singleton, hlast]
  · rename_i h
    have hdiv : (ps.length + 1) / 10 = ps.length / 10 := by omega
    rw [hdiv, List.append_nil]

theorem mem_tenths {ps : List (Option Polled)} {number : Nat} (h : number ∈ tenths ps) :
    0 < number ∧ number ≤ ps.length := by
  obtain ⟨j, hj, rfl⟩ := List.mem_map.mp h
  have hlt := List.mem_range.mp hj
  omega

theorem progressAt?_last (ps : List (Option Polled)) (p : Option Polled) :
    progressAt? (ps ++ [p]) (ps.length + 1) =
      match message? p with
      | some _ => none
      | none => some (ps.length + 1, (messagesIn ps).length) := by
  have hget : (ps ++ [p])[ps.length + 1 - 1]? = some p := by simp
  have htake : (ps ++ [p]).take (ps.length + 1) = ps ++ [p] := List.take_of_length_le (by simp)
  rw [progressAt?, messageOf?, hget, htake, messagesIn_append, messagesIn_singleton]
  cases hp : message? p <;> simp [hp]

/-- The lines on progress tell of every tenth poll that has given no message. -/
theorem lines_progress (ps : List (Option Polled)) :
    (lines [] ps).filterMap Line.progress? = (tenths ps).filterMap (progressAt? ps) := by
  induction ps using List.reverseRecOn with
  | nil => rfl
  | append_singleton ps p ih =>
    have hbefore : (tenths ps).filterMap (progressAt? (ps ++ [p])) =
        (tenths ps).filterMap (progressAt? ps) :=
      List.filterMap_congr fun number h => progressAt?_append (mem_tenths h).1 (mem_tenths h).2 p
    rw [lines_concat, List.filterMap_append, ih, tenths_concat, List.filterMap_append, hbefore]
    congr 1
    cases hp : message? p with
    | some m => split <;> simp [line?, hp, Line.progress?, progressAt?_last]
    | none => by_cases hten : (ps.length + 1) % 10 = 0 <;>
        simp [line?, hp, hten, Line.progress?, progressAt?_last]

/-- The lines about messages number them from one. -/
theorem lines_message (ps : List (Option Polled)) :
    (lines [] ps).filterMap Line.message? = (messagesIn ps).mapIdx fun k m => (k + 1, m) := by
  induction ps using List.reverseRecOn with
  | nil => rfl
  | append_singleton ps p ih =>
    rw [lines_concat, List.filterMap_append, ih, messagesIn_append, messagesIn_singleton]
    cases hp : message? p with
    | some m => simp [line?, hp, Line.message?, List.mapIdx_append]
    | none =>
      simp only [line?, hp]
      split <;> simp [Line.message?]

/-- Before the end there is no line about it. -/
theorem lines_stopped (past ps : List (Option Polled)) :
    (lines past ps).filterMap Line.stopped? = [] := by
  induction ps generalizing past with
  | nil => rfl
  | cons p ps ih =>
    rw [lines, List.filterMap_append, ih, List.append_nil]
    cases hp : message? p with
    | some m => simp [line?, hp, Line.stopped?]
    | none =>
      simp only [line?, hp]
      split <;> simp [Line.stopped?]

/-- What the lines of a stream tell of its polls, with a last line if it has come to its end at the
stop flag. -/
structure Accounts (ps : List (Option Polled)) (halted : Bool) (ls : List Line) : Prop where
  /-- Progress is told of with the number of each tenth poll and the messages up to it. -/
  progress : ls.filterMap Line.progress? = (tenths ps).filterMap (progressAt? ps)
  /-- It is told of as often as ten polls are made, unless a tenth poll has given a message. -/
  often : (ls.filterMap Line.progress?).length = ps.length / 10 ↔
    ∀ number ∈ tenths ps, messageOf? ps number = none
  messages : ls.filterMap Line.message? = (messagesIn ps).mapIdx fun k m => (k + 1, m)
  ending : ls.filterMap Line.stopped? =
    if halted then [(ps.length, (messagesIn ps).length)] else []
  last : halted → ls.getLast? = some (.stopped ps.length (messagesIn ps).length)

/-- The line about the end at the stop flag, if this has come. -/
def stopLine (ps : List (Option Polled)) (halted : Bool) : List Line :=
  if halted then [.stopped ps.length (messagesIn ps).length] else []

theorem lastLine_eq {ps : List (Option Polled)} {r : Except Fault (Option Item)} {halted : Bool}
    (h : halted = true ↔ r = .ok (some .finished)) : lastLine ps r = stopLine ps halted := by
  cases halted with
  | true => rw [h.mp rfl, lastLine, stopLine, if_pos rfl]
  | false => rcases r with f | _ | m | _ <;> simp_all [lastLine, stopLine]

theorem accounts (ps : List (Option Polled)) (halted : Bool) :
    Accounts ps halted (lines [] ps ++ stopLine ps halted) := by
  have hprogress : (lines [] ps ++ stopLine ps halted).filterMap Line.progress? =
      (tenths ps).filterMap (progressAt? ps) := by
    rw [List.filterMap_append, lines_progress]
    cases halted <;> simp [stopLine, Line.progress?]
  constructor
  · exact hprogress
  · have hlength : (tenths ps).length = ps.length / 10 := by simp [tenths]
    rw [hprogress, ← hlength, List.filterMap_length_eq_length]
    refine forall₂_congr fun number _ => ?_
    cases h : messageOf? ps number <;> simp [progressAt?, h]
  · rw [List.filterMap_append, lines_message]
    cases halted <;> simp [stopLine, Line.message?]
  · rw [List.filterMap_append, lines_stopped]
    cases halted <;> simp [stopLine, Line.stopped?]
  · rintro rfl
    simp [stopLine]

end Stream

/-! ## Moves -/

open KafkaHandles.Stream (Line lines messagesIn stopLine Counts)

variable {σ : Type}

namespace Taken

/-- Whether a move asks a stream for its next message. -/
def asks (i : Nat) (x : Taken σ) : Bool :=
  match x.move with
  | .next j => j = i
  | _ => false

/-- Whether a move has seen a stream end at its stop flag. -/
def stops (i : Nat) (x : Taken σ) : Bool :=
  x.asks i && x.before.streams[i]?.any (·.status = .suspended) &&
    match x.outcome with
    | .ok .finished => true
    | _ => false

/-- What the polls of a move have given. -/
def given (x : Taken (σ × List Exchange)) : List (Option Polled) :=
  (x.after.world.answers.drop x.before.world.answers.length).filterMap PollAnswer.given?

/-- The lines of streams that a move has written into the log. -/
def told (x : Taken (σ × List Exchange)) : List LogRecord :=
  (x.after.world.log.drop x.before.world.log.length).filter LogRecord.isStreams

end Taken

namespace Stream

/-- What the polls of a stream have given in the moves that asked it. -/
def given (i : Nat) (past : List (Taken (σ × List Exchange))) : List (Option Polled) :=
  (past.filter (·.asks i)).flatMap Taken.given

/-- The lines that these moves have written into the log. -/
def told (i : Nat) (past : List (Taken (σ × List Exchange))) : List LogRecord :=
  (past.filter (·.asks i)).flatMap Taken.told

/-- The messages that these moves have given their callers. -/
def yielded (i : Nat) (past : List (Taken (σ × List Exchange))) : List Message :=
  (past.filter (·.asks i)).filterMap Taken.delivered?

/-- Whether the stream has come to its end at its stop flag. -/
def halted (i : Nat) (past : List (Taken (σ × List Exchange))) : Bool :=
  past.any (·.stops i)

section Snoc

variable {i : Nat} {past : List (Taken (σ × List Exchange))} {x : Taken (σ × List Exchange)}

theorem given_snoc (h : x.asks i = true) : given i (past ++ [x]) = given i past ++ x.given := by
  simp [given, List.filter_append, h]

theorem told_snoc (h : x.asks i = true) : told i (past ++ [x]) = told i past ++ x.told := by
  simp [told, List.filter_append, h]

theorem yielded_snoc (h : x.asks i = true) :
    yielded i (past ++ [x]) = yielded i past ++ x.delivered?.toList := by
  cases hx : x.delivered? <;> simp [yielded, List.filter_append, h, hx]

theorem halted_snoc : halted i (past ++ [x]) = (halted i past || x.stops i) := by
  simp [halted]

/-- Moves that do not ask the stream count for nothing. -/
theorem snoc_of_not_asks (past : List (Taken (σ × List Exchange))) (h : x.asks i = false) :
    given i (past ++ [x]) = given i past ∧ told i (past ++ [x]) = told i past ∧
      yielded i (past ++ [x]) = yielded i past ∧ halted i (past ++ [x]) = halted i past := by
  have hfilter : (past ++ [x]).filter (·.asks i) = past.filter (·.asks i) := by
    simp [List.filter_append, h]
  refine ⟨?_, ?_, ?_, by simp [halted, Taken.stops, h]⟩
  · rw [given, hfilter, given]
  · rw [told, hfilter, told]
  · rw [yielded, hfilter, yielded]

end Snoc

end Stream

variable {L : Library σ} {fuel i : Nat}

/-- A stream has counted its polls, of which there are none before it is made. -/
structure Stream.Counted (i : Nat) (streams : List Stream) (ps : List (Option Polled)) : Prop where
  counts : ∀ stream, streams[i]? = some stream → Counts stream ps
  unmade : streams[i]? = none → ps = []

namespace Stream.Counted

variable {streams : List Stream} {ps : List (Option Polled)}

theorem of_counts {stream : Stream} (hi : streams[i]? = some stream) (h : Counts stream ps) :
    Counted i streams ps := by
  constructor
  · intro stream' hi'
    cases hi.symm.trans hi'
    exact h
  · intro hnone
    cases hi.symm.trans hnone

theorem congr {streams' : List Stream} (h : Counted i streams ps)
    (hi : streams'[i]? = streams[i]?) : Counted i streams' ps := by
  constructor
  · rw [hi]
    exact h.counts
  · rw [hi]
    exact h.unmade

/-- A stream that is made has counted nothing. -/
theorem concat {stream : Stream} (h : Counted i streams ps) (hstream : Counts stream []) :
    Counted i (streams ++ [stream]) ps := by
  rcases Nat.lt_trichotomy i streams.length with hlt | heq | hgt
  · exact h.congr (List.getElem?_append_left hlt)
  · subst heq
    rw [h.unmade (List.getElem?_eq_none (Nat.le_refl _))]
    exact of_counts List.getElem?_concat_length hstream
  · apply h.congr
    rw [List.getElem?_eq_none (Nat.le_of_lt hgt), List.getElem?_eq_none]
    rw [List.length_append, List.length_singleton]
    exact hgt

/-- Giving a stream up changes no count. -/
theorem modify (h : Counted i streams ps) (j : Nat) {f : Stream → Stream}
    (hf : ∀ stream, Counts stream ps → Counts (f stream) ps) :
    Counted i (streams.modify j f) ps := by
  by_cases hj : j = i
  · subst hj
    have hmodify : (streams.modify j f)[j]? = streams[j]?.map f :=
      List.getElem?_modify_eq f j streams
    cases hi : streams[j]? with
    | none => exact h.congr (by rw [hmodify, hi, Option.map_none])
    | some stream =>
      exact of_counts (by rw [hmodify, hi, Option.map_some]) (hf stream (h.counts stream hi))
  · exact h.congr (List.getElem?_modify_ne f _ hj)

end Stream.Counted

open KafkaHandles.Stream (Counted)

/-- What a move that asks a stream tells, and how it leaves the stream that has made some polls. -/
structure Taken.Tells (i : Nat) (ps : List (Option Polled)) (x : Taken (σ × List Exchange)) :
    Prop where
  told : x.told = (lines ps x.given ++ stopLine (ps ++ x.given) (x.stops i)).map Line.record
  delivered : x.delivered?.toList = messagesIn x.given
  counted : Counted i x.after.streams (ps ++ x.given)
  ended : x.stops i → ∃ stream, x.after.streams[i]? = some stream ∧ stream.status = .ended

namespace Scene

variable {ps : List (Option Polled)} {s : Scene (σ × List Exchange)}

theorem tells_of_still (hcounted : Counted i s.streams ps) {m : Move} {r : Except Fault Reply}
    (htake : s.take L.recorded fuel m = (r, s)) (hr : Reply.message? r = none)
    (hstops : (s.taken L.recorded fuel m).stops i = false) :
    (s.taken L.recorded fuel m).Tells i ps := by
  have hgiven : (s.taken L.recorded fuel m).given = [] := by
    simp [Taken.given, taken, htake]
  have htold : (s.taken L.recorded fuel m).told = [] := by
    simp [Taken.told, taken, htake]
  refine ⟨?_, ?_, ?_, by simp [hstops]⟩
  · rw [htold, hgiven, hstops]
    rfl
  · rw [hgiven, Taken.delivered?, taken, htake, hr]
    rfl
  · rw [hgiven, List.append_nil, taken, htake]
    exact hcounted

theorem tells_of_suspended {c : Consumer} {stream : Stream} (hs : s.handle = .consumer c)
    (hi : s.streams[i]? = some stream) (hcounts : Counts stream ps)
    (hsuspended : stream.status = .suspended) :
    (s.taken L.recorded fuel (.next i)).Tells i ps := by
  obtain ⟨r, ⟨stream', c', w'⟩, given, hnext, htells, hended⟩ :=
    Stream.next_tells (L := L) (t := (stream, c, s.world)) fuel hcounts hsuspended
  obtain ⟨⟨as, hanswers, has⟩, ⟨rs, hlog, hrs⟩, hcounts', hyielded⟩ := htells
  have htake : s.take L.recorded fuel (.next i) = (r.map .ofItem,
      { handle := .consumer c', streams := s.streams.set i stream', world := w' }) := by
    simp only [take, hs, hi, hnext]
  have hgiven : (s.taken L.recorded fuel (.next i)).given = given := by
    simp only [Taken.given, taken, htake]
    rw [hanswers, List.drop_left, has]
  have hstream : (s.streams.set i stream')[i]? = some stream' :=
    List.getElem?_set_self (List.getElem?_eq_some_iff.mp hi).1
  have hstops : (s.taken L.recorded fuel (.next i)).stops i = true ↔ r = .ok (some .finished) := by
    simp only [Taken.stops, Taken.asks, taken, htake, hi]
    rcases r with f | _ | m | _ <;> simp [Except.map, Reply.ofItem, hsuspended]
  constructor
  · rw [hgiven, ← Stream.lastLine_eq hstops, ← hrs, Taken.told, taken, htake]
    dsimp only
    rw [hlog, List.drop_left]
  · rw [hgiven, hyielded, Taken.delivered?, taken, htake]
    rcases r with f | _ | m | _ <;> rfl
  · rw [hgiven, taken, htake]
    exact .of_counts hstream hcounts'
  · intro h
    rw [taken, htake]
    exact ⟨stream', hstream, hended (hstops.mp h)⟩

theorem counted_of_not_asks {c : Consumer} (hs : s.handle = .consumer c)
    (h : Counted i s.streams ps) {m : Move} (hm : (s.taken L.recorded fuel m).asks i = false) :
    Counted i (s.take L.recorded fuel m).2.streams ps := by
  cases m with
  | operate byHost op =>
    rcases take_operate_consumer L.recorded fuel hs byHost op with ⟨d, -, htake⟩ | ⟨-, r, htake, -⟩
    · rw [htake]
      exact h
    · rw [htake]
      exact h
  | stream timeout stop =>
    simp only [take, hs]
    exact h.concat ⟨rfl, rfl⟩
  | next j =>
    have hij : j ≠ i := by simpa [taken, Taken.asks] using hm
    simp only [take, hs]
    cases hj : s.streams[j]? with
    | none => exact h
    | some other => exact h.congr (List.getElem?_set_ne hij)
  | giveUp j => exact h.modify j fun stream hstream => ⟨hstream.polls, hstream.messages⟩
  | setStop flag => exact h

/-- What is known of a stream of a consumer, given the moves so far. -/
structure Telling (i : Nat) (past : List (Taken (σ × List Exchange)))
    (s : Scene (σ × List Exchange)) : Prop where
  handle : ∃ c, s.handle = .consumer c
  told : Stream.told i past = (lines [] (Stream.given i past) ++
    stopLine (Stream.given i past) (Stream.halted i past)).map Line.record
  yielded : Stream.yielded i past = messagesIn (Stream.given i past)
  counted : Counted i s.streams (Stream.given i past)
  ended : Stream.halted i past → ∃ stream, s.streams[i]? = some stream ∧ stream.status = .ended

variable {past : List (Taken (σ × List Exchange))}

/-- Asking the stream tells what its polls give now. -/
theorem Telling.tells (fuel : Nat) (h : Telling i past s) :
    (s.taken L.recorded fuel (.next i)).Tells i (Stream.given i past) := by
  obtain ⟨c, hs⟩ := h.handle
  cases hi : s.streams[i]? with
  | none =>
    have htake : s.take L.recorded fuel (.next i) = (.ok .nothing, s) := by
      simp only [take, hs, hi]
    exact tells_of_still h.counted htake rfl (by simp [taken, Taken.stops, hi])
  | some stream =>
    cases hstatus : stream.status with
    | ended =>
      exact tells_of_still h.counted (take_next_ended hs hi hstatus) rfl
        (by simp [taken, Taken.stops, hi, hstatus])
    | suspended => exact tells_of_suspended hs hi (h.counted.counts stream hi) hstatus

/-- Once the stream has come to its end at the stop flag, it makes no more polls. -/
theorem Telling.quiet (fuel : Nat) (h : Telling i past s) (hhalted : Stream.halted i past = true) :
    (s.taken L.recorded fuel (.next i)).given = [] ∧
      (s.taken L.recorded fuel (.next i)).stops i = false := by
  obtain ⟨c, hs⟩ := h.handle
  obtain ⟨stream, hi, hended⟩ := h.ended hhalted
  have htake : s.take L.recorded fuel (.next i) = (.ok .finished, s) :=
    take_next_ended hs hi hended
  constructor
  · simp [Taken.given, taken, htake]
  · simp [Taken.stops, taken, hi, hended]

theorem Telling.next (fuel : Nat) (h : Telling i past s) (m : Move) :
    Telling i (past ++ [s.taken L.recorded fuel m]) (s.taken L.recorded fuel m).after := by
  obtain ⟨c, hs⟩ := h.handle
  have hkept : Stream.halted i past → ∃ stream,
      (s.taken L.recorded fuel m).after.streams[i]? = some stream ∧ stream.status = .ended := by
    intro hhalted
    obtain ⟨stream, hi, hended⟩ := h.ended hhalted
    exact take_ended hs hi hended m
  cases hm : (s.taken L.recorded fuel m).asks i with
  | false =>
    obtain ⟨hgiven, htold, hyielded, hhalted⟩ := Stream.snoc_of_not_asks past hm
    refine ⟨take_handle_consumer hs m, ?_, ?_, ?_, ?_⟩
    · rw [htold, hgiven, hhalted, h.told]
    · rw [hyielded, hgiven, h.yielded]
    · rw [hgiven]
      exact counted_of_not_asks hs h.counted hm
    · rw [hhalted]
      exact hkept
  | true =>
    obtain rfl : m = .next i := by
      cases m with
      | next j => simpa [taken, Taken.asks] using hm
      | _ => cases hm
    have htells := h.tells (L := L) fuel
    refine ⟨take_handle_consumer hs _, ?_, ?_, ?_, ?_⟩
    · rw [Stream.told_snoc hm, Stream.given_snoc hm, Stream.halted_snoc, htells.told, h.told,
        ← List.map_append]
      congr 1
      rw [Stream.lines_append, List.nil_append]
      cases hpast : Stream.halted i past with
      | false => simp [stopLine]
      | true =>
        obtain ⟨hnone, hstops⟩ := h.quiet (L := L) fuel hpast
        rw [hnone, hstops]
        simp [stopLine, lines]
    · rw [Stream.yielded_snoc hm, Stream.given_snoc hm, h.yielded, htells.delivered,
        Stream.messagesIn_append]
    · rw [Stream.given_snoc hm]
      exact htells.counted
    · rw [Stream.halted_snoc]
      intro heither
      rcases Bool.or_eq_true_iff.mp heither with hpast | hnow
      · exact hkept hpast
      · exact htells.ended hnow

/-- It is known at every point of every run with the consumer. -/
theorem telling (L : Library σ) (fuel : Nat) (c : Consumer) (w : World (σ × List Exchange))
    (moves : List Move) (i : Nat) :
    let s : Scene _ := { handle := .consumer c, world := w }
    Telling i (s.trace L.recorded fuel moves) (s.run L.recorded fuel moves) := by
  intro s
  have hstart : Telling i [] s :=
    ⟨⟨c, rfl⟩, rfl, rfl, ⟨nofun, fun _ => rfl⟩, nofun⟩
  exact run_invariant (I := Telling i) (fun past m s h => Telling.next fuel h m) hstart moves

end Scene

/-- At every point of every run with a consumer, the log tells of each of its streams what the polls
of that stream have given so far: the messages by their numbers, the progress at each tenth poll
that has given no message, and all polls and messages at the end. Where a move has one round only,
every poll has a point of its own. -/
theorem Consumer.streams_tell_of_their_polls (L : Library σ) (fuel : Nat) (c : Consumer)
    (w : World (σ × List Exchange)) (moves : List Move) (i : Nat) :
    let past := ({ handle := .consumer c, world := w } : Scene _).trace L.recorded fuel moves
    ∃ ls : List Line, Stream.told i past = ls.map Line.record ∧
      Stream.Accounts (Stream.given i past) (Stream.halted i past) ls ∧
      Stream.yielded i past = messagesIn (Stream.given i past) := by
  intro past
  have htelling := Scene.telling L fuel c w moves i
  exact ⟨_, htelling.told, Stream.accounts _ _, htelling.yielded⟩

/-- A message on the tenth poll: ten polls are made, and no progress is told of. -/
theorem Consumer.tenth_poll_with_message_is_not_progress :
    let message : Message := ⟨none, some [], "jobs", 0, 7⟩
    let s : Scene (List (Option Message) × List Exchange) :=
      { handle := .consumer ⟨some 0, some .assign, .latest, false⟩
        world := { library := (List.replicate 9 none ++ [some message], []) } }
    let past := s.trace Library.queue.recorded 10 [.stream .none none, .next 0]
    (Stream.given 0 past).length = 10 ∧ messagesIn (Stream.given 0 past) = [message] ∧
      Stream.told 0 past = [(Line.message 1 message).record] ∧
      (Line.progress 10 1).record ∉ Stream.told 0 past := by
  intro message s past
  have hgiven : Stream.given 0 past = List.replicate 9 none ++ [some (.message message)] := by
    decide +kernel
  have hhalted : Stream.halted 0 past = false := by decide +kernel
  have htold : Stream.told 0 past = [(Line.message 1 message).record] := by
    rw [(Scene.telling Library.queue 10 _ s.world _ 0).told, hgiven, hhalted]
    rfl
  refine ⟨?_, ?_, htold, ?_⟩
  · rw [hgiven]
    rfl
  · rw [hgiven]
    rfl
  · rw [htold, List.mem_singleton]
    intro h
    have htext : Stream.progressText 10 1 = Stream.messageText 1 message :=
      Except.ok.inj (congrArg LogRecord.text h)
    revert htext
    decide +kernel

end KafkaHandles
