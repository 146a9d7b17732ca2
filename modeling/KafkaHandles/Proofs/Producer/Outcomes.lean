import KafkaHandles.Proofs.Producer.Steps
import KafkaHandles.Scripted.Client
import Mathlib.Data.List.TakeWhile

/-!
# Every sender gets its own outcome

Whatever order the threads of a team take their steps in, and whatever reports the client serves on
whichever thread, a sender ends with the first report on its own message. `Team.Inv` relates the
waiters, the messages in flight and the places of all threads to the history so far: the waiter of a
message that was handed over knows exactly the first report served on it since.
-/

namespace KafkaHandles

open World

variable {σ : Type} {L : Library σ}

/-! ## First reports -/

theorem Handed.append {t : Ticket} {h : List Moment} (hh : Handed t h) (h' : List Moment) :
    Handed t (h ++ h') := by
  obtain ⟨x, hx, hxt⟩ := hh
  exact ⟨x, List.mem_append_left _ hx, hxt⟩

theorem not_handed_nil (t : Ticket) : ¬ Handed t [] := by
  rintro ⟨x, hx, -⟩
  cases hx

theorem handed_snoc {t : Ticket} {h : List Moment} {x : Moment} :
    Handed t (h ++ [x]) ↔ Handed t h ∨ x.hands t = true := by
  constructor
  · rintro ⟨y, hy, hyt⟩
    rcases List.mem_append.mp hy with hy | hy
    · exact Or.inl ⟨y, hy, hyt⟩
    · rw [List.mem_singleton.mp hy] at hyt
      exact Or.inr hyt
  · rintro (hh | hx)
    · exact hh.append _
    · exact ⟨x, by simp, hx⟩

theorem handed_of_mem {x : Turn} {t : Ticket} {m : Outgoing} {h : List Moment}
    (hx : ⟨x, .handed t m⟩ ∈ h) : Handed t h :=
  ⟨_, hx, by simp [Moment.hands]⟩

theorem dropWhile_of_not_handed {t : Ticket} {h : List Moment} (hh : ¬ Handed t h) :
    (h.dropWhile fun x => !x.hands t) = [] := by
  rw [List.dropWhile_eq_nil_iff]
  intro x hx
  cases hxt : x.hands t with
  | true => exact absurd ⟨x, hx, hxt⟩ hh
  | false => rfl

theorem firstReport?_append {t : Ticket} {h : List Moment} {r : DeliveryReport}
    (hr : firstReport? t h = some r) (h' : List Moment) : firstReport? t (h ++ h') = some r := by
  unfold firstReport? at *
  rw [List.dropWhile_append]
  split
  · rename_i hnil
    rw [List.isEmpty_iff.mp hnil] at hr
    simp at hr
  · rw [List.filterMap_append, List.head?_append, hr]
    rfl

theorem firstReport?_snoc {t : Ticket} {h : List Moment} (hh : Handed t h) (x : Moment) :
    firstReport? t (h ++ [x]) = (firstReport? t h).or (x.report? t) := by
  unfold firstReport?
  have hne : (h.dropWhile fun x => !x.hands t) ≠ [] := by
    obtain ⟨y, hy, hyt⟩ := hh
    intro hnil
    have := List.dropWhile_eq_nil_iff.mp hnil y hy
    simp [hyt] at this
  rw [List.dropWhile_append, if_neg (by simpa using hne), List.filterMap_append,
    List.head?_append]
  cases hx : x.report? t <;> simp [hx]

/-- A message that is only just handed over has no report yet. -/
theorem firstReport?_hands {t : Ticket} {h : List Moment} {x : Moment} (hh : ¬ Handed t h)
    (hx : x.hands t = true) : firstReport? t (h ++ [x]) = none := by
  unfold firstReport?
  rw [List.dropWhile_append, dropWhile_of_not_handed hh]
  obtain ⟨turn, act⟩ := x
  cases act <;> simp_all [Moment.hands, Moment.report?]

/-! ## What moments promise -/

/-- What holds of a moment, given the moments before it. -/
structure Moment.Justified (before : List Moment) (x : Moment) : Prop where
  /-- A ticket is handed out once. -/
  fresh : ∀ t m, x.act = .handed t m → ¬ Handed t before
  /-- What a sender does about a message is about the message it has handed over itself. -/
  own : ∀ t, x.act.ticket? = some t → ∃ m, ⟨x.turn, .handed t m⟩ ∈ before
  /-- A send that returns gives the place in the first report on its message, a success. -/
  returns : ∀ t d, x.act = .collected t (.ok d) → ∃ r, firstReport? t before = some r ∧
    (r.error = none ∨ ∃ e, r.error = some e ∧ e.code = ErrorCode.success) ∧
    d = r.place.getD DeliveryReport.unknownPlace
  /-- A send that fails because of a report fails with the error of the first one on its message. -/
  fails : ∀ t f, x.act = .collected t (.error f) → ∃ r e, firstReport? t before = some r ∧
    r.error = some e ∧ e.code ≠ ErrorCode.success ∧ f = .broker e
  /-- A sender goes on waiting until there is a report on its message. -/
  patient : ∀ t, x.act = .looked t true → ∃ r, firstReport? t before = some r
  /-- Once there is a report on its message, a sender sees it whenever it looks. -/
  kept : ∀ t b r, x.act = .looked t b → firstReport? t before = some r → b = true

/-- What is known of a worker, given the history. -/
structure Worker.Inv (p : Producer) (i : Nat) (h : List Moment) (k : Worker) : Prop where
  client : ∀ s, k.current = some s → p.client = some s.client
  own : ∀ s t, k.current = some s → s.ticket? = some t → ⟨.worker i, .handed t s.message⟩ ∈ h
  sure : ∀ s t, k.current = some s → s.stage = .collecting t → ∃ r, firstReport? t h = some r
  ended : k.ended = h.filterMap (·.ended? i)

/-- What is known of the waiters, given the history: those from `first` on belong to the messages of
this team, and they know the first reports on them. -/
structure Waiters.Inv (first : Nat) (h : List Moment) (w : World σ) : Prop where
  first_le : first ≤ w.waiters.length
  handed_iff : ∀ t : Nat, Handed t h ↔ first ≤ t ∧ t < w.waiters.length
  known : ∀ t, Handed t h → (w.waiter t).report = firstReport? t h

/-- What is known of a team, given the history. -/
structure Team.Inv (first : Nat) (h : List Moment) (T : Team σ) : Prop where
  waiters : Waiters.Inv first h T.world
  worker : ∀ i k, T.crew.workers[i]? = some k → Worker.Inv T.crew.producer i h k
  asked : ∀ x t m, ⟨x, .handed t m⟩ ∈ h → ∃ id, T.crew.producer.client = some id ∧
    .called id (.produce m (some t)) ∈ T.world.journal
  justified : ∀ before x after, h = before ++ x :: after → x.Justified before

/-! ## Waiters -/

theorem World.waiter_append (w : World σ) (t : Nat) (ht : t < w.waiters.length) :
    ({ w with waiters := w.waiters ++ [.start] } : World σ).waiter t = w.waiter t := by
  simp [waiter, List.getElem?_append_left ht]

theorem World.waiter_resolve (w : World σ) (t x : Nat) (r : DeliveryReport)
    (ht : t < w.waiters.length) : ((w.resolve x r).waiter t).report =
      (w.waiter t).report.or (if x = t then some r else none) := by
  simp only [waiter, resolve, List.getD_eq_getElem?_getD, List.getElem?_modify,
    List.getElem?_eq_getElem ht]
  split
  · cases hw : w.waiters[t].report <;> simp [Waiter.resolve, hw]
  · simp

namespace Waiters.Inv

variable {first : Nat} {h : List Moment} {w u : World σ}

theorem congr (inv : Waiters.Inv first h w) (hu : u.waiters = w.waiters) :
    Waiters.Inv first h u where
  first_le := hu ▸ inv.first_le
  handed_iff := hu ▸ inv.handed_iff
  known t ht := by
    rw [← inv.known t ht]
    simp only [waiter, hu]

/-- A moment that neither hands a message over nor serves a report. -/
theorem silent {x : Moment} (inv : Waiters.Inv first h w) (hhands : ∀ t, x.hands t = false)
    (hreport : ∀ t, x.report? t = none) : Waiters.Inv first (h ++ [x]) w where
  first_le := inv.first_le
  handed_iff t := by rw [handed_snoc, inv.handed_iff t]; simp [hhands t]
  known t ht := by
    rw [handed_snoc] at ht
    have ht : Handed t h := ht.resolve_right (by simp [hhands t])
    rw [firstReport?_snoc ht, hreport t, Option.or_none, inv.known t ht]

/-- A message is handed over: its waiter is the next one, and knows nothing. -/
theorem hands (inv : Waiters.Inv first h w) (x : Turn) (m : Outgoing) :
    Waiters.Inv first (h ++ [⟨x, .handed w.waiters.length m⟩])
      { w with waiters := w.waiters ++ [.start] } where
  first_le := by simpa using Nat.le_succ_of_le inv.first_le
  handed_iff t := by
    have := inv.first_le
    have hx : (⟨x, .handed w.waiters.length m⟩ : Moment).hands t = true ↔
        w.waiters.length = t := by simp [Moment.hands]
    rw [handed_snoc, inv.handed_iff t, hx, List.length_append, List.length_singleton]
    omega
  known t ht := by
    by_cases hold : Handed t h
    · have hlt := ((inv.handed_iff t).mp hold).2
      rw [waiter_append w t hlt, firstReport?_snoc hold, inv.known t hold]
      simp [Moment.report?]
    · have hx := (handed_snoc.mp ht).resolve_left hold
      rw [firstReport?_hands hold hx]
      have hxt : w.waiters.length = t := by simpa [Moment.hands] using hx
      subst hxt
      simp [waiter, Waiter.start]

/-- A report is served: the waiter of its message takes it if it is the first. -/
theorem reports (inv : Waiters.Inv first h w) (turn : Turn) (x : Ticket) (r : DeliveryReport) :
    Waiters.Inv first (h ++ [⟨turn, .reported x r⟩]) (w.resolve x r) where
  first_le := by simpa [resolve] using inv.first_le
  handed_iff t := by
    rw [handed_snoc, inv.handed_iff t]
    simp [Moment.hands, resolve]
  known t ht := by
    have ht : Handed t h := (handed_snoc.mp ht).resolve_right (by simp [Moment.hands])
    rw [waiter_resolve w t x r ((inv.handed_iff t).mp ht).2, firstReport?_snoc ht, inv.known t ht]
    rfl

theorem step {x : Turn} {a : Option Act} (inv : Waiters.Inv first h w)
    (hu : u.waiters = Act.waitersAfter a w.waiters)
    (hfresh : ∀ t m, a = some (.handed t m) → t = w.waiters.length) :
    Waiters.Inv first (h ++ (a.map (Moment.mk x)).toList) u := by
  rcases a with _ | a
  · simpa using inv.congr hu
  cases a with
  | handed t m =>
    obtain rfl := hfresh t m rfl
    exact (inv.hands x m).congr hu
  | reported t r => exact (inv.reports x t r).congr hu
  | looked t b => exact (inv.silent (fun _ => rfl) fun _ => rfl).congr hu
  | collected t o => exact (inv.silent (fun _ => rfl) fun _ => rfl).congr hu
  | broken t f => exact (inv.silent (fun _ => rfl) fun _ => rfl).congr hu
  | refused f => exact (inv.silent (fun _ => rfl) fun _ => rfl).congr hu

end Waiters.Inv

/-! ## Outcomes of reports -/

theorem DeliveryReport.outcome_ok {r : DeliveryReport} {d : Receipt} (h : r.outcome = .ok d) :
    (r.error = none ∨ ∃ e, r.error = some e ∧ e.code = ErrorCode.success) ∧
      d = r.place.getD unknownPlace := by
  unfold outcome at h
  cases he : r.error with
  | none =>
    rw [he] at h
    cases h
    exact ⟨Or.inl rfl, rfl⟩
  | some e =>
    simp only [he] at h
    split at h
    · cases h
      exact ⟨Or.inr ⟨e, rfl, ‹_›⟩, rfl⟩
    · cases h

theorem DeliveryReport.outcome_error {r : DeliveryReport} {f : Fault} (h : r.outcome = .error f) :
    ∃ e, r.error = some e ∧ e.code ≠ ErrorCode.success ∧ f = .broker e := by
  unfold outcome at h
  cases he : r.error with
  | none =>
    rw [he] at h
    cases h
  | some e =>
    simp only [he] at h
    split at h
    · cases h
    · cases h
      exact ⟨e, rfl, ‹_›, rfl⟩

/-! ## Workers -/

namespace Worker.Inv

variable {first i : Nat} {p : Producer} {h : List Moment} {k l : Worker} {w u : World σ}
  {a : Option Act}

/-- What others do leaves what is known of a worker as it is. -/
theorem append (inv : Worker.Inv p i h k) {ms : List Moment}
    (hms : ∀ x ∈ ms, x.turn ≠ .worker i) : Worker.Inv p i (h ++ ms) k where
  client := inv.client
  own s t hs ht := List.mem_append_left _ (inv.own s t hs ht)
  sure s t hs ht := by
    obtain ⟨r, hr⟩ := inv.sure s t hs ht
    exact ⟨r, firstReport?_append hr ms⟩
  ended := by
    have hnone : ms.filterMap (·.ended? i) = [] := by
      rw [List.filterMap_eq_nil_iff]
      intro x hx
      simp [Moment.ended?, hms x hx]
    rw [List.filterMap_append, hnone, List.append_nil, inv.ended]

/-- A sender that is about to take the outcome out of its waiter finds the first report there. -/
theorem collects (inv : Worker.Inv p i h k) (winv : Waiters.Inv first h w) {s : Send} {t : Ticket}
    (hs : k.current = some s) (ht : s.stage = .collecting t) :
    ∃ r, firstReport? t h = some r ∧ (w.waiter t).receipt = r.outcome := by
  obtain ⟨r, hr⟩ := inv.sure s t hs ht
  have hhanded : Handed t h := handed_of_mem (inv.own s t hs (by simp [Send.ticket?, ht]))
  have hknown := winv.known t hhanded
  refine ⟨r, hr, ?_⟩
  rw [hr] at hknown
  simp only [Waiter.receipt, hknown]

/-- What a worker does is justified by what has been done before. -/
theorem justified (inv : Worker.Inv p i h k) (winv : Waiters.Inv first h w)
    (step : k.Stepped p w a l u) {b : Act} (hb : a = some b) :
    Moment.Justified h ⟨.worker i, b⟩ where
  fresh t m ht := by
    obtain ⟨rfl, -⟩ := step.handed t m (by rw [hb, ← ht])
    intro hhanded
    have := ((winv.handed_iff _).mp hhanded).2
    omega
  own t ht := by
    obtain ⟨s, hs, hst⟩ := step.own t (by rw [hb]; exact ht)
    exact ⟨s.message, inv.own s t hs hst⟩
  returns t d ht := by
    obtain ⟨⟨s, hs, hst⟩, hd⟩ := step.collected t _ (by rw [hb, ← ht])
    obtain ⟨r, hr, hreceipt⟩ := inv.collects winv hs hst
    obtain ⟨herror, hplace⟩ := DeliveryReport.outcome_ok (hreceipt.symm.trans hd.symm)
    exact ⟨r, hr, herror, hplace⟩
  fails t f ht := by
    obtain ⟨⟨s, hs, hst⟩, hf⟩ := step.collected t _ (by rw [hb, ← ht])
    obtain ⟨r, hr, hreceipt⟩ := inv.collects winv hs hst
    obtain ⟨e, he⟩ := DeliveryReport.outcome_error (hreceipt.symm.trans hf.symm)
    exact ⟨r, e, hr, he⟩
  patient t ht := by
    obtain rfl : b = .looked t true := ht
    have hdone := step.looked t true hb
    obtain ⟨s, hs, hst⟩ := step.own t (by rw [hb]; rfl)
    have hknown := winv.known t (handed_of_mem (inv.own s t hs hst))
    rw [Waiter.isDone, hknown] at hdone
    exact Option.isSome_iff_exists.mp hdone.symm
  kept t c r ht hr := by
    obtain rfl : b = .looked t c := ht
    have hdone := step.looked t c hb
    obtain ⟨s, hs, hst⟩ := step.own t (by rw [hb]; rfl)
    have hknown := winv.known t (handed_of_mem (inv.own s t hs hst))
    simp [hdone, Waiter.isDone, hknown, hr]

/-- A worker's own step keeps what is known of it. -/
theorem step (inv : Worker.Inv p i h k) (winv : Waiters.Inv first h w)
    (step : k.Stepped p w a l u) :
    Worker.Inv p i (h ++ (a.map (Moment.mk (.worker i))).toList) l where
  client s hs := by
    rcases step.client s hs with hp | ⟨s', hs', hsame⟩
    · exact hp
    · rw [← hsame]
      exact inv.client s' hs'
  own s t hs ht := by
    rcases step.kept s t hs ht with ha | ⟨s', hs', hm, hs't⟩
    · simp [ha]
    · rw [← hm]
      exact List.mem_append_left _ (inv.own s' t hs' hs't)
  sure s t hs ht := by
    have ha := step.collecting s t hs ht
    obtain ⟨r, hr⟩ := (inv.justified winv step ha).patient t rfl
    exact ⟨r, firstReport?_append hr _⟩
  ended := by
    rw [step.ended i, inv.ended, List.filterMap_append]
    cases a with
    | none => simp
    | some b => cases hb : Moment.ended? i ⟨.worker i, b⟩ <;> simp [hb]

end Worker.Inv

/-! ## Teams -/

namespace Team

/-- The first moment of an addition is justified by all that came before it. -/
theorem justified_snoc {h : List Moment} {ms : Option Moment}
    (hh : ∀ before x after, h = before ++ x :: after → x.Justified before)
    (hms : ∀ x, ms = some x → x.Justified h) :
    ∀ before x after, h ++ ms.toList = before ++ x :: after → x.Justified before := by
  intro before x after hsplit
  cases ms with
  | none => exact hh before x after (by simpa using hsplit)
  | some m =>
    rcases List.eq_nil_or_concat after with rfl | ⟨after, y, rfl⟩
    · obtain ⟨rfl, hx⟩ := List.append_inj' (hsplit : h ++ [m] = before ++ [x]) rfl
      cases hx
      exact hms _ rfl
    · rw [List.concat_eq_append, ← List.cons_append, ← List.append_assoc] at hsplit
      exact hh before x after (List.append_inj' (hsplit : h ++ [m] = _ ++ [y]) rfl).1

theorem step_producer (x : Turn) (T : Team σ) :
    (T.step L x).crew.producer = T.crew.producer := by
  cases x with
  | worker i =>
    simp only [step, Crew.step]
    split <;> rfl
  | flush j =>
    simp only [step]
    split <;> rfl

theorem run_producer (turns : List Turn) (T : Team σ) :
    (run L turns T).crew.producer = T.crew.producer := by
  induction turns generalizing T with
  | nil => rfl
  | cons x xs ih => exact (ih (T.step L x)).trans (step_producer x T)

theorem inv_gather (p : Producer) (todos : List (List SendArguments)) (flushes : List Flush)
    (w : World σ) : Inv w.waiters.length [] (gather p todos flushes w) where
  waiters := {
    first_le := Nat.le_refl _
    handed_iff := fun t => ⟨fun h => absurd h (not_handed_nil t),
      fun ⟨hle, hlt⟩ => absurd hlt (Nat.not_lt.mpr hle)⟩
    known := fun t h => absurd h (not_handed_nil t) }
  worker i k hk := by
    simp only [gather, List.getElem?_map, Option.map_eq_some_iff] at hk
    obtain ⟨todo, -, rfl⟩ := hk
    exact {
      client := fun _ h => by cases h
      own := fun _ _ h => by cases h
      sure := fun _ _ h => by cases h
      ended := rfl }
  asked _ _ _ h := by cases h
  justified before x after h := by simp at h

variable {first : Nat} {h : List Moment} {T : Team σ}

/-- What is known of the calls that handed messages over, after a thread has done something more. -/
theorem asked_step {p : Producer} {w u : World σ} {a : Option Act} {turn : Turn}
    (hh : ∀ x t m, ⟨x, .handed t m⟩ ∈ h → ∃ id, p.client = some id ∧
      .called id (.produce m (some t)) ∈ w.journal)
    (hj : JournalGrows w u)
    (ha : ∀ t m, a = some (.handed t m) → ∃ id, p.client = some id ∧
      .called id (.produce m (some t)) ∈ u.journal)
    (x : Turn) (t : Ticket) (m : Outgoing)
    (hx : ⟨x, .handed t m⟩ ∈ h ++ (a.map (Moment.mk turn)).toList) :
    ∃ id, p.client = some id ∧ .called id (.produce m (some t)) ∈ u.journal := by
  rcases List.mem_append.mp hx with hx | hx
  · obtain ⟨id, hp, hcalled⟩ := hh x t m hx
    obtain ⟨more, hu, -⟩ := hj
    exact ⟨id, hp, by rw [hu]; exact List.mem_append_left _ hcalled⟩
  · rcases a with _ | a
    · cases hx
    · cases List.mem_singleton.mp hx
      exact ha t m rfl

/-- A worker's turn. -/
theorem Inv.step_worker (inv : Inv first h T) (i : Nat) :
    Inv first (h ++ (T.moment? (T.step L (.worker i)) (.worker i)).toList)
      (T.step L (.worker i)) := by
  cases hk : T.crew.workers[i]? with
  | none => simpa [step, Crew.step, moment?, hk] using inv
  | some k =>
    have hi := (List.getElem?_eq_some_iff.mp hk).1
    have hstep := k.step_stepped (L := L) T.crew.producer T.crew.world
    have kinv := inv.worker i k hk
    simp only [step, Crew.step, moment?, hk]
    rcases hl : k.step L T.crew.producer T.crew.world with ⟨l, u⟩
    rw [hl] at hstep
    simp only [List.getElem?_set_self hi]
    refine ⟨?_, fun j k' hk' => ?_, ?_, ?_⟩
    · exact inv.waiters.step hstep.waiters fun t m ha => (hstep.handed t m ha).1
    · by_cases hij : i = j
      · subst hij
        rw [List.getElem?_set_self hi] at hk'
        cases hk'
        exact kinv.step inv.waiters hstep
      · rw [List.getElem?_set_ne hij] at hk'
        refine (inv.worker j k' hk').append fun x hx => ?_
        obtain ⟨a, -, rfl⟩ := Option.map_eq_some_iff.mp (Option.mem_toList.mp hx)
        simpa using hij
    · refine asked_step inv.asked hstep.journal fun t m ha => ?_
      obtain ⟨-, s, hs, hcalled⟩ := hstep.handed t m ha
      exact ⟨s.client, kinv.client s hs, hcalled⟩
    · refine justified_snoc inv.justified fun x hx => ?_
      obtain ⟨a, ha, rfl⟩ := Option.map_eq_some_iff.mp hx
      exact kinv.justified inv.waiters hstep ha

/-- A report that is served needs no justification. -/
theorem justified_reported (turn : Turn) (t : Ticket) (r : DeliveryReport) :
    Moment.Justified h ⟨turn, .reported t r⟩ where
  fresh _ _ h := by cases h
  own _ h := by cases h
  returns _ _ h := by cases h
  fails _ _ h := by cases h
  patient _ h := by cases h
  kept _ _ _ h := by cases h

/-- A turn of a thread that flushes. -/
theorem Inv.step_flush (inv : Inv first h T) (j : Nat) :
    Inv first (h ++ (T.moment? (T.step L (.flush j)) (.flush j)).toList)
      (T.step L (.flush j)) := by
  cases hf : T.flushes[j]? with
  | none => simpa [step, moment?, hf] using inv
  | some f =>
    have hj := (List.getElem?_eq_some_iff.mp hf).1
    have hstep := f.step_stepped (L := L) T.crew.world
    simp only [step, moment?, hf]
    rcases hg : f.step L T.crew.world with ⟨g, u⟩
    rw [hg] at hstep
    simp only [List.getElem?_set_self hj]
    obtain ⟨hwaiters, hjournal, hreported⟩ := hstep
    refine ⟨?_, fun i k hk => ?_, ?_, ?_⟩
    · refine inv.waiters.step hwaiters fun t m ha => ?_
      obtain ⟨x, r, hr⟩ := hreported _ ha
      cases hr
    · refine (inv.worker i k hk).append fun x hx => ?_
      obtain ⟨a, -, rfl⟩ := Option.map_eq_some_iff.mp (Option.mem_toList.mp hx)
      simp
    · refine asked_step inv.asked hjournal fun t m ha => ?_
      obtain ⟨x, r, hr⟩ := hreported _ ha
      cases hr
    · refine justified_snoc inv.justified fun x hx => ?_
      obtain ⟨a, ha, rfl⟩ := Option.map_eq_some_iff.mp hx
      obtain ⟨t, r, rfl⟩ := hreported a ha
      exact justified_reported _ t r

theorem Inv.step (inv : Inv first h T) (x : Turn) :
    Inv first (h ++ (T.moment? (T.step L x) x).toList) (T.step L x) := by
  cases x with
  | worker i => exact inv.step_worker i
  | flush j => exact inv.step_flush j

theorem Inv.run (inv : Inv first h T) (turns : List Turn) :
    Inv first (h ++ history L turns T) (run L turns T) := by
  induction turns generalizing h T with
  | nil => simpa [history, Team.run] using inv
  | cons x xs ih =>
    have := ih (inv.step (L := L) x)
    rwa [List.append_assoc] at this

/-- However the threads of a team take turns and whatever the client reports, every moment of the
history is justified by what came before it: a send gives the first report on its own message, and
no report is lost. The workers' outcomes are those of the history, and every message that was handed
over was put into the queue of the producer's client. -/
theorem senders_get_their_own_outcomes (L : Library σ) (p : Producer)
    (todos : List (List SendArguments)) (flushes : List Flush) (w : World σ) (turns : List Turn) :
    let T := gather p todos flushes w
    let h := history L turns T
    (∀ before x after, h = before ++ x :: after → x.Justified before) ∧
    (∀ i k, (run L turns T).crew.workers[i]? = some k → k.ended = h.filterMap (·.ended? i)) ∧
    ∀ x t m, ⟨x, .handed t m⟩ ∈ h → ∃ id, p.client = some id ∧
      .called id (.produce m (some t)) ∈ (run L turns T).world.journal := by
  have inv := (inv_gather p todos flushes w).run (L := L) turns
  rw [List.nil_append] at inv
  refine ⟨inv.justified, fun i k hk => (inv.worker i k hk).ended, fun x t m hx => ?_⟩
  have hp : (run L turns (gather p todos flushes w)).crew.producer = p := run_producer turns _
  obtain ⟨id, hid, hcalled⟩ := inv.asked x t m hx
  exact ⟨id, hp ▸ hid, hcalled⟩

/-- Two workers hand their messages over, and the second serves the reports on both. Then each looks
and collects its own outcome. -/
theorem reports_reach_both_senders :
    let plans : List DeliveryPlan :=
      [{ partition := some 3, offset := some 7 }, { partition := some 4, offset := some 9 }]
    let client : ScriptedClient := { label := "p", role := .producer, script := { plans } }
    let w : World Scripted := { library := { clients := [client] }, rules := [none] }
    let message (b : UInt8) : SendArguments := ⟨.text "jobs", .bytes [b], .none, .none⟩
    let T := gather ⟨some 0⟩ [[message 118], [message 119]] [] w
    let turns := List.replicate 2 (.worker 0) ++ List.replicate 11 (.worker 1) ++
      List.replicate 5 (.worker 0)
    let h := history Scripted.library turns T
    let looks (t : Ticket) (x : Moment) : Bool := match x.act with
      | .looked t' true => t' == t
      | _ => false
    let served (t : Ticket) := h.filterMap fun x => (x.report? t).map (x.turn, ·)
    (∀ t ∈ [0, 1], h.countP (·.hands t) = 1 ∧ h.countP (looks t) = 1) ∧
    served 0 = [(.worker 1, ⟨none, some ⟨3, 7⟩⟩)] ∧
    served 1 = [(.worker 1, ⟨none, some ⟨4, 9⟩⟩)] ∧
    (∀ before x after, h = before ++ x :: after → x.Justified before) ∧
    (run Scripted.library turns T).crew.workers.map (fun k => k.ended.map Except.toOption) =
      [[some ⟨3, 7⟩], [some ⟨4, 9⟩]] := by
  intro plans client w message T turns h looks served
  obtain ⟨hjustified, hended, -⟩ := senders_get_their_own_outcomes Scripted.library ⟨some 0⟩
    [[message 118], [message 119]] [] w turns
  have hseen : ∀ t ∈ [0, 1], h.countP (·.hands t) = 1 ∧ h.countP (looks t) = 1 := by
    decide +kernel
  have hoccurs : (List.range 2).map (fun i => (h.filterMap (·.ended? i)).map Except.toOption) =
      [[some ⟨3, 7⟩], [some ⟨4, 9⟩]] := by
    decide +kernel
  have hcount : (run Scripted.library turns T).crew.workers.length = 2 := by decide +kernel
  refine ⟨hseen, by decide +kernel, by decide +kernel, hjustified, ?_⟩
  rw [← hoccurs]
  refine List.ext_getElem (by simp [hcount]) fun i hi _ => ?_
  simp only [List.getElem_map, List.getElem_range]
  rw [hended i _ (List.getElem?_eq_getElem (by simpa using hi))]

end Team

end KafkaHandles
