import KafkaHandles.Proofs.Consumer.Answers
import KafkaHandles.Proofs.Producer.Progress
import KafkaHandles.Proofs.Text.Utf8
import KafkaHandles.Scripted.Client

/-!
# Text in messages

A text that is sent as a key or as a value goes into the client's queue in UTF-8, and a message that
is read with those bytes has that text again. Bytes that are not the UTF-8 of any text have no text.
-/

namespace KafkaHandles

variable {σ : Type} {L : Library σ}

/-! ## What is put into the queue -/

namespace Check

theorem bytesOrNone_isSome {v : Value} {parameter : String} {bs : Option Bytes}
    (h : bytesOrNone v parameter = .ok bs) (hv : v.isNone = false) : bs.isSome := by
  cases v <;> cases hv <;> cases h <;> rfl

end Check

namespace Outgoing

variable {topic value key partition : Value} {m : Outgoing}

/-- The partition of a message, as its sender gives it. -/
def partitionOf (partition : Value) : Except Fault (Option Int) :=
  match partition with
  | .none => .ok none
  | p => (Check.natural p "partition").map some

theorem check_eq : check topic value key partition =
    (Check.text topic "topic" >>= fun topic =>
      if value.isNone then .error (.refused .valueMissing)
      else
        Check.bytesOrNone value "value" >>= fun value =>
        Check.bytesOrNone key "key" >>= fun key =>
        partitionOf partition >>= fun partition =>
        .ok { topic, value := bytesOrAbsent value, key := bytesOrAbsent key, partition }) := by
  cases partition <;> rfl

theorem check_ok : check topic value key partition = .ok m ↔
    ∃ t v k p, Check.text topic "topic" = .ok t ∧ Check.bytesOrNone value "value" = .ok (some v) ∧
      Check.bytesOrNone key "key" = .ok k ∧ partitionOf partition = .ok p ∧
      m = ⟨t, .bytes v, bytesOrAbsent k, p⟩ := by
  rw [check_eq]
  constructor
  · intro h
    obtain ⟨t, ht, h⟩ := Check.bind_ok.mp h
    split at h
    · cases h
    · rename_i hvalue
      obtain ⟨v, hv, h⟩ := Check.bind_ok.mp h
      obtain ⟨k, hk, h⟩ := Check.bind_ok.mp h
      obtain ⟨p, hp, h⟩ := Check.bind_ok.mp h
      obtain ⟨bs, rfl⟩ := Option.isSome_iff_exists.mp
        (Check.bytesOrNone_isSome hv (Bool.eq_false_iff.mpr hvalue))
      cases h
      exact ⟨t, bs, k, p, ht, hv, hk, hp, rfl⟩
  · rintro ⟨t, v, k, p, ht, hv, hk, hp, rfl⟩
    have hvalue : ¬value.isNone := by
      intro hnone
      cases value <;> cases hnone
      cases hv
    refine Check.bind_ok.mpr ⟨t, ht, ?_⟩
    rw [if_neg hvalue]
    exact Check.bind_ok.mpr ⟨_, hv, Check.bind_ok.mpr ⟨_, hk, Check.bind_ok.mpr ⟨_, hp, rfl⟩⟩⟩

/-- Any text may stand in the place of a value or of a key. -/
theorem check_text (h : check topic value key partition = .ok m) (s : String) :
    check topic (.text s) key partition = .ok { m with value := .bytes (Utf8.ofText s) } ∧
      check topic value (.text s) partition = .ok { m with key := .bytes (Utf8.ofText s) } := by
  obtain ⟨t, v, k, p, ht, hv, hk, hp, rfl⟩ := check_ok.mp h
  exact ⟨check_ok.mpr ⟨t, _, k, p, ht, rfl, hk, hp, rfl⟩,
    check_ok.mpr ⟨t, v, some _, p, ht, hv, rfl, hp, rfl⟩⟩

end Outgoing

theorem Producer.send_calls {p : Producer} {id : ClientId} (hopen : p.client = some id)
    {topic value key partition : Value} {m : Outgoing}
    (hm : Outgoing.check topic value key partition = .ok m) (fuel : Nat) (w : World σ) :
    ∃ rest, (send L (fuel + 1) topic value key partition (p, w)).2.2.calls =
        w.calls ++ (id, .produce m (some w.waiters.length)) :: rest ∧
      ∀ e ∈ rest, e.1 = id ∧ e.2.isServing := by
  rw [send_open hopen hm]
  exact Send.run_calls fuel id m w

/-! ## What is read -/

theorem Consumer.poll_message {c : Consumer} {id : ClientId} (hopen : c.client = some id)
    {timeout : Value} {seconds : Option Binary64}
    (htimeout : Check.timeout timeout "timeout" = .ok seconds) {f : Fetched} {w u : World σ}
    (hpoll : World.invoke L id (.pollMessage (waitFor seconds)) w = (.ok (some f), u))
    (hdata : f.error = none) {key value : Option Bytes} (hkey : f.key = bytesOrAbsent key)
    (hvalue : f.value = bytesOrAbsent value) :
    poll L timeout (c, w) =
      (.ok (some (.message ⟨key, value, f.topic, f.partition, f.offset⟩)), (c, u)) := by
  rw [poll_apply, hopen]
  simp only [openClient, htimeout, hpoll, classify, hdata, hkey, hvalue, checkBytes_bytesOrAbsent]
  rfl

namespace Message

/-- What reading bytes comes to: the text whose bytes they are, or a fault if they are those of no
text. -/
def Reads (bs : Bytes) (r : Except Fault (Option String)) : Prop :=
  (∃ s, Utf8.ofText s = bs ∧ r = .ok (some s)) ∨
    (∀ s, Utf8.ofText s ≠ bs) ∧ ∃ flaw, r = .error (.undecodable flaw)

theorem textOf_ofText (s : String) : textOf (some (Utf8.ofText s)) = .ok (some s) := by
  rw [textOf, Utf8.toText_eq_ok.mpr rfl]

theorem textOf_reads (bs : Bytes) : Reads bs (textOf (some bs)) := by
  rcases h : Utf8.toText bs with flaw | s
  · refine Or.inr ⟨?_, flaw, by rw [textOf, h]⟩
    intro s hs
    rw [Utf8.toText_eq_ok.mpr hs] at h
    cases h
  · exact Or.inl ⟨s, Utf8.toText_eq_ok.mp h, by rw [textOf, h]⟩

theorem reads {m : Message} {bs : Bytes} :
    (m.key = some bs → Reads bs m.keyText) ∧ (m.value = some bs → Reads bs m.valueText) := by
  constructor
  · intro h
    rw [keyText, h]
    exact textOf_reads bs
  · intro h
    rw [valueText, h]
    exact textOf_reads bs

end Message

theorem Utf8.ofText_injective : Function.Injective ofText := by
  intro s t h
  have hs : toText (ofText t) = .ok s := toText_eq_ok.mpr h
  rw [toText_eq_ok.mpr rfl] at hs
  exact (Except.ok.inj hs).symm

/-- Any text passes as a value and as a key, and goes into the client's queue as its UTF-8. A
message that is fetched with what went into the queue has that text. Other bytes than the UTF-8 of a
text have no text, and different texts have different bytes. -/
theorem Message.text_sent_is_text_read (L : Library σ) :
    (∀ (p : Producer) id, p.client = some id → ∀ (c : Consumer) id', c.client = some id' →
      ∀ topic value key partition m, Outgoing.check topic value key partition = .ok m →
        (∀ s,
          Outgoing.check topic (.text s) key partition =
            .ok { m with value := .bytes (Utf8.ofText s) } ∧
          Outgoing.check topic value (.text s) partition =
            .ok { m with key := .bytes (Utf8.ofText s) }) ∧
        (∀ fuel w, ∃ rest,
          (Producer.send L (fuel + 1) topic value key partition (p, w)).2.2.calls =
            w.calls ++ (id, .produce m (some w.waiters.length)) :: rest ∧
          ∀ e ∈ rest, e.1 = id ∧ e.2.isServing) ∧
        ∀ timeout seconds, Check.timeout timeout "timeout" = .ok seconds → ∀ w f u,
          World.invoke L id' (.pollMessage (Consumer.waitFor seconds)) w = (.ok (some f), u) →
          f.error = none → f.key = m.key → f.value = m.value →
          ∃ read : Message,
            Consumer.poll L timeout (c, w) = (.ok (some (.message read)), (c, u)) ∧
            (∀ s, value = .text s → read.valueText = .ok (some s)) ∧
            ∀ s, key = .text s → read.keyText = .ok (some s)) ∧
    (∀ (m : Message) bs,
      (m.key = some bs → Reads bs m.keyText) ∧ (m.value = some bs → Reads bs m.valueText)) ∧
    Function.Injective Utf8.ofText ∧
    ∀ s, Utf8.ofText s = s.toUTF8.data.toList := by
  refine ⟨?_, fun m bs => reads, Utf8.ofText_injective, Utf8.ofText_eq⟩
  intro p id hp c id' hc topic value key partition m hm
  refine ⟨Outgoing.check_text hm, Producer.send_calls hp hm, ?_⟩
  intro timeout seconds htimeout w f u hpoll hdata hkey hvalue
  obtain ⟨t, v, k, q, -, hv, hk, -, rfl⟩ := Outgoing.check_ok.mp hm
  have hvalue : f.value = bytesOrAbsent (some v) := hvalue
  refine ⟨_, Consumer.poll_message hc htimeout hpoll hdata hkey hvalue, ?_, ?_⟩
  · rintro s rfl
    obtain rfl : Utf8.ofText s = v := Option.some.inj (Except.ok.inj hv)
    exact textOf_ofText s
  · rintro s rfl
    obtain rfl : some (Utf8.ofText s) = k := Except.ok.inj hk
    exact textOf_ofText s

/-- A message that a scripted consumer reads with the key and the value that a scripted producer
sends. -/
theorem Message.scripted_text_is_read :
    let fetched : Fetched :=
      ⟨"jobs", 0, 0, .bytes (Utf8.ofText "Jämtland"), .bytes (Utf8.ofText "日本"), none⟩
    let sender : ScriptedClient := { label := "p", role := .producer, script := {} }
    let reader : ScriptedClient :=
      { label := "c", role := .consumer, script := { polls := [{ message := some fetched }] } }
    let w : World Scripted := { library := { clients := [sender, reader] } }
    ∃ read : Message,
      (Consumer.poll Scripted.library .none (⟨some 1, some .assign, .latest, false⟩, w)).1 =
        .ok (some (.message read)) ∧
      read.keyText = .ok (some "Jämtland") ∧ read.valueText = .ok (some "日本") := by
  intro fetched sender reader w
  obtain ⟨htrip, -⟩ := text_sent_is_text_read Scripted.library
  obtain ⟨-, -, hpolled⟩ := htrip ⟨some 0⟩ 0 rfl ⟨some 1, some .assign, .latest, false⟩ 1 rfl
    (.text "jobs") (.text "日本") (.text "Jämtland") .none _ rfl
  obtain ⟨read, hread, hvalue, hkey⟩ := hpolled .none none rfl w fetched _ rfl rfl rfl rfl
  exact ⟨read, congrArg Prod.fst hread, hkey _ rfl, hvalue _ rfl⟩

end KafkaHandles
