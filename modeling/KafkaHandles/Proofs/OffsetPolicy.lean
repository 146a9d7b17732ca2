import KafkaHandles.OffsetPolicy
import KafkaHandles.Proofs.Text.Case
import KafkaHandles.Proofs.Text.Pieces
import KafkaHandles.Proofs.Value.Text

/-!
# The texts that name an offset policy

A text names a policy if it is the policy's word in any case of its ASCII letters, with blanks around
it. The lower case of all scripts accepts no other letters, because none of those in the two words is
the lower case of a character outside ASCII.
-/

namespace KafkaHandles

theorem Text.isBlank_of_isAlpha {c : Char} (h : c.isAlpha = true) : isBlank c = false := by
  simp only [Char.isAlpha, Char.isUpper, Char.isLower, Bool.or_eq_true, decide_eq_true_eq,
    Bool.and_eq_true, ge_iff_le, UInt32.le_iff_toNat_le, Char.toNat_val] at h
  simp only [isBlank, Bool.or_eq_false_iff, Bool.and_eq_false_iff, decide_eq_false_iff_not,
    beq_eq_false_iff_ne, ne_eq]
  change (65 ≤ c.toNat ∧ c.toNat ≤ 90) ∨ (97 ≤ c.toNat ∧ c.toNat ≤ 122) at h
  omega

namespace OffsetPolicy

open Text (isBlank)

/-- A text that is a word in any case of its ASCII letters, with blanks around it. -/
def Spells (s word : String) : Prop :=
  ∃ before letters after, s.toList = before ++ letters ++ after ∧
    (∀ c ∈ before, isBlank c = true) ∧ (∀ c ∈ after, isBlank c = true) ∧
    letters.map Char.toLower = word.toList

/-- A value that stands for a policy. -/
inductive Names : Value → OffsetPolicy → Prop
  | absent : Names .none .latest
  | policy (p : OffsetPolicy) : Names (.policy p) p
  | text {s : String} {p : OffsetPolicy} (h : Spells s p.word) : Names (.text s) p

variable {s : String} {p : OffsetPolicy} {v : Value}

/-! ## Words -/

theorem word_letters : ∀ c ∈ p.word.toList, c.isLower = true ∧ c ≠ 'k' := by
  cases p <;> simp [word]

/-- What spells a policy is made of ASCII letters. -/
theorem isAlpha_of_toLower {letters : List Char} (h : letters.map Char.toLower = p.word.toList) :
    ∀ c ∈ letters, c.isAlpha = true := by
  intro c hc
  have hword : c.toLower ∈ p.word.toList := h ▸ List.mem_map_of_mem hc
  rw [← Char.isLower_toLower_eq_isAlpha]
  exact (word_letters _ hword).1

theorem spells_iff :
    Spells s p.word ↔ Text.lowerChars (Text.stripChars s.toList) = p.word.toList := by
  rw [Text.lowerChars_eq_iff word_letters]
  constructor
  · rintro ⟨before, letters, after, hs, hbefore, hafter, hletters⟩
    have hkept : ∀ c ∈ letters, isBlank c = false :=
      fun c hc => Text.isBlank_of_isAlpha (isAlpha_of_toLower hletters c hc)
    rw [hs, Text.stripChars_padded hbefore hafter hkept, hletters]
  · intro h
    obtain ⟨before, after, hs, hbefore, hafter⟩ := Text.stripChars_spec s.toList
    exact ⟨before, _, after, hs, hbefore, hafter, h⟩

theorem Spells.characters (h : Spells s p.word) :
    ∀ c ∈ s.toList, isBlank c = true ∨ c.isAlpha = true := by
  obtain ⟨before, letters, after, hs, hbefore, hafter, hletters⟩ := h
  intro c hc
  rw [hs, List.mem_append, List.mem_append] at hc
  rcases hc with (hc | hc) | hc
  · exact Or.inl (hbefore c hc)
  · exact Or.inr (isAlpha_of_toLower hletters c hc)
  · exact Or.inl (hafter c hc)

/-! ## Parsing -/

theorem ofText?_eq_some : ofText? s = some p ↔ Spells s p.word := by
  rw [spells_iff]
  constructor
  · intro h
    have hfound := List.find?_some h
    exact beq_iff_eq.mp hfound
  · intro h
    unfold ofText?
    rw [h]
    cases p <;> rfl

theorem parse_eq_ok : parse v = .ok p ↔ Names v p := by
  constructor
  · intro h
    unfold parse at h
    split at h
    · cases h
      exact .absent
    · cases h
      exact .policy p
    · split at h
      · rename_i hs
        cases h
        exact .text (ofText?_eq_some.mp hs)
      · cases h
    · cases h
  · intro h
    cases h with
    | absent => rfl
    | policy p => rfl
    | text h => simp only [parse, ofText?_eq_some.mpr h]

/-- What names no policy is refused with its text, if it has one. -/
theorem unknown_of_hasText (h : v.HasText) :
    ∃ s, v.shown = .ok s ∧ unknown v = .refused (.policyUnknown s) := by
  obtain ⟨s, hs⟩ := h.shown
  exact ⟨s, hs, by simp only [unknown, hs]⟩

theorem unknown_of_not_hasText (h : ¬v.HasText) :
    ∃ flaw, v.shown = .error flaw ∧ unknown v = .untold flaw := by
  obtain ⟨flaw, hflaw⟩ := Value.shown_error h
  exact ⟨flaw, hflaw, by simp only [unknown, hflaw]⟩

theorem parse_error {f : Fault} (h : parse v = .error f) : f = unknown v := by
  unfold parse at h
  split at h
  · cases h
  · cases h
  · split at h
    · cases h
    · cases h
      rfl
  · cases h
    rfl

theorem parse_of_not_names (h : ∀ p, ¬Names v p) : parse v = .error (unknown v) := by
  cases hparse : parse v with
  | error f => rw [parse_error hparse]
  | ok p => exact absurd (parse_eq_ok.mp hparse) (h p)

/-- A value that names no policy is refused, unless it cannot be shown. -/
theorem parse_fails {f : Fault} (h : parse v = .error f) :
    (∃ r, f = .refused r) ∨ ∃ flaw, v.shown = .error flaw ∧ f = .untold flaw := by
  rw [parse_error h]
  by_cases htext : v.HasText
  · obtain ⟨s, -, hunknown⟩ := unknown_of_hasText htext
    exact Or.inl ⟨_, hunknown⟩
  · exact Or.inr (unknown_of_not_hasText htext)

theorem parse_digitBound : parse (.int Text.digitBound) = .error (.untold .digitsTooMany) := by
  have hnone : ∀ p, ¬Names (.int Text.digitBound) p := by
    intro p hp
    cases hp
  rw [parse_of_not_names hnone, unknown, Value.shown_digitBound]

/-- A value that stands for a policy has a text. -/
theorem Names.hasText (h : Names v p) : v.HasText := by
  cases h with
  | absent => exact .of_shown rfl
  | policy p => exact .of_shown rfl
  | text h => exact .text _

/-- A value is taken for a policy exactly if it stands for one. Every other value that has a text is
refused with it, as every other string is, and a value without a text ends in what keeps it from
having one. The word of a policy gives it back in any case and with any blanks around it, and no
characters but blanks and ASCII letters are accepted in a text. -/
theorem spelled_words_are_parsed (v : Value) (s : String) :
    (∀ p, parse v = .ok p ↔ Names v p) ∧
    ((∀ p, ¬Names v p) → v.HasText →
      ∃ text, v.shown = .ok text ∧ parse v = .error (.refused (.policyUnknown text))) ∧
    (¬v.HasText → ∃ flaw, v.shown = .error flaw ∧ parse v = .error (.untold flaw)) ∧
    ((∀ p : OffsetPolicy, ¬Spells s p.word) →
      parse (.text s) = .error (.refused (.policyUnknown (Text.Quoted.text s)))) ∧
    (∀ p, parse v = .ok p → Spells s p.word → parse (.text s) = .ok p) ∧
    ∀ p, parse (.text s) = .ok p → ∀ c ∈ s.toList, isBlank c = true ∨ c.isAlpha = true := by
  refine ⟨fun p => parse_eq_ok, fun hnone htext => ?_, fun htext => ?_, fun hnone => ?_,
    fun p _ hs => parse_eq_ok.mpr (.text hs), fun p h => ?_⟩
  · obtain ⟨text, hshown, hunknown⟩ := unknown_of_hasText htext
    exact ⟨text, hshown, by rw [parse_of_not_names hnone, hunknown]⟩
  · obtain ⟨flaw, hflaw, hunknown⟩ := unknown_of_not_hasText htext
    exact ⟨flaw, hflaw, by rw [parse_of_not_names fun p hp => htext hp.hasText, hunknown]⟩
  · rw [parse_of_not_names fun p hp => by cases hp with | text h => exact hnone p h]
    rfl
  · cases parse_eq_ok.mp h with
    | text h => exact h.characters

/-- A word in mixed case between blanks. -/
theorem padded_mixed_case_is_parsed :
    Spells "\tEARLiest " OffsetPolicy.earliest.word ∧
      parse (.text "\tEARLiest ") = .ok .earliest := by
  have hspells : Spells "\tEARLiest " OffsetPolicy.earliest.word :=
    ⟨['\t'], "EARLiest".toList, [' '], rfl, by simp [isBlank], by simp [isBlank], rfl⟩
  exact ⟨hspells,
    (spelled_words_are_parsed (.policy .earliest) _).2.2.2.2.1 .earliest rfl hspells⟩

/-- An integer with too many digits to be shown ends in a fault of another class than refusals. -/
theorem long_integer_is_not_refused :
    parse (.int Text.digitBound) = .error (.untold .digitsTooMany) ∧
      (Fault.untold .digitsTooMany).cls ≠ .validation :=
  ⟨parse_digitBound, by decide⟩

end OffsetPolicy

end KafkaHandles
