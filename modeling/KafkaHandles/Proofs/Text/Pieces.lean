import KafkaHandles.Text.Blank
import KafkaHandles.Text.Pieces
import Mathlib.Data.List.DropRight

/-!
# Blanks and separators

What is left of a text without the blanks around it, and the pieces of a text that commas or longer
separators separate. Cutting and joining at commas undo each other as long as no piece holds a comma
of its own; a longer separator cuts at its first occurrence, and then again what comes after it.
-/

namespace KafkaHandles.Text

/-! ## Blanks -/

/-- A text that holds a character that is not blank. -/
def NonBlank (s : String) : Prop := ∃ c ∈ s.toList, isBlank c = false

/-- A text that neither begins nor ends with a blank. -/
structure Trimmed (s : String) : Prop where
  first : ∀ c ∈ s.toList.head?, isBlank c = false
  last : ∀ c ∈ s.toList.getLast?, isBlank c = false

theorem stripChars_eq (cs : List Char) :
    stripChars cs = (cs.dropWhile isBlank).rdropWhile isBlank := rfl

/-- Only blanks are taken off. -/
theorem stripChars_spec (cs : List Char) :
    ∃ before after, cs = before ++ stripChars cs ++ after ∧
      (∀ c ∈ before, isBlank c = true) ∧ ∀ c ∈ after, isBlank c = true := by
  refine ⟨cs.takeWhile isBlank, ((cs.dropWhile isBlank).reverse.takeWhile isBlank).reverse, ?_,
    fun c => List.mem_takeWhile_imp, fun c hc => List.mem_takeWhile_imp (List.mem_reverse.mp hc)⟩
  have hback : stripChars cs ++ ((cs.dropWhile isBlank).reverse.takeWhile isBlank).reverse =
      cs.dropWhile isBlank := by
    rw [stripChars, ← List.reverse_append, List.takeWhile_append_dropWhile, List.reverse_reverse]
  rw [List.append_assoc, hback, List.takeWhile_append_dropWhile]

/-- Blanks around a text without any are taken off. -/
theorem stripChars_padded {before kept after : List Char} (hbefore : ∀ c ∈ before, isBlank c = true)
    (hafter : ∀ c ∈ after, isBlank c = true) (hkept : ∀ c ∈ kept, isBlank c = false) :
    stripChars (before ++ kept ++ after) = kept := by
  have hfront : (kept ++ after).dropWhile isBlank =
      if kept = [] then [] else kept ++ after := by
    cases kept with
    | nil => simpa using hafter
    | cons c kept => simp [hkept c]
  have hback : kept.reverse.dropWhile isBlank = kept.reverse := by
    rw [List.dropWhile_eq_self_iff]
    intro hlength hblank
    have hmem := List.mem_reverse.mp (List.getElem_mem hlength)
    rw [hkept _ hmem] at hblank
    cases hblank
  rw [stripChars, List.append_assoc, List.dropWhile_append_of_pos hbefore, hfront]
  split
  · rename_i hnil
    rw [hnil]
    rfl
  · rw [List.reverse_append, List.dropWhile_append_of_pos (by simpa using hafter), hback,
      List.reverse_reverse]

theorem mem_strip {s : String} {c : Char} (hc : isBlank c = false) :
    c ∈ (strip s).toList ↔ c ∈ s.toList := by
  obtain ⟨before, after, hs, hbefore, hafter⟩ := stripChars_spec s.toList
  have hnot {l : List Char} (hl : ∀ d ∈ l, isBlank d = true) : c ∉ l := by
    intro h
    rw [hl c h] at hc
    cases hc
  rw [strip, String.toList_ofList]
  constructor
  · intro h
    rw [hs]
    exact List.mem_append_left _ (List.mem_append_right _ h)
  · intro h
    rw [hs] at h
    simpa [hnot hbefore, hnot hafter] using h

theorem nonBlank_strip {s : String} : NonBlank (strip s) ↔ NonBlank s :=
  exists_congr fun _ => and_congr_left mem_strip

theorem strip_trimmed (s : String) : Trimmed (strip s) := by
  have hchars : (strip s).toList = stripChars s.toList := String.toList_ofList
  refine ⟨fun c hc => ?_, fun c hc => ?_⟩ <;> rw [hchars] at hc
  · -- what is kept is a prefix of what is left when the blanks in front are gone
    obtain ⟨rest, hrest⟩ := List.rdropWhile_prefix isBlank (s.toList.dropWhile isBlank)
    rw [← stripChars_eq] at hrest
    have hhead := List.head?_dropWhile_not isBlank s.toList
    have hsame : (s.toList.dropWhile isBlank).head? = some c := by
      rw [← hrest, List.head?_append, hc]
      rfl
    rwa [hsame] at hhead
  · have hne : stripChars s.toList ≠ [] := by
      intro hnil
      rw [hnil] at hc
      cases hc
    rw [List.getLast?_eq_some_getLast hne] at hc
    obtain rfl := Option.some.inj hc
    exact Bool.eq_false_iff.mpr (List.rdropWhile_last_not isBlank _ hne)

/-- A text is blank exactly if nothing is left of it. -/
theorem strip_isEmpty {s : String} : (strip s).isEmpty = true ↔ ¬NonBlank s := by
  rw [String.isEmpty_iff]
  constructor
  · rintro hs ⟨c, hc, hblank⟩
    rw [← mem_strip hblank, hs] at hc
    cases hc
  · intro hs
    by_contra hne
    obtain ⟨c, cs, hcs⟩ := List.exists_cons_of_ne_nil (mt String.toList_eq_nil_iff.mp hne)
    have hfirst := (strip_trimmed s).first c (by rw [hcs]; rfl)
    exact hs ⟨c, (mem_strip hfirst).mp (by simp [hcs]), hfirst⟩

/-! ## Commas -/

/-- A text cut at its commas. -/
def atCommas (s : String) : List String :=
  (s.toList.splitOn ',').map String.ofList

/-- A text that is a single piece. -/
def CommaFree (s : String) : Prop := ',' ∉ s.toList

theorem commaFree_strip {s : String} : CommaFree (strip s) ↔ CommaFree s :=
  not_congr (mem_strip (by decide))

theorem cutFrom_self (a : Char) (piece cs : List Char) :
    cutFrom [a] piece 0 (a :: cs) = piece.reverse :: cutFrom [a] [] 0 cs := by
  simp [cutFrom, List.isPrefixOf]

theorem cutFrom_of_ne {a c : Char} (h : c ≠ a) (piece cs : List Char) :
    cutFrom [a] piece 0 (c :: cs) = cutFrom [a] (c :: piece) 0 cs := by
  simp [cutFrom, List.isPrefixOf, Ne.symm h]

theorem cutFrom_eq_splitOn (a : Char) (piece cs : List Char) :
    cutFrom [a] piece 0 cs = (cs.splitOn a).modifyHead (piece.reverse ++ ·) := by
  induction cs generalizing piece with
  | nil => simp [cutFrom]
  | cons c cs ih =>
    rw [List.splitOn_cons_eq_if_modifyHead]
    by_cases h : c = a
    · subst h
      rw [cutFrom_self, ih, if_pos (beq_self_eq_true c), List.modifyHead_cons, List.append_nil]
      cases cs.splitOn c <;> rfl
    · rw [cutFrom_of_ne h, ih, if_neg (by simpa using h), List.modifyHead_modifyHead,
        List.reverse_cons]
      simp only [List.append_assoc, List.cons_append, List.nil_append]
      rfl

theorem commaPieces_eq (s : String) : commaPieces s = atCommas s := by
  show (cutFrom [','] [] 0 s.toList).map String.ofList = _
  rw [cutFrom_eq_splitOn, atCommas]
  cases s.toList.splitOn ',' <;> rfl

theorem atCommas_ne_nil (s : String) : atCommas s ≠ [] := by
  simp [atCommas, List.splitOn_ne_nil]

theorem not_mem_of_mem_splitOn {a : Char} {cs piece : List Char} (h : piece ∈ cs.splitOn a) :
    a ∉ piece := by
  induction cs generalizing piece with
  | nil => simp_all
  | cons c cs ih =>
    rw [List.splitOn_cons_eq_if_modifyHead] at h
    split at h
    · rcases List.mem_cons.mp h with rfl | h
      · simp
      · exact ih h
    · rename_i hc
      obtain ⟨first, rest, hsplit⟩ := List.exists_cons_of_ne_nil (List.splitOn_ne_nil a cs)
      rw [hsplit, List.modifyHead_cons] at h
      rcases List.mem_cons.mp h with rfl | h
      · have hfirst : a ∉ first := ih (by simp [hsplit])
        have hne : a ≠ c := Ne.symm (by simpa using hc)
        simp [hfirst, hne]
      · exact ih (by simp [hsplit, h])

theorem commaFree_of_mem_atCommas {s piece : String} (h : piece ∈ atCommas s) :
    CommaFree piece := by
  obtain ⟨cs, hcs, rfl⟩ := List.mem_map.mp h
  rw [CommaFree, String.toList_ofList]
  exact not_mem_of_mem_splitOn hcs

theorem CommaFree.atCommas_eq {s : String} (h : CommaFree s) : atCommas s = [s] := by
  rw [atCommas, List.splitOn_eq_singleton h]
  simp

/-- Cutting a text that was joined cuts each of its pieces. -/
theorem atCommas_join {pieces : List String} (hne : pieces ≠ []) :
    atCommas (join "," pieces) = pieces.flatMap atCommas := by
  induction pieces with
  | nil => exact absurd rfl hne
  | cons s pieces ih =>
    cases pieces with
    | nil => simp [join]
    | cons t pieces =>
      have hjoin : (join "," (s :: t :: pieces)).toList =
          s.toList ++ ',' :: (join "," (t :: pieces)).toList := by
        simp [join]
      have hrest := ih (by simp)
      rw [List.flatMap_cons, ← hrest, atCommas, hjoin, List.splitOn_append_cons_self, List.map_append]
      rfl

theorem atCommas_join_eq {pieces : List String} (hne : pieces ≠ []) :
    atCommas (join "," pieces) = pieces ↔ ∀ s ∈ pieces, CommaFree s := by
  constructor
  · intro h s hs
    rw [← h] at hs
    exact commaFree_of_mem_atCommas hs
  · intro h
    rw [atCommas_join hne, List.flatMap_congr fun s hs => (h s hs).atCommas_eq]
    simp

/-! ## Separators of any length -/

theorem cutFrom_skip (separator piece : List Char) (n : Nat) (cs : List Char) :
    cutFrom separator piece n cs = cutFrom separator piece 0 (cs.drop n) := by
  induction n generalizing cs with
  | zero => rfl
  | succ n ih =>
    cases cs with
    | nil => simp [cutFrom]
    | cons c cs => simp [cutFrom, ih]

theorem cutFrom_of_prefix (c : Char) (separator piece cs : List Char) :
    cutFrom (c :: separator) piece 0 (c :: separator ++ cs) =
      piece.reverse :: cutAt (c :: separator) cs := by
  have hprefix : (c :: separator).isPrefixOf (c :: (separator ++ cs)) = true :=
    List.isPrefixOf_iff_prefix.mpr ⟨cs, rfl⟩
  rw [List.cons_append, cutFrom, if_pos hprefix, cutFrom_skip]
  simp [cutAt]

/-- Characters are not cut, or they are cut at the first occurrence of the separator. -/
theorem cutFrom_cases {separator : List Char} (hne : separator ≠ []) (piece cs : List Char) :
    (¬separator <:+: cs ∧ cutFrom separator piece 0 cs = [piece.reverse ++ cs]) ∨
    ∃ before after, cs = before ++ separator ++ after ∧
      (∀ x y, cs = x ++ separator ++ y → before.length ≤ x.length) ∧
      cutFrom separator piece 0 cs = (piece.reverse ++ before) :: cutAt separator after := by
  induction cs generalizing piece with
  | nil => exact Or.inl ⟨by simpa using hne, by simp [cutFrom]⟩
  | cons c cs ih =>
    by_cases hprefix : separator <+: c :: cs
    · obtain ⟨after, hafter⟩ := hprefix
      obtain ⟨d, separator, rfl⟩ := List.exists_cons_of_ne_nil hne
      refine Or.inr ⟨[], after, hafter.symm, by simp, ?_⟩
      rw [← hafter, cutFrom_of_prefix, List.append_nil]
    · have hcut : cutFrom separator piece 0 (c :: cs) = cutFrom separator (c :: piece) 0 cs := by
        simp [cutFrom, List.isPrefixOf_iff_prefix, hprefix]
      rw [hcut]
      rcases ih (c :: piece) with ⟨hnone, hwhole⟩ | ⟨before, after, hcs, hfirst, hcuts⟩
      · refine Or.inl ⟨?_, by rw [hwhole]; simp⟩
        rw [List.infix_cons_iff]
        exact not_or_intro hprefix hnone
      · refine Or.inr ⟨c :: before, after, by rw [hcs]; rfl, fun x y hxy => ?_, by rw [hcuts]; simp⟩
        cases x with
        | nil => exact absurd ⟨y, hxy.symm⟩ hprefix
        | cons e x =>
          have hlater := hfirst x y (List.cons.inj hxy).2
          simpa using hlater

/-- A text that holds another one. -/
def Holds (s part : String) : Prop :=
  ∃ before after, s = before ++ part ++ after

/-- A separator that stands between two texts and nowhere further in front. -/
def FirstBetween (separator before after : String) : Prop :=
  ∀ x y, before ++ separator ++ after = x ++ separator ++ y → before.length ≤ x.length

theorem holds_iff {s part : String} : Holds s part ↔ part.toList <:+: s.toList := by
  constructor
  · rintro ⟨before, after, rfl⟩
    exact ⟨before.toList, after.toList, by simp⟩
  · rintro ⟨before, after, h⟩
    exact ⟨String.ofList before, String.ofList after, String.toList_injective (by simp [← h])⟩

theorem split_cases {separator : String} (hne : separator ≠ "") (s : String) :
    (¬Holds s separator ∧ split separator s = [s]) ∨
    ∃ before after, s = before ++ separator ++ after ∧ FirstBetween separator before after ∧
      split separator s = before :: split separator after := by
  have hchars : separator.toList ≠ [] := mt String.toList_eq_nil_iff.mp hne
  unfold split cutAt
  rcases cutFrom_cases hchars [] s.toList with ⟨hnone, hwhole⟩ | ⟨before, after, hs, hfirst, hcuts⟩
  · exact Or.inl ⟨mt holds_iff.mp hnone, by simp [hwhole]⟩
  · have htext : s = String.ofList before ++ separator ++ String.ofList after :=
      String.toList_injective (by simp [hs])
    refine Or.inr ⟨String.ofList before, String.ofList after, htext, fun x y hxy => ?_, ?_⟩
    · have hle := hfirst x.toList y.toList (by rw [htext, hxy]; simp)
      simpa [← String.length_toList] using hle
    · simp [hcuts, cutAt]

theorem split_ne_nil {separator : String} (hne : separator ≠ "") (s : String) :
    split separator s ≠ [] := by
  rcases split_cases hne s with ⟨-, hsplit⟩ | ⟨before, after, -, -, hsplit⟩
  · simp [hsplit]
  · simp [hsplit]

/-- Of two separators that stand apart, the second comes after the first that there is. -/
theorem FirstBetween.holds_after {separator before after x y z : String}
    (h : FirstBetween separator before after)
    (heq : before ++ separator ++ after = x ++ separator ++ y ++ separator ++ z) :
    Holds after separator := by
  have hle := h x (y ++ separator ++ z) (by simpa [String.append_assoc] using heq)
  have hchars := congrArg String.toList heq
  simp only [String.toList_append] at hchars
  have hlength := congrArg List.length hchars
  simp only [List.length_append, String.length_toList] at hlength
  -- what begins with the second separator is an end of the text that is no longer than `after`
  have hsecond : separator.toList ++ z.toList <:+
      before.toList ++ separator.toList ++ after.toList :=
    ⟨x.toList ++ separator.toList ++ y.toList, by rw [hchars, List.append_assoc _ _ z.toList]⟩
  have hsuffix : separator.toList ++ z.toList <:+ after.toList := by
    refine List.suffix_of_suffix_length_le hsecond (List.suffix_append _ _) ?_
    simp only [List.length_append, String.length_toList]
    omega
  obtain ⟨middle, hmiddle⟩ := hsuffix
  exact holds_iff.mpr ⟨middle, z.toList, by rw [← hmiddle, List.append_assoc]⟩

end KafkaHandles.Text
