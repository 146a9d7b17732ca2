import KafkaHandles.RejectedProperty
import Mathlib.Data.List.Infix
import Mathlib.Data.List.TakeWhile

/-!
# Where the name of a rejected property is read

A name is read between two double quotes if a lead stands before the first of them: the word, a
colon or none, and a blank. No lead holds a quote, so a stretch of text up to a quote matters for its
end alone. Of several names that are written in a reason, the leftmost is read.
-/

namespace KafkaHandles.RejectedProperty

open Text.Quoted (doubleQuote)

/-- What stands before the opening quote of a name. -/
def lead (colon : Bool) : List Char :=
  keyword ++ (if colon then [':'] else []) ++ [' ']

/-- A text that ends in a lead. -/
def EndsInLead (cs : List Char) : Prop :=
  ∃ colon, lead colon <:+ cs

instance (cs : List Char) : Decidable (EndsInLead cs) :=
  decidable_of_iff (∃ colon, (lead colon).isSuffixOf cs)
    (exists_congr fun _ => List.isSuffixOf_iff_suffix)

/-! ## Quoted names -/

variable {name cs rest : List Char}

/-- A name is a text without a quote that is not empty and ends at a quote. -/
theorem quotedName?_eq_some : quotedName? cs = some name ↔
    name ≠ [] ∧ doubleQuote ∉ name ∧ ∃ rest, cs = name ++ doubleQuote :: rest := by
  constructor
  · intro h
    dsimp only [quotedName?] at h
    split at h
    · cases h
    · rename_i hfound
      obtain rfl := Option.some.inj h
      simp only [Bool.or_eq_true, List.isEmpty_iff, decide_eq_true_eq, not_or] at hfound
      refine ⟨hfound.1, fun hmem => by simpa using List.mem_takeWhile_imp hmem, ?_⟩
      cases hrest : cs.dropWhile (· != doubleQuote) with
      | nil =>
        have hlength := congrArg List.length
          (List.takeWhile_append_dropWhile (p := (· != doubleQuote)) (l := cs))
        rw [hrest, List.append_nil] at hlength
        exact absurd hlength hfound.2
      | cons c rest =>
        have hc : (cs.dropWhile (· != doubleQuote)).head? = some c := by rw [hrest]; rfl
        have hquote := List.head?_dropWhile_not (· != doubleQuote) cs
        rw [hc] at hquote
        obtain rfl : c = doubleQuote := by simpa using hquote
        exact ⟨rest, by rw [← hrest, List.takeWhile_append_dropWhile]⟩
  · rintro ⟨hne, hname, rest, rfl⟩
    have hall : ∀ c ∈ name, (c != doubleQuote) = true := by
      intro c hc
      rw [bne_iff_ne]
      rintro rfl
      exact hname hc
    have htake : (name ++ doubleQuote :: rest).takeWhile (· != doubleQuote) = name := by
      rw [List.takeWhile_append_of_pos hall]
      simp
    simp [quotedName?, htake, hne]

/-! ## Leads -/

theorem dropStart?_eq_some {start : List Char} :
    dropStart? start cs = some rest ↔ cs = start ++ rest := by
  unfold dropStart?
  constructor
  · intro h
    split at h
    · rename_i hstart
      obtain rfl := Option.some.inj h
      exact (List.prefix_iff_eq_append.mp (List.isPrefixOf_iff_prefix.mp hstart)).symm
    · cases h
  · rintro rfl
    simp

theorem afterKeyword?_eq_some : afterKeyword? cs = some name ↔
    ∃ rest, cs = ' ' :: doubleQuote :: rest ∧ quotedName? rest = some name := by
  simp only [afterKeyword?, Option.bind_eq_some_iff, dropStart?_eq_some, List.cons_append,
    List.nil_append]

theorem nameAt?_keyword : nameAt? (keyword ++ rest) =
    match dropStart? [':'] rest with
    | some rest' => afterKeyword? rest'
    | none => afterKeyword? rest := by
  have hkeyword : dropStart? keyword (keyword ++ rest) = some rest := dropStart?_eq_some.mpr rfl
  rw [nameAt?, hkeyword]
  rfl

/-- A name is read at the start of a text if a lead stands there. -/
theorem nameAt?_eq_some : nameAt? cs = some name ↔
    ∃ colon rest, cs = lead colon ++ doubleQuote :: rest ∧ quotedName? rest = some name := by
  constructor
  · intro h
    obtain ⟨rest, hrest, -⟩ := Option.bind_eq_some_iff.mp h
    obtain rfl := dropStart?_eq_some.mp hrest
    rw [nameAt?_keyword] at h
    cases hcolon : dropStart? [':'] rest with
    | some rest' =>
      rw [hcolon] at h
      obtain rfl := dropStart?_eq_some.mp hcolon
      obtain ⟨after, rfl, hname⟩ := afterKeyword?_eq_some.mp h
      exact ⟨true, after, by simp [lead], hname⟩
    | none =>
      rw [hcolon] at h
      obtain ⟨after, rfl, hname⟩ := afterKeyword?_eq_some.mp h
      exact ⟨false, after, by simp [lead], hname⟩
  · rintro ⟨colon, rest, rfl, hname⟩
    have hafter : afterKeyword? (' ' :: doubleQuote :: rest) = some name :=
      afterKeyword?_eq_some.mpr ⟨rest, rfl, hname⟩
    simp only [lead, List.append_assoc, nameAt?_keyword]
    cases colon with
    | true => exact hafter
    | false => exact hafter

/-! ## The first name -/

theorem eq_of_append_quote {left left' rest' : List Char} (hleft : doubleQuote ∉ left)
    (hleft' : doubleQuote ∉ left')
    (h : left ++ doubleQuote :: rest = left' ++ doubleQuote :: rest') :
    left = left' ∧ rest = rest' := by
  induction left generalizing left' with
  | nil =>
    cases left' with
    | nil => exact ⟨rfl, List.tail_eq_of_cons_eq h⟩
    | cons c left' =>
      obtain rfl : doubleQuote = c := List.head_eq_of_cons_eq h
      simp at hleft'
  | cons c left ih =>
    cases left' with
    | nil =>
      obtain rfl : c = doubleQuote := List.head_eq_of_cons_eq h
      simp at hleft
    | cons c' left' =>
      obtain rfl : c = c' := List.head_eq_of_cons_eq h
      obtain ⟨rfl, rfl⟩ := ih (fun h => hleft (.tail _ h)) (fun h => hleft' (.tail _ h))
        (List.tail_eq_of_cons_eq h)
      exact ⟨rfl, rfl⟩

theorem lead_ne_nil (colon : Bool) : lead colon ≠ [] := by
  cases colon <;> decide

theorem quote_not_mem_lead (colon : Bool) : doubleQuote ∉ lead colon := by
  cases colon <;> decide

/-- At the start of a stretch without a quote, a name is read if the stretch is a lead. -/
theorem nameAt?_append_quote {left : List Char} (hleft : doubleQuote ∉ left) :
    nameAt? (left ++ doubleQuote :: rest) =
      if ∃ colon, left = lead colon then quotedName? rest else none := by
  apply Option.ext
  intro name
  rw [nameAt?_eq_some]
  constructor
  · rintro ⟨colon, rest', hrest, hname⟩
    obtain ⟨rfl, rfl⟩ := eq_of_append_quote hleft (quote_not_mem_lead colon) hrest
    rw [if_pos ⟨colon, rfl⟩]
    exact hname
  · intro h
    split at h
    · rename_i hlead
      obtain ⟨colon, rfl⟩ := hlead
      exact ⟨colon, rest, rfl, h⟩
    · cases h

theorem firstName?_cons (c : Char) (cs : List Char) :
    firstName? (c :: cs) = (nameAt? (c :: cs)).or (firstName? cs) := by
  rw [firstName?]
  cases nameAt? (c :: cs) <;> rfl

theorem not_endsInLead_nil : ¬EndsInLead [] := by
  rintro ⟨colon, h⟩
  exact lead_ne_nil colon (List.suffix_nil.mp h)

theorem endsInLead_cons {c : Char} {left : List Char} :
    EndsInLead (c :: left) ↔ (∃ colon, c :: left = lead colon) ∨ EndsInLead left := by
  simp only [EndsInLead, List.suffix_cons_iff, exists_or, eq_comm]

/-- A stretch up to a quote matters for the lead it may end in, and for nothing else. -/
theorem firstName?_append_quote {left : List Char} (hleft : doubleQuote ∉ left) :
    firstName? (left ++ doubleQuote :: rest) =
      (if EndsInLead left then quotedName? rest else none).or (firstName? rest) := by
  induction left with
  | nil =>
    have hname : nameAt? (doubleQuote :: rest) = none := by
      have hnil : ¬∃ colon, [] = lead colon := fun ⟨colon, h⟩ => lead_ne_nil colon h.symm
      rw [← List.nil_append (doubleQuote :: rest), nameAt?_append_quote hleft, if_neg hnil]
    rw [List.nil_append, firstName?_cons, hname, if_neg not_endsInLead_nil]
  | cons c left ih =>
    rw [List.cons_append, firstName?_cons, ← List.cons_append, nameAt?_append_quote hleft,
      ih fun h => hleft (.tail _ h), ← Option.or_assoc]
    congr 1
    by_cases hhere : ∃ colon, c :: left = lead colon
    · rw [if_pos hhere, if_pos (endsInLead_cons.mpr (Or.inl hhere))]
      split
      · exact Option.or_self
      · exact Option.or_none
    · have hends : EndsInLead (c :: left) ↔ EndsInLead left :=
        endsInLead_cons.trans (or_iff_right hhere)
      simp only [if_neg hhere, Option.none_or, hends]

/-! ## The leftmost name -/

theorem nameAt?_nil : nameAt? [] = none := rfl

/-- The first name is read at the first place at which any name can be read. -/
theorem firstName?_eq_some : firstName? cs = some name ↔
    ∃ n, nameAt? (cs.drop n) = some name ∧ ∀ m < n, nameAt? (cs.drop m) = none := by
  induction cs with
  | nil => simp [firstName?, nameAt?_nil]
  | cons c cs ih =>
    rw [firstName?_cons, Option.or_eq_some_iff, ih]
    constructor
    · rintro (hhere | ⟨hnot, n, hn, hbefore⟩)
      · exact ⟨0, hhere, by simp⟩
      · refine ⟨n + 1, hn, fun m hm => ?_⟩
        cases m with
        | zero => exact hnot
        | succ m => exact hbefore m (Nat.lt_of_succ_lt_succ hm)
    · rintro ⟨n, hn, hbefore⟩
      cases n with
      | zero => exact Or.inl hn
      | succ n =>
        refine Or.inr ⟨hbefore 0 (Nat.succ_pos n), n, hn, fun m hm => ?_⟩
        exact hbefore (m + 1) (Nat.succ_lt_succ hm)

theorem firstName?_eq_none : firstName? cs = none ↔ ∀ n, nameAt? (cs.drop n) = none := by
  induction cs with
  | nil => simp [firstName?, nameAt?_nil]
  | cons c cs ih =>
    rw [firstName?_cons, Option.or_eq_none_iff, ih]
    constructor
    · rintro ⟨hhere, hlater⟩ n
      cases n with
      | zero => exact hhere
      | succ n => exact hlater n
    · intro h
      exact ⟨h 0, fun n => h (n + 1)⟩

/-- A way to write a reason: some text, the keyword, a colon or none, a blank, and a name in double
quotes, with anything after it. A name may hold everything but a double quote. -/
structure Writes (reason before name : String) : Prop where
  nonempty : name ≠ ""
  unquoted : doubleQuote ∉ name.toList
  form : ∃ (colon : Bool) (after : String),
    reason = before ++ "property" ++ (if colon then ":" else "") ++ " \"" ++ name ++ "\"" ++ after

theorem written_toList (before name after : String) (colon : Bool) :
    (before ++ "property" ++ (if colon then ":" else "") ++ " \"" ++ name ++ "\"" ++ after).toList =
      before.toList ++ (lead colon ++ doubleQuote :: (name.toList ++ doubleQuote :: after.toList)) := by
  have hcolon : (if colon then ":" else "").toList = if colon then [':'] else [] := by
    cases colon <;> rfl
  have hopening : " \"".toList = [' ', doubleQuote] := rfl
  have hclosing : "\"".toList = [doubleQuote] := rfl
  have hkeyword : "property".toList = keyword := rfl
  simp only [String.toList_append, hcolon, hopening, hclosing, hkeyword, lead, List.append_assoc,
    List.cons_append, List.nil_append]

/-- A name is written behind a text exactly if it is read there. -/
theorem writes_iff {reason before name : String} : Writes reason before name ↔
    before.toList <+: reason.toList ∧
      nameAt? (reason.toList.drop before.length) = some name.toList := by
  rw [← String.length_toList, nameAt?_eq_some]
  simp only [quotedName?_eq_some]
  constructor
  · rintro ⟨hne, hquote, colon, after, rfl⟩
    rw [written_toList, List.drop_left]
    exact ⟨List.prefix_append _ _, colon, name.toList ++ doubleQuote :: after.toList, rfl,
      mt String.toList_eq_nil_iff.mp hne, hquote, after.toList, rfl⟩
  · rintro ⟨⟨tail, hreason⟩, colon, rest, hdrop, hne, hquote, after, rfl⟩
    rw [← hreason, List.drop_left] at hdrop
    refine ⟨mt String.toList_eq_nil_iff.mpr hne, hquote, colon, String.ofList after, ?_⟩
    rw [← String.toList_inj, written_toList, ← hreason, hdrop, String.toList_ofList]

/-- What is read at some place of a reason is written there. -/
theorem exists_writes {reason : String} {n : Nat} {name : List Char}
    (h : nameAt? (reason.toList.drop n) = some name) :
    ∃ before, before.length = n ∧ Writes reason before (String.ofList name) := by
  have hn : n ≤ reason.toList.length := by
    by_contra hlong
    rw [List.drop_eq_nil_of_le (Nat.le_of_not_le hlong), nameAt?_nil] at h
    cases h
  have hlength : (String.ofList (reason.toList.take n)).length = n := by
    rw [String.length_ofList, List.length_take, Nat.min_eq_left hn]
  refine ⟨String.ofList (reason.toList.take n), hlength, writes_iff.mpr ⟨?_, ?_⟩⟩
  · rw [String.toList_ofList]
    exact List.take_prefix n _
  · rw [hlength, String.toList_ofList, h]

theorem find?_eq_some {reason name : String} :
    find? reason = some name ↔ firstName? reason.toList = some name.toList := by
  rw [find?, Option.map_eq_some_iff]
  constructor
  · rintro ⟨cs, hcs, rfl⟩
    rw [hcs, String.toList_ofList]
  · intro h
    exact ⟨_, h, String.ofList_toList⟩

/-- The property told of a reason is the one that is written behind the shortest text behind which
any is written, and none is told only if none is written anywhere. -/
theorem leftmost_name_is_found (reason : String) :
    (∀ name, find? reason = some name ↔ ∃ before, Writes reason before name ∧
      ∀ before' name', Writes reason before' name' → before.length ≤ before'.length) ∧
    (find? reason = none ↔ ∀ before name, ¬Writes reason before name) := by
  constructor
  · intro name
    rw [find?_eq_some, firstName?_eq_some]
    constructor
    · rintro ⟨n, hn, hbefore⟩
      obtain ⟨before, rfl, hwrites⟩ := exists_writes hn
      rw [String.ofList_toList] at hwrites
      refine ⟨before, hwrites, fun before' name' hwrites' => ?_⟩
      by_contra hshorter
      have hnone := hbefore before'.length (Nat.lt_of_not_le hshorter)
      rw [(writes_iff.mp hwrites').2] at hnone
      cases hnone
    · rintro ⟨before, hwrites, hshortest⟩
      refine ⟨before.length, (writes_iff.mp hwrites).2, fun m hm => ?_⟩
      rw [Option.eq_none_iff_forall_ne_some]
      intro name' hname'
      obtain ⟨before', rfl, hwrites'⟩ := exists_writes hname'
      exact Nat.not_le_of_lt hm (hshortest before' _ hwrites')
  · rw [find?, Option.map_eq_none_iff, firstName?_eq_none]
    constructor
    · intro hnone before name hwrites
      have hread := (writes_iff.mp hwrites).2
      rw [hnone] at hread
      cases hread
    · intro hnone n
      rw [Option.eq_none_iff_forall_ne_some]
      intro name hname
      obtain ⟨before, -, hwrites⟩ := exists_writes hname
      exact hnone before _ hwrites

end KafkaHandles.RejectedProperty
