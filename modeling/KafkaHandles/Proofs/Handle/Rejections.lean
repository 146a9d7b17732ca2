import KafkaHandles.Proofs.Handle.Failures
import KafkaHandles.Proofs.RejectedProperty

/-!
# Properties that the client library rejects

A client library rejects a property that it does not know, or a value of one that it knows, and both
times names the property in its reason. Making a handle tells that name, unless the value is such
that a lead stands in front of its closing quote: then what follows that quote is taken for the name.
-/

namespace KafkaHandles

open Text.Quoted (doubleQuote)

namespace RejectedProperty

/-- A text between double quotes. -/
def quoted (s : String) : String :=
  "\"" ++ s ++ "\""

/-- The reason for which an unknown property is rejected. -/
def unknownReason (p : String) : String :=
  "No such configuration property: " ++ quoted p

/-- What a reason says between a value and its property. -/
def betweenQuotes : String := " for configuration property "

/-- The reason for which the value of a property is rejected. -/
def invalidReason (v p : String) : String :=
  "Invalid value " ++ quoted v ++ betweenQuotes ++ quoted p

variable {p v : String}

theorem quoted_toList : (quoted p).toList = doubleQuote :: (p.toList ++ [doubleQuote]) := by
  unfold quoted
  rw [String.toList_append, String.toList_append]
  rfl

theorem unknownReason_toList : (unknownReason p).toList =
    "No such configuration property: ".toList ++ doubleQuote :: (p.toList ++ [doubleQuote]) := by
  unfold unknownReason
  rw [String.toList_append, quoted_toList]

theorem invalidReason_toList : (invalidReason v p).toList =
    "Invalid value ".toList ++ doubleQuote :: (v.toList ++ doubleQuote ::
      (betweenQuotes.toList ++ doubleQuote :: (p.toList ++ [doubleQuote]))) := by
  unfold invalidReason
  rw [String.toList_append, String.toList_append, String.toList_append, quoted_toList,
    quoted_toList]
  simp only [List.append_assoc, List.cons_append, List.nil_append]

theorem quotedName?_name (hp : p ≠ "") (hquote : doubleQuote ∉ p.toList) :
    quotedName? (p.toList ++ [doubleQuote]) = some p.toList :=
  quotedName?_eq_some.mpr ⟨mt String.toList_eq_nil_iff.mp hp, hquote, [], rfl⟩

theorem find?_unknownReason (hp : p ≠ "") (hquote : doubleQuote ∉ p.toList) :
    find? (unknownReason p) = some p := by
  have hlead : EndsInLead "No such configuration property: ".toList := by decide
  rw [find?, unknownReason_toList, firstName?_append_quote (by decide), if_pos hlead,
    quotedName?_name hp hquote, Option.some_or, Option.map_some, String.ofList_toList]

theorem find?_invalidReason (hp : p ≠ "") (hquote : doubleQuote ∉ p.toList)
    (hv : doubleQuote ∉ v.toList) :
    find? (invalidReason v p) = some (if EndsInLead v.toList then betweenQuotes else p) := by
  have hbefore : ¬EndsInLead "Invalid value ".toList := by decide
  have hbetween : EndsInLead betweenQuotes.toList := by decide
  have hname := quotedName?_name hp hquote
  have hwrong : quotedName? (betweenQuotes.toList ++ doubleQuote :: (p.toList ++ [doubleQuote])) =
      some betweenQuotes.toList := quotedName?_eq_some.mpr ⟨by decide, by decide, _, rfl⟩
  rw [find?, invalidReason_toList, firstName?_append_quote (by decide), if_neg hbefore,
    Option.none_or, firstName?_append_quote hv, firstName?_append_quote (by decide),
    if_pos hbetween, hname, hwrong]
  split
  · rw [Option.some_or, Option.map_some, String.ofList_toList]
  · rw [Option.none_or, Option.some_or, Option.map_some, String.ofList_toList]

end RejectedProperty

namespace Handle

/-- A reason for which the client library rejects what it is to make a client with, and the name of a
property that is read in it. No error can be made of a reason that holds a NUL. -/
structure RejectedAs (reason name : String) : Prop where
  found : RejectedProperty.find? reason = some name
  told : ∀ {σ : Type} (L : Library σ) (role : Role) {c : Config}, c.Produced →
    (role = .consumer → c.group.isSome) →
    (∀ e ∈ c.properties, (c.managed role).hasKey e.1 = false) →
    ∀ {w : World σ} {e : ClientError}, e.reason = reason →
    (L.answer w.rules.length (.create role (c.managed role ++ c.properties)) w.library).1 =
      .error (.error e) →
    (make L role (.config c) w).1 = .error (
      if Char.ofNat 0 ∈ reason.toList then .textHoldsNul
      else .config (.text name) ⟨-186, reason, false, false⟩)

theorem rejectedAs {reason name : String} (hname : RejectedProperty.find? reason = some name)
    (hreason : ¬Blueprint.creationFailed.toList <+: reason.toList) : RejectedAs reason name := by
  refine ⟨hname, ?_⟩
  rintro σ L role c hc hgroup hnew w e rfl hanswer
  have hfails := fails L (Config.validateFor_role hgroup)
    (Config.setAll_allProperties hc.proper hnew) hanswer
  rw [hfails.ended, (Blueprint.Rejects.error hreason).creationFault_eq, hname]
  split
  · rename_i hnul
    rw [Fault.wrapping_untold hnul]
  · rename_i hnul
    rw [Fault.wrapping_told hnul]
    rfl

theorem not_creationFailed {start rest : List Char} {c : Char} (hstart : start.head? = some c)
    (hc : c ≠ 'F') : ¬Blueprint.creationFailed.toList <+: start ++ rest := by
  rintro ⟨tail, h⟩
  have hfirst : Blueprint.creationFailed.toList.head? = some 'F' := by decide
  have hheads := congrArg List.head? h
  rw [List.head?_append, List.head?_append, hfirst, hstart] at hheads
  exact hc (Option.some.inj hheads).symm

open RejectedProperty (unknownReason invalidReason betweenQuotes EndsInLead)

/-- A rejected property is told by its name, whatever its value, unless the value ends in a lead. -/
theorem rejections_name_their_property {p v : String} (hp : p ≠ "")
    (hquote : doubleQuote ∉ p.toList) (hv : doubleQuote ∉ v.toList) :
    RejectedAs (unknownReason p) p ∧
      RejectedAs (invalidReason v p) (if EndsInLead v.toList then betweenQuotes else p) := by
  constructor
  · apply rejectedAs (RejectedProperty.find?_unknownReason hp hquote)
    rw [RejectedProperty.unknownReason_toList]
    exact not_creationFailed rfl (by decide)
  · apply rejectedAs (RejectedProperty.find?_invalidReason hp hquote hv)
    rw [RejectedProperty.invalidReason_toList]
    exact not_creationFailed rfl (by decide)

/-- An unknown property and a property with a wrong value, told by their names. -/
theorem rejections_of_linger_name_linger :
    RejectedProperty.find? (unknownReason "linger.ms") = some "linger.ms" ∧
      RejectedProperty.find? (invalidReason "soon" "linger.ms") = some "linger.ms" ∧
      let c : Config := ⟨["a:1"], none, none, .latest, [(.text "linger.ms", .text "soon")]⟩
      let e : ClientError := ⟨-186, invalidReason "soon" "linger.ms", false, false⟩
      let w : World Scripted :=
        { library := { nextScript := { faults := [(.create, some (.error e))] } } }
      (make Scripted.library .producer (.config c) w).1 = .error (.config (.text "linger.ms") e) := by
  obtain ⟨hunknown, hinvalid⟩ : RejectedAs (unknownReason "linger.ms") "linger.ms" ∧
      RejectedAs (invalidReason "soon" "linger.ms") "linger.ms" :=
    rejections_name_their_property (p := "linger.ms") (v := "soon") (by decide) (by decide) (by decide)
  refine ⟨hunknown.found, hinvalid.found, ?_⟩
  intro c e w
  have hc : c.Produced := .built (s := {
    servers := .text "a:1", properties := .dict c.properties }) rfl (by
      rintro d ⟨⟩; exact .of_texts ["linger.ms"] rfl (by decide))
  have hreason : Char.ofNat 0 ∉ (invalidReason "soon" "linger.ms").toList := by
    rw [RejectedProperty.invalidReason_toList]
    decide
  have htold := hinvalid.told Scripted.library .producer hc nofun (by decide) (w := w) rfl rfl
  rwa [if_neg hreason] at htold

/-- A value that ends in a lead has what follows it taken for the name. -/
theorem value_with_lead_hides_its_property :
    RejectedProperty.find? (invalidReason "property " "acks") = some " for configuration property " ∧
      some " for configuration property " ≠ some "acks" := by
  refine ⟨?_, by decide⟩
  rw [RejectedProperty.find?_invalidReason (by decide) (by decide) (by decide), if_pos (by decide)]
  rfl

end Handle

end KafkaHandles
