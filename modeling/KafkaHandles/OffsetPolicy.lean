import KafkaHandles.Action
import KafkaHandles.Text.Blank
import KafkaHandles.Text.Case

/-!
# Reading an offset policy

A policy is given as itself, as a word in any case with blanks around it, or not at all, which
selects the latest.
-/

namespace KafkaHandles.OffsetPolicy

/-- The policy a word stands for, in any case and with blanks around it. -/
def ofText? (s : String) : Option OffsetPolicy :=
  all.find? fun p => Text.lowerChars (Text.stripChars s.toList) == p.word.toList

/-- How a value is refused that names no policy. The refusal shows the value, so it cannot be made
without its text. -/
def unknown (v : Value) : Fault :=
  match v.shown with
  | .ok text => .refused (.policyUnknown text)
  | .error flaw => .untold flaw

/-- The policy that a value names. -/
def parse (v : Value) : Except Fault OffsetPolicy :=
  match v with
  | .none => .ok .latest
  | .policy p => .ok p
  | .text s => match ofText? s with
    | some p => .ok p
    | none => .error (unknown v)
  | _ => .error (unknown v)

end KafkaHandles.OffsetPolicy
