import KafkaHandles.Fault

/-!
# Signatures

The parameters of a function, and what arguments come to for it. Arguments are given by name or by
place. Those that no parameter takes are refused, and so are those that leave a parameter without a
value.
-/

namespace KafkaHandles

/-- A parameter, with the value it takes when it is left out. One without must be given. -/
structure Parameter where
  name : String
  preset : Option Value := none

namespace Parameter

/-- A parameter that must be given. -/
def needed (name : String) : Parameter := ⟨name, none⟩

/-- A parameter that is absent when it is left out. -/
def absent (name : String) : Parameter := ⟨name, some .none⟩

/-- Whether the parameter must be given. -/
def isNeeded (p : Parameter) : Bool := p.preset.isNone

end Parameter

/-- Arguments by name, in the order in which they are given. -/
abbrev Arguments := List (String × Value)

namespace Arguments

/-- The argument of a name. -/
def get? (a : Arguments) (name : String) : Option Value :=
  (a.find? fun e => e.1 == name).map (·.2)

end Arguments

/-- A function's name and parameters. -/
structure Signature where
  function : String
  parameters : List Parameter
  /-- How many arguments precede those of the parameters, as the object of a method does. -/
  preceding : Nat := 0

namespace Signature

/-- Refuses arguments that do not fit: first one that no parameter takes, then those that lack. -/
def check (s : Signature) (a : Arguments) : Except Fault Unit :=
  match a.find? fun e => !s.parameters.any (·.name == e.1) with
  | some e => .error (.argumentUnknown s.function e.1)
  | none =>
    let missing := s.parameters.filter fun p => p.isNeeded && (a.get? p.name).isNone
    if missing.isEmpty then .ok ()
    else .error (.argumentsMissing s.function (missing.map (·.name)))

/-- The value of a parameter. -/
def value (s : Signature) (a : Arguments) (name : String) : Value :=
  match a.get? name with
  | some v => v
  | none => ((s.parameters.find? (·.name == name)).bind (·.preset)).getD .none

/-- Arguments by place as arguments by name. -/
def place (s : Signature) (vs : List Value) : Except Fault Arguments :=
  let count := s.parameters.length
  if count < vs.length then
    let least := (s.parameters.filter (·.isNeeded)).length
    .error (.argumentsExcess s.function (least + s.preceding) (count + s.preceding)
      (vs.length + s.preceding))
  else .ok ((s.parameters.map (·.name)).zip vs)

end Signature

end KafkaHandles
