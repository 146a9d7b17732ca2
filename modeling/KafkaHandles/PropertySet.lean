import KafkaHandles.Action
import KafkaHandles.Dict
import KafkaHandles.Signature

/-!
# Property sets

The ordered set of properties that a client is created with. A set is held by its maker until it is
handed over, once, or released; after that it is empty and takes no more properties. A property that
is set twice is rejected, and what was set before it stays.
-/

namespace KafkaHandles

/-- Who has the properties of a set. -/
inductive Holding
  /-- The maker of the set. -/
  | held
  /-- Whoever took them. -/
  | transferred
  /-- Nobody. -/
  | released
  deriving DecidableEq, Repr

/-- A set of properties in the order in which they were set. -/
structure PropertySet where
  entries : Dict := []
  holding : Holding := .held

namespace PropertySet

/-- Whether the properties have been handed over. -/
def isTransferred (s : PropertySet) : Bool :=
  s.holding == .transferred

/-- The names of the properties, in order. -/
def names (s : PropertySet) : List Value :=
  s.entries.keys

/-- Refuses to go on unless the maker holds the set. -/
def checkHeld : Action PropertySet Unit := do
  match (← Action.get).holding with
  | .held => pure ()
  | .transferred => Action.fail .propertiesTransferred
  | .released => Action.fail .propertiesReleased

/-- Refuses a value that cannot be a property name. -/
def checkName (name : Value) : Except Fault Unit :=
  match name.unhashable? with
  | some kind => .error (.unhashable kind)
  | none => .ok ()

/-- Whether a property is set. -/
def contains (name : Value) : Action PropertySet Bool := do
  Action.lift (checkName name)
  pure (Dict.hasKey (← Action.get).entries name)

/-- The rejection of a property that is set already. It tells the name, so it cannot be made without
the name's text. -/
def alreadySet (name : Value) : Fault :=
  match name.plain with
  | .ok text => .wrapping (.config name) ErrorCode.invalidArgument
      ("Property " ++ text ++ " already set")
  | .error flaw => .untold flaw

/-- Sets a property. -/
def set (name v : Value) : Action PropertySet Unit := do
  checkHeld
  if ← contains name then Action.fail (alreadySet name)
  else Action.modify fun s => { s with entries := s.entries ++ [(name, v)] }

/-- Sets a property, by its arguments. -/
def setBy (a : Arguments) : Action PropertySet Unit := do
  let s : Signature :=
    { function := "ClientConf.set", parameters := [.needed "name", .needed "value"] }
  Action.lift (s.check a)
  set (s.value a "name") (s.value a "value")

/-- Sets properties in order, up to the first that is rejected. -/
def setAll : List (Value × Value) → Action PropertySet Unit
  | [] => pure ()
  | (name, v) :: rest => do
    set name v
    setAll rest

/-- Sets the properties of a dictionary in order. -/
def update (v : Value) : Action PropertySet Unit :=
  match v with
  | .dict d => setAll d
  | v => Action.fail (.attributeMissing v.kindName "items")

/-- Sets the properties of a dictionary, by its arguments. -/
def updateBy (a : Arguments) : Action PropertySet Unit := do
  let s : Signature := { function := "ClientConf.update", parameters := [.needed "properties"] }
  Action.lift (s.check a)
  update (s.value a "properties")

/-- Hands the properties over. -/
def take : Action PropertySet Dict := do
  checkHeld
  let s ← Action.get
  Action.set { entries := [], holding := .transferred }
  pure s.entries

/-- Gives the properties up, unless they have been handed over. -/
def release : Action PropertySet Unit :=
  Action.modify fun s => match s.holding with
    | .held => { entries := [], holding := .released }
    | _ => s

end PropertySet

end KafkaHandles
