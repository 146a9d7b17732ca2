import KafkaHandles.Value.Equality

/-!
# Dictionaries

Lists of keys with values in which no two keys are equal. A new key goes to the end; a key that is
set again keeps its place and takes the new value.
-/

namespace KafkaHandles

/-- Keys with values, in the order in which the keys were first set. -/
abbrev Dict := List (Value × Value)

namespace Dict

/-- The value of a key. -/
def get? (d : Dict) (key : Value) : Option Value :=
  (d.find? fun e => e.1.same key).map (·.2)

/-- Whether a key is set. -/
def hasKey (d : Dict) (key : Value) : Bool :=
  d.any fun e => e.1.same key

/-- Sets a key. -/
def insert (d : Dict) (key v : Value) : Dict :=
  if d.hasKey key then d.map fun e => if e.1.same key then (e.1, v) else e
  else d ++ [(key, v)]

/-- Takes a key out. -/
def erase (d : Dict) (key : Value) : Dict :=
  d.filter fun e => !e.1.same key

/-- The dictionary made by setting keys one after another. -/
def ofList (entries : List (Value × Value)) : Dict :=
  entries.foldl (fun d e => d.insert e.1 e.2) []

/-- The keys, in order. -/
def keys (d : Dict) : List Value :=
  d.map (·.1)

end Dict

end KafkaHandles
