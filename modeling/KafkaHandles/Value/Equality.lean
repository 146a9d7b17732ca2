import KafkaHandles.Value.Basic

/-!
# Equality of values

When two values count as the same, as property names and in the comparison of configurations. The
truth values equal one and zero, an integer equals the float of the same value, a NaN equals only
itself, values that hold bytes compare by content, and the order of a dictionary does not matter.
Property names must be hashable: they hold no list, no dictionary and no buffer.
-/

namespace KafkaHandles.Value

/-- Equality of values without parts. -/
def sameAtom (v w : Value) : Bool :=
  match v.integral?, w.integral? with
  | some m, some n => m == n
  | some m, Option.none => match w with
    | .float y _ => y.eqInt m
    | _ => false
  | Option.none, some n => match v with
    | .float x _ => x.eqInt n
    | _ => false
  | Option.none, Option.none =>
    match v.bytes?, w.bytes? with
    | some bs, some cs => bs == cs
    | _, _ => match v, w with
      | .none, .none => true
      | .float x i, .float y j => x.same y || (x == y && i == j)
      | .text s, .text t => s == t
      | .policy p, .policy q => p == q
      | .role r, .role s => r == s
      | .logSink, .logSink => true
      | .object i, .object j => i == j
      | _, _ => false

mutual

/-- Equality of values. -/
def same : Value → Value → Bool
  | .list vs, .list ws => sameEach vs ws
  | .tuple vs, .tuple ws => sameEach vs ws
  | .dict es, .dict fs => es.length == fs.length && sameEntries es fs
  | v, w => sameAtom v w

/-- Equality of values at the same places. -/
def sameEach : List Value → List Value → Bool
  | [], [] => true
  | v :: vs, w :: ws => same v w && sameEach vs ws
  | _, _ => false

/-- Every entry has an equal one among the others. -/
def sameEntries : List (Value × Value) → List (Value × Value) → Bool
  | [], _ => true
  | (k, v) :: es, fs => fs.any (fun f => same k f.1 && same v f.2) && sameEntries es fs

end

mutual

/-- The kind that keeps a value from being a property name, if there is one. -/
def unhashable? : Value → Option String
  | .list _ => some "list"
  | .dict _ => some "dict"
  | .buffer _ => some "bytearray"
  | .tuple vs => unhashableAmong? vs
  | _ => Option.none

/-- The first kind among the values that keeps them from being a property name. -/
def unhashableAmong? : List Value → Option String
  | [] => Option.none
  | v :: vs => match unhashable? v with
    | some kind => some kind
    | Option.none => unhashableAmong? vs

end

end KafkaHandles.Value
