import KafkaHandles.Config

/-!
# Records

The immutable records that operations answer with: messages, ends of partitions and delivery
receipts. Records, TLS material and configurations have a common form for display and comparison: a
title and values for the fields of that title.
-/

namespace KafkaHandles

/-- A message read from a partition. -/
structure Message where
  key : Option Bytes
  value : Option Bytes
  topic : String
  partition : Int
  offset : Int
  deriving DecidableEq, Repr

/-- The end of a partition, which is no message. -/
structure PartitionEnd where
  topic : String
  partition : Int
  offset : Int
  deriving DecidableEq, Repr

/-- Where a message that was sent is stored. -/
structure Receipt where
  partition : Int
  offset : Int
  deriving DecidableEq, Repr

namespace Message

/-- The text of bytes, or of nothing. -/
def textOf (bs : Option Bytes) : Except Fault (Option String) :=
  match bs with
  | none => .ok none
  | some bs => match Utf8.toText bs with
    | .ok s => .ok (some s)
    | .error r => .error (.undecodable r)

/-- The key as text. -/
def keyText (m : Message) : Except Fault (Option String) :=
  textOf m.key

/-- The value as text. -/
def valueText (m : Message) : Except Fault (Option String) :=
  textOf m.value

end Message

/-- The kinds of records that can be displayed and compared. -/
inductive RecordKind
  | message
  | partitionEnd
  | receipt
  | tls
  | config
  deriving DecidableEq, Repr

/-- The title of a kind of records. -/
def RecordKind.title : RecordKind → String
  | .message => "Message"
  | .partitionEnd => "PartitionEOF"
  | .receipt => "DeliveryReceipt"
  | .tls => "TlsMaterial"
  | .config => "ConnectionConfig"

/-- The fields of a kind of records, as the parameters of those who make one. -/
def RecordKind.fields : RecordKind → List Parameter
  | .message =>
    [.needed "key", .needed "value", .needed "topic", .needed "partition", .needed "offset"]
  | .partitionEnd => [.needed "topic", .needed "partition", .needed "offset"]
  | .receipt => [.needed "partition", .needed "offset"]
  | .tls => [.needed "ca_location", .needed "certificate_location", .needed "key_location"]
  | .config => [.needed "bootstrap_servers", .absent "group_id", .absent "tls",
      ⟨"offset_policy", some (.policy .latest)⟩, ⟨"properties", some (.dict [])⟩]

/-- The signature of those who make a record. -/
def RecordKind.signature (k : RecordKind) : Signature where
  function := k.title ++ ".__init__"
  parameters := k.fields
  preceding := 1

/-- A record: its kind and the values of its fields. -/
structure Record where
  kind : RecordKind
  values : List Value

namespace Record

/-- The record with the first fields given, and the others as they are when left out. -/
def ofArguments (kind : RecordKind) (given : List Value) : Except Fault Record := do
  let s := kind.signature
  let a ← s.place given
  s.check a
  .ok ⟨kind, kind.fields.map fun p => s.value a p.name⟩

/-- The text of a record. -/
def shown (r : Record) : Except TextFlaw String := do
  let parts ← (r.kind.fields.zip r.values).mapM fun (p, v) => v.shown.map (p.name ++ "=" ++ ·)
  .ok (r.kind.title ++ "(" ++ Text.join ", " parts ++ ")")

/-- Equality of records: the same kind, and equal values. -/
def same (a b : Record) : Bool :=
  a.kind == b.kind && Value.sameEach a.values b.values

/-- No field of a record can be set. -/
def setField (_ : Record) (_ : String) (_ : Value) : Except Fault Unit :=
  .error .recordFrozen

/-- The text of a field that holds bytes or nothing. -/
def textOf (v : Value) : Except Fault (Option String) :=
  match v with
  | .none => .ok none
  | .bytes bs | .buffer bs => Message.textOf (some bs)
  | v => .error (.attributeMissing v.kindName "decode")

end Record

end KafkaHandles
