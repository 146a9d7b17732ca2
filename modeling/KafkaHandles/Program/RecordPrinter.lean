import KafkaHandles.Consumer.Basic
import KafkaHandles.Program.Options
import KafkaHandles.Program.Terminal

/-!
# Printing records

A program that prints the values of all messages of a topic, or of one of its partitions, until it
is interrupted or fails. Where each message stands is told on the error output.
-/

namespace KafkaHandles

/-- What the program is asked to do. -/
structure RecordPrinter where
  servers : Value
  group : Value
  topic : Value
  caLocation : Value := .none
  certificateLocation : Value := .none
  keyLocation : Value := .none
  earliest : Bool := false
  /-- The only partition to read, if not all are. -/
  partition : Value := .none
  offset : Value := .int 0

namespace RecordPrinter

/-! ## The command line -/

/-- The options of the program. -/
def rules : List OptionRule := [
  ⟨["-b"], .text, true⟩,
  ⟨["-g"], .text, true⟩,
  ⟨["-t"], .text, true⟩,
  ⟨["--ca"], .text, false⟩,
  ⟨["--cert"], .text, false⟩,
  ⟨["--key"], .text, false⟩,
  ⟨["--earliest"], .switch, false⟩,
  ⟨["-p"], .integer, false⟩,
  ⟨["-o"], .integer, false⟩]

/-- What the options ask for. -/
def ofGiven (given : List (String × Given)) : RecordPrinter where
  servers := CommandLine.value given "-b"
  group := CommandLine.value given "-g"
  topic := CommandLine.value given "-t"
  caLocation := CommandLine.value given "--ca"
  certificateLocation := CommandLine.value given "--cert"
  keyLocation := CommandLine.value given "--key"
  earliest := CommandLine.isSet given "--earliest"
  partition := CommandLine.value given "-p"
  offset := CommandLine.valueOr (.int 0) given "-o"

/-! ## Texts -/

/-- Bytes, or nothing, as the program prints them. -/
def printed : Option Bytes → String
  | some bs => Text.Quoted.bytes bs
  | none => "None"

/-- The place of a partition. -/
def placeText (topic : String) (partition : Int) : String :=
  "% " ++ topic ++ " [" ++ toString partition ++ "]"

/-- The line about a message. -/
def messageText (m : Message) : String :=
  placeText m.topic m.partition ++ " at offset " ++ toString m.offset ++ " with key " ++
    printed m.key ++ ":"

/-- The line about the end of a partition. -/
def endText (e : PartitionEnd) : String :=
  placeText e.topic e.partition ++ " reached end at offset " ++ toString e.offset

/-- The line about an interrupt. -/
def abortedText : String := "%% Aborted by user"

/-! ## Running -/

variable {σ : Type} (L : Library σ)

/-- The configuration of the consumer. -/
def config (o : RecordPrinter) : Except Fault Config :=
  Config.build {
    servers := o.servers
    group := o.group
    caLocation := o.caLocation
    certificateLocation := o.certificateLocation
    keyLocation := o.keyLocation
    policy := .text (if o.earliest then "earliest" else "latest") }

/-- Subscribes to the topic, or to the one partition. -/
def subscribe (o : RecordPrinter) : Action (Consumer × World σ) Unit :=
  if o.partition.isNone then Consumer.subscribeByTopic L o.topic .none
  else Consumer.subscribeAtOffset L o.topic o.partition o.offset

/-- Prints what a poll answers with. -/
def tell : Option Polled → Action (Terminal × Consumer × World σ) Unit
  | some (.message m) => do
    Terminal.complain (messageText m)
    Terminal.print (printed m.value)
  | some (.partitionEnd e) => Terminal.complain (endText e)
  | none => pure ()

/-- Polls for a second at a time and prints, up to a fault and for at most `fuel` polls. -/
def printAll : Nat → Action (Terminal × Consumer × World σ) Unit
  | 0 => pure ()
  | fuel + 1 => do
    tell (← Terminal.logged (·.2.log) (Consumer.poll L Consumer.defaultTimeout))
    printAll fuel

/-- Polls and prints until an interrupt. The answer tells whether one has come within `fuel` polls.
-/
def printUntilInterrupt (fuel : Nat) : Action (Terminal × Consumer × World σ) Bool := do
  match ← (printAll L fuel).attempt with
  | .ok _ => pure false
  | .error f =>
    if f.cls = .general .interrupt then
      Terminal.complain abortedText
      pure true
    else Action.fail f

/-- Runs the program for at most `fuel` polls. Once the consumer has been subscribed it is closed
however the program ends. -/
def run (fuel : Nat) (o : RecordPrinter) : Action (Terminal × World σ) Bool := do
  let config ← Action.lift o.config
  let c ← Terminal.logged (·.log) (Consumer.make L (.config config))
  Terminal.holding c do
    Terminal.logged (·.2.log) (subscribe L o)
    Action.thenAtEnd (printUntilInterrupt L fuel) (Terminal.logged (·.2.log) (Consumer.close L))

/-- The terminal on which the program starts. -/
def terminal : Terminal :=
  { threshold := LogLevel.info }

end RecordPrinter

end KafkaHandles
