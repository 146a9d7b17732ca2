import KafkaHandles.Config
import KafkaHandles.Producer.Basic
import KafkaHandles.Program.Options
import KafkaHandles.Program.Terminal

/-!
# Sending typed lines

A program that sends every line of its input as a record. A line with exactly one delimiter in it
holds a key and a value; of any other line the part before the first delimiter is the value, without
a key. A record that the brokers reject is told of and does not keep the next from being sent.
-/

namespace KafkaHandles

/-- What the program is asked to do. -/
structure LineSender where
  servers : Value
  topic : Value := .text "example_producer_mtls"
  delimiter : Value := .text "|"
  /-- A directory with the files for mutual TLS; it goes before the locations. -/
  directory : Value := .none
  caLocation : Value := .none
  certificateLocation : Value := .none
  keyLocation : Value := .none
  verbose : Bool := false

namespace LineSender

/-! ## The command line -/

/-- The options of the program. -/
def rules : List OptionRule := [
  ⟨["-b"], .text, true⟩,
  ⟨["-t"], .text, false⟩,
  ⟨["-d"], .text, false⟩,
  ⟨["--cert-dir"], .text, false⟩,
  ⟨["--ca"], .text, false⟩,
  ⟨["--cert"], .text, false⟩,
  ⟨["--key"], .text, false⟩,
  ⟨["-v"], .switch, false⟩]

/-- What the options ask for. -/
def ofGiven (given : List (String × Given)) : LineSender :=
  let plain : LineSender := { servers := CommandLine.value given "-b" }
  { plain with
    topic := CommandLine.valueOr plain.topic given "-t"
    delimiter := CommandLine.valueOr plain.delimiter given "-d"
    directory := CommandLine.value given "--cert-dir"
    caLocation := CommandLine.value given "--ca"
    certificateLocation := CommandLine.value given "--cert"
    keyLocation := CommandLine.value given "--key"
    verbose := CommandLine.isSet given "-v" }

/-! ## Records -/

/-- The texts of a record to send. -/
structure KeyedText where
  key : Option String
  value : String
  deriving DecidableEq, Repr

/-- The record that a line holds. -/
def record (delimiter line : String) : Except Fault KeyedText :=
  if delimiter.isEmpty then .error .separatorEmpty
  else .ok <| match Text.split delimiter line with
    | [key, value] => ⟨some key, value⟩
    | first :: _ => ⟨none, first⟩
    | [] => ⟨none, ""⟩

/-- The record that a line holds, with a delimiter of any kind. -/
def recordBy (delimiter : Value) (line : String) : Except Fault KeyedText :=
  match delimiter with
  | .text d => record d line
  | v => .error (.separatorNotText v.kindName)

/-- A key as a line of output tells it. -/
def keyText (r : KeyedText) : String :=
  r.key.getD "None"

/-- A topic as a line of output tells it. The topics of command lines all have a text. -/
def topicText (topic : Value) : String :=
  topic.plain.toOption.getD ""

/-- The line about a record that has been stored. -/
def successText (topic : Value) (r : KeyedText) (place : Receipt) : String :=
  "Record " ++ keyText r ++ " successfully produced to " ++ topicText topic ++ " [" ++
    toString place.partition ++ "] at offset " ++ toString place.offset

/-- The line about a record that has been rejected. -/
def failureText (r : KeyedText) (f : Fault) : String :=
  "Delivery failed for record " ++ keyText r ++ ": " ++ f.message

/-! ## Running -/

variable {σ : Type} (L : Library σ)

/-- The configuration of the producer. -/
def config (o : LineSender) : Except Fault Config := do
  match o.directory with
  | .none =>
    Config.build { servers := o.servers, caLocation := o.caLocation,
                   certificateLocation := o.certificateLocation, keyLocation := o.keyLocation }
  | directory =>
    let tls ← Tls.ofDirectory directory
    Config.build { servers := o.servers, caLocation := .text tls.caLocation,
                   certificateLocation := .text tls.certificateLocation,
                   keyLocation := .text tls.keyLocation }

/-- Sends a record and tells what has become of it. The answer tells whether the send has come to
its end. -/
def sendRecord (fuel : Nat) (topic : Value) (r : KeyedText) :
    Action (Terminal × Producer × World σ) Bool := do
  let send := Producer.send L fuel topic (.text r.value) (Value.ofOption r.key) .none
  match ← (Terminal.logged (·.2.log) send).attempt with
  | .ok (some place) =>
    Terminal.print (successText topic r place)
    pure true
  | .ok none => pure false
  | .error f =>
    if f.cls = .broker then
      Terminal.print (failureText r f)
      pure true
    else Action.fail f

/-- Prompts for lines and sends them, to the end of the input or an interrupt at the prompt. The
answer tells whether this has been reached. -/
def sendLines (fuel : Nat) (topic delimiter : Value) :
    List String → Action (Terminal × Producer × World σ) Bool
  | [] => do
    Terminal.prompt ">"
    pure true
  | line :: rest => do
    Terminal.prompt ">"
    let r ← Action.lift (recordBy delimiter line)
    if ← sendRecord L fuel topic r then sendLines fuel topic delimiter rest else pure false

/-- Runs the program with the lines of its input. The producer is destroyed however the program
ends. -/
def run (fuel : Nat) (lines : List String) (o : LineSender) :
    Action (Terminal × World σ) Bool := do
  let config ← Action.lift o.config
  let p ← Terminal.logged (·.log) (Producer.make L (.config config))
  Terminal.holding p <| Action.thenAtEnd (do
      Terminal.print ("Producing records to topic " ++ topicText o.topic ++ ". ^C to exit.")
      sendLines L fuel o.topic o.delimiter lines)
    (Terminal.logged (·.2.log) (Producer.destroy L))

/-- The terminal on which the program starts. -/
def terminal (o : LineSender) : Terminal :=
  { threshold := if o.verbose then LogLevel.debug else LogLevel.info }

end LineSender

end KafkaHandles
