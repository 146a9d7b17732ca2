import KafkaHandles.Program.LineSender
import KafkaHandles.Program.RecordPrinter
import KafkaHandles.Scripted.Client

/-!
# Trying the programs out

Runs one of the two programs against a client that follows a script instead of one that is
connected: every record is stored at once, and there is one message to read before an interrupt. The
first argument selects the program, and the others are the program's own.
-/

namespace KafkaHandles.Main

/-- The message that is there to be read. -/
def greeting : Fetched where
  topic := "greetings"
  partition := 0
  offset := 0
  key := .none
  value := .bytes (Utf8.ofText "hello")
  error := none

/-- The script that the client follows. -/
def script : Script where
  polls := [{ message := some greeting }, { fault := some (.raised .interrupt "") }]

/-- The world in which a program starts. -/
def start : World Scripted :=
  { library := { nextLabel := "client", nextScript := script } }

/-- How many steps an operation may take. -/
def patience : Nat := 10000000

/-- What a program writes, and its exit code. -/
structure Outcome where
  output : String := ""
  errors : String := ""
  code : UInt32 := 0

/-- The outcome of a run. -/
def outcomeOf (run : Except Fault Bool × Terminal × World Scripted) : Outcome :=
  match run with
  | (.ok _, t, _) => { output := t.output, errors := t.errors }
  | (.error f, t, _) => { output := t.output, errors := t.errors ++ f.message ++ "\n", code := 1 }

/-- The outcome of a command line that is not accepted. -/
def rejected : Outcome :=
  { errors := "usage: send OPTIONS | print OPTIONS\n", code := 2 }

/-- Runs the program that is selected. -/
def run (arguments : List String) (input : String) : Outcome :=
  match arguments with
  | "send" :: options => match CommandLine.read LineSender.rules options with
    | .accepted given =>
      let o := LineSender.ofGiven given
      outcomeOf ((LineSender.run Scripted.library patience (Terminal.lines input) o).run
        (o.terminal, start))
    | _ => rejected
  | "print" :: options => match CommandLine.read RecordPrinter.rules options with
    | .accepted given =>
      outcomeOf ((RecordPrinter.run Scripted.library patience (RecordPrinter.ofGiven given)).run
        (RecordPrinter.terminal, start))
    | _ => rejected
  | _ => rejected

/-- Reads a stream to its end. -/
partial def readAll (input : IO.FS.Stream) (read : String) : IO String := do
  let line ← input.getLine
  if line.isEmpty then pure read else readAll input (read ++ line)

end KafkaHandles.Main

/-- Runs the program that the command line selects. -/
def main (arguments : List String) : IO UInt32 := do
  let outcome := KafkaHandles.Main.run arguments (← KafkaHandles.Main.readAll (← IO.getStdin) "")
  (← IO.getStdout).putStr outcome.output
  (← IO.getStderr).putStr outcome.errors
  pure outcome.code
