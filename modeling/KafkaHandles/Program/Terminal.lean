import KafkaHandles.Client.World

/-!
# Terminals

What a program writes: its output, and its error output, in which the records of the log stand
between the program's own lines in the order in which everything was written.
-/

namespace KafkaHandles

/-- The two outputs of a program, and how much of the log they have taken up. -/
structure Terminal where
  output : String := ""
  errors : String := ""
  /-- The level from which on records are shown. -/
  threshold : Int
  /-- How many records of the log have been taken up. -/
  seen : Nat := 0

namespace Terminal

/-! ## Writing -/

/-- Writes to the output. -/
def write (s : String) (t : Terminal) : Terminal :=
  { t with output := t.output ++ s }

/-- Writes to the error output. -/
def writeError (s : String) (t : Terminal) : Terminal :=
  { t with errors := t.errors ++ s }

/-- The line that shows a record. A record without a text has none. -/
def line (r : LogRecord) : String :=
  match r.text with
  | .ok text => LogLevel.nameOf r.level ++ ":" ++ r.logger ++ ":" ++ text ++ "\n"
  | .error _ => ""

/-- Shows the records that have been added to the log. -/
def takeUp (log : List LogRecord) (t : Terminal) : Terminal :=
  let shown := (log.drop t.seen).filter fun r => t.threshold ≤ r.level
  { t.writeError (String.join (shown.map line)) with seen := log.length }

/-! ## Actions with a terminal -/

variable {S T α : Type}

/-- Writes a line to the output. -/
def print (s : String) : Action (Terminal × S) Unit :=
  Action.modify fun (t, rest) => (t.write (s ++ "\n"), rest)

/-- Writes a prompt to the output. -/
def prompt (s : String) : Action (Terminal × S) Unit :=
  Action.modify fun (t, rest) => (t.write s, rest)

/-- Writes a line to the error output. -/
def complain (s : String) : Action (Terminal × S) Unit :=
  Action.modify fun (t, rest) => (t.writeError (s ++ "\n"), rest)

/-- Runs an action and shows the records that it adds to the log, however it ends. -/
def logged (log : S → List LogRecord) (a : Action S α) : Action (Terminal × S) α := fun (t, s) =>
  match a s with
  | (r, s) => (r, (t.takeUp (log s), s))

/-- Runs an action that has a handle besides the terminal and the rest of the state. -/
def holding (h : T) (a : Action (Terminal × T × S) α) : Action (Terminal × S) α := fun (t, s) =>
  match a (t, h, s) with
  | (r, (t, _, s)) => (r, (t, s))

/-! ## What actions do besides writing -/

theorem print_apply (text : String) (t : Terminal) (s : S) :
    print text (t, s) = (.ok (), (t.write (text ++ "\n"), s)) := rfl

theorem prompt_apply (text : String) (t : Terminal) (s : S) :
    prompt text (t, s) = (.ok (), (t.write text, s)) := rfl

theorem logged_apply {a : Action S α} {s u : S} {r : Except Fault α} (h : a s = (r, u))
    (log : S → List LogRecord) (t : Terminal) :
    logged log a (t, s) = (r, (t.takeUp (log u), u)) := by
  simp only [logged, h]

theorem holding_apply {a : Action (Terminal × T × S) α} {h h' : T} {t t' : Terminal} {s s' : S}
    {r : Except Fault α} (ha : a (t, h, s) = (r, (t', h', s'))) :
    holding h a (t, s) = (r, (t', s')) := by
  simp only [holding, ha]

/-! ## Input -/

/-- The lines of an input. Each is ended by a newline, but the last may lack it. -/
def lines (input : String) : List String :=
  let pieces := Text.split "\n" input
  if pieces.getLast? = some "" then pieces.dropLast else pieces

end Terminal

end KafkaHandles
