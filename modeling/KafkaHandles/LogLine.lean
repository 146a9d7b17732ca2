import KafkaHandles.Fault

/-!
# Log lines

Records of the log, and the lines that the client library hands over for it. Their levels are
narrowed to those from debug to error. A line without arguments is not treated as a template.
-/

namespace KafkaHandles

namespace LogLevel

def debug : Int := 10
def info : Int := 20
def warning : Int := 30
def error : Int := 40

/-- The name of a level. -/
def nameOf (level : Int) : String :=
  if level = debug then "DEBUG"
  else if level = info then "INFO"
  else if level = warning then "WARNING"
  else if level = error then "ERROR"
  else if level = 50 then "CRITICAL"
  else "Level " ++ toString level

/-- A level narrowed to those from debug to error. Levels between are kept as they are, and so is
what is no number. -/
def clamp (level : Value) : Except Fault Value :=
  match level with
  | .bool _ => .ok (.int debug)
  | .int n => .ok (.int (if n > error then error else if n ≤ debug then debug else n))
  | .float x i => .ok <|
      if x.gtInt error then .int error
      else if x.ltInt debug || x.eqInt debug then .int debug
      else .float x i
  | v => .error (.notComparable ">" v.kindName)

end LogLevel

/-- A record of the log. Its text is a fault where a template does not fit its arguments. -/
structure LogRecord where
  logger : String
  level : Int
  text : Except Fault String

/-- The loggers that records name. -/
inductive Logger
  | handle
  | producer
  | consumer
  | client
  deriving DecidableEq, Repr

/-- The name of a logger. -/
def Logger.name : Logger → String
  | .handle => "kafka_bridge._handle"
  | .producer => "kafka_bridge.producer"
  | .consumer => "kafka_bridge.consumer"
  | .client => "kafka_bridge.librdkafka"

/-- A line of the client library: a level, a message, and arguments for it. -/
structure LogLine where
  level : Value
  message : Value
  arguments : List Value

namespace LogLine

/-- The text of a line. -/
def text (l : LogLine) : Except Fault String := do
  let message ← l.message.plain.mapError .untold
  if l.arguments.isEmpty then .ok message
  else (Template.fill message l.arguments).mapError .template

/-- The record of a line. -/
def record (l : LogLine) (logger : String) : Except Fault LogRecord := do
  match ← LogLevel.clamp l.level with
  | .int level => .ok { logger, level, text := l.text }
  | _ => .error .levelNotInteger

/-- The records that a line leaves in a log that begins at a level. -/
def recordsFrom (l : LogLine) (logger : String) (threshold : Int) :
    Except Fault (List LogRecord) := do
  let r ← l.record logger
  .ok (if threshold ≤ r.level then [r] else [])

end LogLine

end KafkaHandles
