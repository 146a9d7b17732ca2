/-!
# Client errors

What a client library says has gone wrong: a code, a reason, and whether the error is fatal or may
be tried again. Every code has a name and a text that stands in for a missing reason.
-/

namespace KafkaHandles

/-- A known error code with its name and its text. -/
structure ErrorCode where
  code : Int
  name : String
  text : String

/-- The error codes that have names. -/
def errorCodes : List ErrorCode := [
  ⟨-199, "_BAD_MSG", "Local: Bad message format"⟩,
  ⟨-198, "_BAD_COMPRESSION", "Local: Invalid compressed data"⟩,
  ⟨-197, "_DESTROY", "Local: Broker handle destroyed for termination"⟩,
  ⟨-196, "_FAIL", "Local: Communication failure with broker"⟩,
  ⟨-195, "_TRANSPORT", "Local: Broker transport failure"⟩,
  ⟨-193, "_RESOLVE", "Local: Host resolution failure"⟩,
  ⟨-192, "_MSG_TIMED_OUT", "Local: Message timed out"⟩,
  ⟨-191, "_PARTITION_EOF", "Broker: No more messages"⟩,
  ⟨-190, "_UNKNOWN_PARTITION", "Local: Unknown partition"⟩,
  ⟨-189, "_FS", "Local: File or filesystem error"⟩,
  ⟨-188, "_UNKNOWN_TOPIC", "Local: Unknown topic"⟩,
  ⟨-187, "_ALL_BROKERS_DOWN", "Local: All broker connections are down"⟩,
  ⟨-186, "_INVALID_ARG", "Local: Invalid argument or configuration"⟩,
  ⟨-185, "_TIMED_OUT", "Local: Timed out"⟩,
  ⟨-184, "_QUEUE_FULL", "Local: Queue full"⟩,
  ⟨-169, "_AUTHENTICATION", "Local: Authentication failure"⟩,
  ⟨-168, "_NO_OFFSET", "Local: No offset stored"⟩,
  ⟨-167, "_OUTDATED", "Local: Outdated"⟩,
  ⟨-152, "_PURGE_QUEUE", "Local: Purged in queue"⟩,
  ⟨-151, "_PURGE_INFLIGHT", "Local: Purged in flight"⟩,
  ⟨-150, "_FATAL", "Local: Fatal error"⟩,
  ⟨-1, "UNKNOWN", "Unknown broker error"⟩,
  ⟨0, "NO_ERROR", "Success"⟩,
  ⟨1, "OFFSET_OUT_OF_RANGE", "Broker: Offset out of range"⟩,
  ⟨2, "INVALID_MSG", "Broker: Invalid message"⟩,
  ⟨3, "UNKNOWN_TOPIC_OR_PART", "Broker: Unknown topic or partition"⟩,
  ⟨5, "LEADER_NOT_AVAILABLE", "Broker: Leader not available"⟩,
  ⟨6, "NOT_LEADER_FOR_PARTITION", "Broker: Not leader for partition"⟩,
  ⟨7, "REQUEST_TIMED_OUT", "Broker: Request timed out"⟩,
  ⟨9, "REPLICA_NOT_AVAILABLE", "Broker: Replica not available"⟩,
  ⟨10, "MSG_SIZE_TOO_LARGE", "Broker: Message size too large"⟩,
  ⟨17, "TOPIC_EXCEPTION", "Broker: Invalid topic"⟩,
  ⟨22, "ILLEGAL_GENERATION", "Broker: Specified group generation id is not valid"⟩,
  ⟨25, "UNKNOWN_MEMBER_ID", "Broker: Unknown member"⟩,
  ⟨29, "TOPIC_AUTHORIZATION_FAILED", "Broker: Topic authorization failed"⟩,
  ⟨30, "GROUP_AUTHORIZATION_FAILED", "Broker: Group authorization failed"⟩,
  ⟨41, "NOT_CONTROLLER", "Broker: Not controller for cluster"⟩]

namespace ErrorCode

/-- The row of a code, if it has one. -/
def find? (code : Int) : Option ErrorCode :=
  errorCodes.find? (·.code == code)

/-- The name of a code; one without a name is named by its number. -/
def nameOf (code : Int) : String :=
  match find? code with
  | some e => e.name
  | none => "ERR_" ++ toString code ++ "?"

/-- The text of a code; one without a text is told by its number. -/
def textOf (code : Int) : String :=
  match find? code with
  | some e => e.text
  | none => "Err-" ++ toString code ++ "?"

/-- The end of a partition has been reached, which is not a failure. -/
def partitionEnd : Int := -191

/-- An argument or a property is not valid. -/
def invalidArgument : Int := -186

/-- Something has not happened in time. -/
def timedOut : Int := -185

/-- The queue of outgoing messages is full. -/
def queueFull : Int := -184

/-- A message was purged from the queue. -/
def purged : Int := -152

/-- Nothing has gone wrong. -/
def success : Int := 0

end ErrorCode

/-- An error that a client library reports. -/
structure ClientError where
  code : Int
  reason : String
  fatal : Bool := false
  retriable : Bool := false
  deriving DecidableEq, Repr

namespace ClientError

/-- An error with a code and, where no reason is given, the text of the code. -/
def ofCode (code : Int) (reason : Option String) : ClientError :=
  { code, reason := reason.getD (ErrorCode.textOf code) }

/-- Whether a text can be a reason: it holds no NUL. -/
def isReason (text : String) : Bool :=
  !text.toList.contains (Char.ofNat 0)

/-- The name of the error's code. -/
def name (e : ClientError) : String :=
  ErrorCode.nameOf e.code

/-- The error in full, as a log line shows it. The reason stands as it is. -/
def shown (e : ClientError) : String :=
  "KafkaError\x7b" ++ (if e.fatal then "FATAL," else "") ++ "code=" ++ e.name ++ ",val=" ++
    toString e.code ++ ",str=\"" ++ e.reason ++ "\"\x7d"

end ClientError

end KafkaHandles
