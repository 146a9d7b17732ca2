import KafkaHandles.ClientError
import KafkaHandles.Refusal
import KafkaHandles.Value.Template

/-!
# Faults

Everything an operation can end in instead of a value. A fault is a refusal, an error of the client
library in one of four wrappings, a misuse of one of this library's own objects, a number or text
that does not fit where it is put, or something that the client library raised for reasons of its
own. Every fault has a class; some classes are part of others.
-/

namespace KafkaHandles

/-- The classes that operations ask a fault for, and that others may be part of. -/
inductive BaseClass
  | runtime
  | value
  | type
  | buffer
  deriving DecidableEq, Repr

/-- The classes of the faults that anything may raise. -/
inductive GeneralClass
  | runtime
  /-- An operation that is not supported: part of the failures at run time. -/
  | unsupported
  | value
  | type
  | overflow
  | memory
  | buffer
  | interrupt
  /-- Any other class, by name, with the classes that it is part of. -/
  | other (name : String) (within : List BaseClass)
  deriving DecidableEq, Repr

/-- The classes of faults. -/
inductive FaultClass
  | validation
  | client
  | broker
  | connection
  | config
  | decode
  | attribute
  | frozen
  | key
  | general (c : GeneralClass)
  deriving DecidableEq, Repr

namespace FaultClass

/-- The class of the client library's errors, with the wrappings that are part of it. -/
def isClient : FaultClass → Bool
  | client | broker | connection | config => true
  | _ => false

/-- The class of values that are wrong, with the classes that are part of it. -/
def isValue : FaultClass → Bool
  | general .value | validation | decode => true
  | general (.other _ within) => within.contains .value
  | _ => false

/-- The class of values of a wrong kind, with the classes that are part of it. -/
def isType : FaultClass → Bool
  | general .type => true
  | general (.other _ within) => within.contains .type
  | _ => false

/-- The class of failures at run time, with the classes that are part of it. -/
def isRuntime : FaultClass → Bool
  | general .runtime | general .unsupported => true
  | general (.other _ within) => within.contains .runtime
  | _ => false

/-- The class of buffers that are full, with the classes that are part of it. -/
def isBuffer : FaultClass → Bool
  | general .buffer => true
  | general (.other _ within) => within.contains .buffer
  | _ => false

end FaultClass

/-- What a client library raises: an error of its own, or something of a general class. -/
inductive ClientFault
  | error (e : ClientError)
  | raised (c : GeneralClass) (text : String)
  deriving DecidableEq, Repr

/-- What an operation ends in instead of a value. -/
inductive Fault
  /-- An argument is refused. -/
  | refused (cause : Refusal)
  /-- The client library's own error, as it raised it. -/
  | client (e : ClientError)
  /-- An error that a broker or the client reported for an operation. -/
  | broker (e : ClientError)
  /-- The client could not be created. -/
  | connection (e : ClientError)
  /-- A property is rejected; its name is `none` if nobody told it. -/
  | config (property : Value) (e : ClientError)
  /-- The property set has been handed over. -/
  | propertiesTransferred
  /-- The property set has been released. -/
  | propertiesReleased
  /-- The outcome of a delivery is asked for before it is known. -/
  | outcomePending
  /-- A field of a record is set. -/
  | recordFrozen
  /-- A property name is of a kind that cannot be one. -/
  | unhashable (kind : String)
  /-- A value of some kind has no attribute of a name. -/
  | attributeMissing (kind name : String)
  /-- A value of some kind has no length. -/
  | lengthMissing (kind : String)
  /-- A value of some kind cannot be compared with an integer in this way. -/
  | notComparable (relation kind : String)
  /-- A log level is not an integer. -/
  | levelNotInteger
  /-- A template does not fit its arguments. -/
  | template (flaw : TemplateFlaw)
  /-- The text of a value cannot be made. -/
  | untold (flaw : TextFlaw)
  /-- Bytes are not UTF-8. -/
  | undecodable (r : Utf8.Refused)
  /-- An integer lies beyond the binary64 numbers. -/
  | integerBeyondFloat
  /-- An integer that is to fit into 32 bits lies above them. -/
  | integerAboveInt32
  /-- An integer that is to fit into 32 bits lies below them. -/
  | integerBelowInt32
  /-- An integer that is to fit into 32 bits lies even beyond 64. -/
  | integerBeyondInt64
  /-- An offset lies beyond 64 bits. -/
  | offsetBeyondInt64
  /-- A wait is longer than clocks can count. -/
  | waitTooLong
  /-- A wait has wrapped around to a negative one. -/
  | waitNegative
  /-- A topic or a reason holds a NUL. -/
  | textHoldsNul
  /-- A value of some kind stands where an integer is needed. -/
  | integerNeeded (kind : String)
  /-- A value of some kind stands where a reason or none is needed. -/
  | reasonNeeded (kind : String)
  /-- A value of some kind stands where a file name is needed. -/
  | fileNameNeeded (kind : String)
  /-- A file name is given in bytes, and its directory as text. -/
  | fileNameInBytes
  /-- A value of some kind stands where text is searched. -/
  | searchNeedsText (kind : String)
  /-- Bytes stand where text is searched. -/
  | searchInBytes
  /-- A text is cut at an empty separator. -/
  | separatorEmpty
  /-- A text is cut at a value of some kind. -/
  | separatorNotText (kind : String)
  /-- A function has no parameter of a name. -/
  | argumentUnknown (function name : String)
  /-- A function is not given all that it needs. -/
  | argumentsMissing (function : String) (names : List String)
  /-- A function that takes some number of arguments is given more. -/
  | argumentsExcess (function : String) (least most given : Nat)
  /-- Something of a general class that the client library raised, with its text. -/
  | raised (c : GeneralClass) (text : String)

/-- The class of a text flaw. -/
def TextFlaw.cls : TextFlaw → FaultClass
  | .digitsTooMany => .general .value
  | .nestedTooDeep => .general (.other "RecursionError" [.runtime])

/-- The class of a template flaw. -/
def TemplateFlaw.cls : TemplateFlaw → FaultClass
  | .keyIncomplete | .conversionIncomplete | .letterUnknown .. | .nanToInteger => .general .value
  | .keyMissing _ => .key
  | .widthTooBig | .precisionTooBig => .general .value
  | .tooLargeForFloat | .infinityToInteger | .characterOutOfRange | .starBeyondInt64
  | .starBeyondInt32 | .digitsTooMany => .general .overflow
  | .fieldTooWide => .general .memory
  | .untold flaw => flaw.cls
  | _ => .general .type

namespace Fault

/-- What a client library raised, as it leaves an operation that does nothing about it. -/
def ofClient : ClientFault → Fault
  | .error e => client e
  | .raised c text => raised c text

/-- A new client error with a code and a reason, in a wrapping. A text that cannot be a reason is a
fault of its own. -/
def wrapping (wrap : ClientError → Fault) (code : Int) (reason : String) : Fault :=
  if ClientError.isReason reason then wrap (.ofCode code reason) else textHoldsNul

/-- The class of a fault. -/
def cls : Fault → FaultClass
  | refused _ => .validation
  | client _ => .client
  | broker _ => .broker
  | connection _ => .connection
  | config .. => .config
  | propertiesTransferred | propertiesReleased | outcomePending => .general .runtime
  | recordFrozen => .frozen
  | unhashable _ | lengthMissing _ | notComparable .. | levelNotInteger | integerNeeded _
  | reasonNeeded _ | fileNameNeeded _ | fileNameInBytes | searchNeedsText _ | searchInBytes
  | separatorNotText _ | argumentUnknown .. | argumentsMissing .. | argumentsExcess .. =>
    .general .type
  | attributeMissing .. => .attribute
  | template flaw => flaw.cls
  | untold flaw => flaw.cls
  | undecodable _ => .decode
  | integerBeyondFloat | integerAboveInt32 | integerBelowInt32 | integerBeyondInt64
  | offsetBeyondInt64 | waitTooLong => .general .overflow
  | waitNegative | textHoldsNul | separatorEmpty => .general .value
  | raised c _ => .general c

/-- The client error that a fault wraps, if it wraps one. -/
def clientError? : Fault → Option ClientError
  | client e | broker e | connection e | config _ e => some e
  | _ => none

/-- The wording of the bytes that are not UTF-8. -/
def utf8Message (r : Utf8.Refused) : String :=
  let flaw := match r.flaw with
    | .start => "invalid start byte"
    | .ended => "unexpected end of data"
    | .continuation => "invalid continuation byte"
  "'utf-8' codec can't decode " ++
    (if r.count = 1 then
      "byte 0x" ++ Text.hex 2 r.first.toNat ++ " in position " ++ Text.decimal r.position
    else
      "bytes in position " ++ Text.decimal r.position ++ "-" ++
        Text.decimal (r.position + r.count - 1)) ++
    ": " ++ flaw

/-- A list of names, each in quotes. -/
def namesText (names : List String) : String :=
  match names.map Text.Quoted.text with
  | [a, b] => a ++ " and " ++ b
  | names => match names.getLast? with
    | some last =>
      if names.length = 1 then last else Text.join ", " names.dropLast ++ ", and " ++ last
    | none => ""

/-- The word for some number of arguments. -/
def argumentWord (n : Nat) : String :=
  if n = 1 then "argument" else "arguments"

/-- The wording of how many arguments a function takes. -/
def takenText (least most : Nat) : String :=
  if least = most then Text.decimal most ++ " positional " ++ argumentWord most
  else "from " ++ Text.decimal least ++ " to " ++ Text.decimal most ++ " positional arguments"

/-- The wording of a fault. For a client error in its own wrapping, the reason. -/
def message : Fault → String
  | refused cause => cause.message
  | client e | broker e | connection e | config _ e => e.reason
  | propertiesTransferred => "Configuration has already been transferred"
  | propertiesReleased => "Configuration has been released"
  | outcomePending => "Delivery outcome is not available yet"
  | recordFrozen => "can't set attribute"
  | unhashable kind => "unhashable type: '" ++ kind ++ "'"
  | attributeMissing kind name => "'" ++ kind ++ "' object has no attribute '" ++ name ++ "'"
  | lengthMissing kind => "object of type '" ++ kind ++ "' has no len()"
  | notComparable relation kind =>
    "'" ++ relation ++ "' not supported between instances of '" ++ kind ++ "' and 'int'"
  | levelNotInteger => "level must be an integer"
  | template flaw => flaw.message
  | untold flaw => flaw.message
  | undecodable r => utf8Message r
  | integerBeyondFloat => "int too large to convert to float"
  | integerAboveInt32 => "signed integer is greater than maximum"
  | integerBelowInt32 => "signed integer is less than minimum"
  | integerBeyondInt64 => "Python int too large to convert to C long"
  | offsetBeyondInt64 => "int too big to convert"
  | waitTooLong => "timestamp too large to convert to C _PyTime_t"
  | waitNegative => "timeout value must be positive"
  | textHoldsNul => "embedded null character"
  | integerNeeded kind => "'" ++ kind ++ "' object cannot be interpreted as an integer"
  | reasonNeeded kind => "argument 2 must be str or None, not " ++ kind
  | fileNameNeeded kind =>
    "join() argument must be str, bytes, or os.PathLike object, not '" ++ kind ++ "'"
  | fileNameInBytes => "Can't mix strings and bytes in path components"
  | searchNeedsText kind => "expected string or bytes-like object, got '" ++ kind ++ "'"
  | searchInBytes => "cannot use a string pattern on a bytes-like object"
  | separatorEmpty => "empty separator"
  | separatorNotText kind => "must be str or None, not " ++ kind
  | argumentUnknown function name =>
    function ++ "() got an unexpected keyword argument " ++ Text.Quoted.text name
  | argumentsMissing function names =>
    function ++ "() missing " ++ Text.decimal names.length ++ " required positional " ++
      argumentWord names.length ++ ": " ++ namesText names
  | argumentsExcess function least most given =>
    function ++ "() takes " ++ takenText least most ++ " but " ++ Text.decimal given ++
      (if given = 1 then " was given" else " were given")
  | raised _ text => text

/-- The text of a fault in a log line: a client error that carries no other class is told in full.
-/
def logText : Fault → String
  | client e => e.shown
  | f => f.message

end Fault

end KafkaHandles
