import KafkaHandles.Value.Text

/-!
# Refusals

The causes for which an argument is refused. A refusal is the caller's mistake, and its message
names the parameter at fault.
-/

namespace KafkaHandles

/-- The two ways a consumer can be told what to read. They exclude each other. -/
inductive Mode
  /-- As a member of a consumer group. -/
  | subscribe
  /-- A partition assigned by the caller. -/
  | assign
  deriving DecidableEq, Repr

/-- The word for a mode. -/
def Mode.word : Mode → String
  | .subscribe => "subscribe"
  | .assign => "assign"

/-- Why an argument is refused. -/
inductive Refusal
  | notText (parameter : String)
  | blank (parameter : String)
  | notInteger (parameter : String)
  | negative (parameter : String)
  | notBytes (parameter : String)
  | notNumber (parameter : String)
  | policyUnknown (shown : String)
  | serversNotListed
  | serverNotText
  | serverBlank
  | serversMissing
  | locationsMissing (names : List String)
  | propertiesNotDict
  | configurationNotDict
  | propertyManaged (name : String)
  | groupMissing
  | configurationExpected
  | handleClosed (role : Role)
  | handleExpected (role : Role)
  | valueMissing
  | modeTaken (mode : Mode)
  | placeIncomplete

namespace Refusal

/-- The wording of a refusal. -/
def message : Refusal → String
  | notText p => "Expected " ++ p ++ " to be a string"
  | blank p => p ++ " cannot be empty"
  | notInteger p => "Expected " ++ p ++ " to be an int"
  | negative p => p ++ " must be >= 0"
  | notBytes p => "Expected " ++ p ++ " to be bytes or str"
  | notNumber p => "Expected " ++ p ++ " to be a number"
  | policyUnknown shown => "Invalid offset policy " ++ shown ++ ", expected one of " ++
      Text.join ", " (OffsetPolicy.all.map OffsetPolicy.word)
  | serversNotListed => "Expected bootstrap_servers to be a list or a comma-separated string"
  | serverNotText => "Expected bootstrap server entries to be strings"
  | serverBlank => "Bootstrap server entries cannot be empty"
  | serversMissing => "Brokers cannot be empty"
  | locationsMissing names => "Certificate paths must be provided together, missing: " ++
      Text.join ", " names
  | propertiesNotDict => "Expected properties to be a dict"
  | configurationNotDict => "Expected configuration dict"
  | propertyManaged name => name ++ " is managed by kafka_bridge and cannot be set"
  | groupMissing => "Group ID cannot be null"
  | configurationExpected => "Expected a ConnectionConfig"
  | handleClosed role => role.title ++ " handle has been closed"
  | handleExpected role => role.title ++ " pointer is null"
  | valueMissing => "Invalid arguments: value cannot be None"
  | modeTaken mode => "Consumer is already using " ++ mode.word ++
      " mode, subscription modes cannot be mixed"
  | placeIncomplete => "partition and offset must be given together"

/-- The wording of a refusal that is made of any values: nothing, the only one, or all of them. -/
def wordingOf : List Value → Except TextFlaw String
  | [] => .ok ""
  | [v] => v.plain
  | vs => (Value.tuple vs).plain

end Refusal

end KafkaHandles
