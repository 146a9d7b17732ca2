/-!
# Roles and offset policies

The two roles a client handle can have, and the two policies that say where a consumer group begins
when it has no committed offset.
-/

namespace KafkaHandles

/-- The role of a client handle. -/
inductive Role
  | producer
  | consumer
  deriving DecidableEq, Repr

/-- The word for a role in properties and log lines. -/
def Role.word : Role → String
  | .producer => "producer"
  | .consumer => "consumer"

/-- The role as a title. -/
def Role.title : Role → String
  | .producer => "Producer"
  | .consumer => "Consumer"

/-- The role as a constant's name. -/
def Role.constant : Role → String
  | .producer => "PRODUCER"
  | .consumer => "CONSUMER"

/-- Where a partition without a committed offset starts. -/
inductive OffsetPolicy
  /-- At the oldest retained message. -/
  | earliest
  /-- After the newest message. -/
  | latest
  deriving DecidableEq, Repr

namespace OffsetPolicy

/-- All policies, in the order in which a refusal lists them. -/
def all : List OffsetPolicy := [.earliest, .latest]

/-- The word for a policy in properties and log lines. -/
def word : OffsetPolicy → String
  | .earliest => "earliest"
  | .latest => "latest"

/-- The policy as a constant's name. -/
def constant : OffsetPolicy → String
  | .earliest => "EARLIEST"
  | .latest => "LATEST"

/-- The logical offset at which the policy starts: the beginning or the end of a partition. -/
def startOffset : OffsetPolicy → Int
  | .earliest => -2
  | .latest => -1

theorem mem_all (p : OffsetPolicy) : p ∈ all := by
  cases p <;> simp [all]

end OffsetPolicy

end KafkaHandles
