/-!
# The package

The version of the package and the names that it makes public.
-/

namespace KafkaHandles.Package

/-- The version of the package. -/
def version : String := "1.0.0"

/-- The types that are public. -/
def publicTypes : List String := [
  "BrokerError", "ClientConnectionError", "ConfigError", "ConnectionConfig", "Consumer",
  "DeliveryReceipt", "Message", "OffsetPolicy", "PartitionEOF", "Producer", "Role", "TlsMaterial",
  "ValidationError"]

/-- The functions that are public. -/
def publicFunctions : List String := [
  "close_consumer", "consume_from", "create_consumer", "create_producer", "destroy_producer",
  "flush", "poll", "send", "subscribe_at_offset", "subscribe_by_topic", "version"]

/-- All names that are public, in alphabetical order with the types in front. -/
def publicNames : List String := publicTypes ++ publicFunctions

end KafkaHandles.Package
