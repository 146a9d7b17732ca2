import KafkaHandles.Client.World
import KafkaHandles.PropertySet
import KafkaHandles.RejectedProperty

/-!
# Making handles

A handle is made from a configuration: its properties are put into a property set, the managed ones
first, the set is handed over to the new client, and what the client says against it is told apart.
What a kind of handle leaves open is its blueprint.
-/

namespace KafkaHandles

/-- What is given where a configuration is expected. -/
inductive ConfigArgument
  | config (c : Config)
  | other (v : Value)

/-- A kind of handles: its role, the properties it sets, and the client it creates. A kind that
leaves the last two open makes no handles. -/
structure Blueprint where
  role : Option Role
  configure : Option (Config → Action PropertySet Unit)
  client : Option Role

namespace Blueprint

/-! ## Properties -/

/-- Sets a managed property. -/
def setText (name value : String) : Action PropertySet Unit :=
  PropertySet.set (.text name) (.text value)

/-- The security protocol, and then the TLS material if there is any. -/
def setSecurity (c : Config) : Action PropertySet Unit :=
  match c.tls with
  | none => setText PropertyName.securityProtocol "plaintext"
  | some tls => do
    setText PropertyName.securityProtocol "ssl"
    setText PropertyName.caLocation tls.caLocation
    setText PropertyName.certificateLocation tls.certificateLocation
    setText PropertyName.keyLocation tls.keyLocation

/-- The sink of log lines. -/
def setLogSink : Action PropertySet Unit :=
  PropertySet.set (.text PropertyName.logger) .logSink

/-- The properties of a producer. Messages are acknowledged by all replicas that are in sync. -/
def configureProducer (c : Config) : Action PropertySet Unit := do
  setText PropertyName.bootstrapServers c.joinedServers
  setSecurity c
  setText PropertyName.acks "all"
  setLogSink
  PropertySet.setAll c.properties

/-- The properties of a consumer. -/
def configureConsumer (c : Config) : Action PropertySet Unit := do
  setText PropertyName.bootstrapServers c.joinedServers
  PropertySet.set (.text PropertyName.groupId) (match c.group with
    | some group => .text group
    | none => .none)
  setSecurity c
  setText PropertyName.autoOffsetReset c.policy.word
  setText PropertyName.enablePartitionEof "true"
  setLogSink
  PropertySet.setAll c.properties

/-! ## Kinds of handles -/

/-- Producers. -/
def producer : Blueprint := ⟨some .producer, some configureProducer, some .producer⟩

/-- Consumers. -/
def consumer : Blueprint := ⟨some .consumer, some configureConsumer, some .consumer⟩

/-- The kind that leaves everything open. -/
def bare : Blueprint := ⟨none, none, none⟩

/-- A kind of producers that leaves the client open. -/
def clientless : Blueprint := ⟨some .producer, some setSecurity, none⟩

/-! ## Creation -/

/-- How the reason of a client begins that could not be created although its properties are fine. -/
def creationFailed : String := "Failed to create"

/-- What a fault of creating a client says: a client that could not be created, or a property that
is rejected. Faults other than the client's own and wrong values or kinds stay as they are. -/
def creationFault (f : Fault) : Fault :=
  match f.clientError? with
  | some e =>
    if creationFailed.toList.isPrefixOf e.reason.toList then .connection e
    else
      let name := match RejectedProperty.find? e.reason with
        | some name => .text name
        | none => .none
      .wrapping (.config name) ErrorCode.invalidArgument e.reason
  | none =>
    if f.cls.isValue || f.cls.isType then
      .wrapping (.config .none) ErrorCode.invalidArgument f.message
    else f

/-- The fault of a kind that leaves something open. -/
def notSupported : Fault := .raised .unsupported ""

variable {σ : Type} (L : Library σ)

/-- Fills the property set and creates the client with it. -/
def launch (b : Blueprint) (c : Config) : Action (PropertySet × World σ) ClientId :=
  match b.configure with
  | none => Action.fail notSupported
  | some configure => do
    (configure c).onFirst
    match b.client with
    | none => Action.fail notSupported
    | some role => do
      let properties ← PropertySet.take.onFirst
      ((World.create L role properties).onSecond).mapFault creationFault

/-- The log line about a new handle. -/
def createdText (role : Role) (c : Config) : String :=
  "Created " ++ role.word ++ " for " ++ c.joinedServers ++ " (" ++
    (if c.secured then "mTLS" else "plaintext") ++ ")"

/-- Creates the client of a new handle. The property set is released in any case, which changes
nothing once it is handed over. -/
def make (b : Blueprint) (given : ConfigArgument) : Action (World σ) (ClientId × Config) :=
  match given with
  | .other _ => Action.refuse .configurationExpected
  | .config c => do
    Action.lift (c.validateFor ((b.role.map Value.role).getD .none))
    let id ← Action.startingAt {} ((launch L b c).thenAlways PropertySet.release.onFirst)
    match b.role with
    | some role => World.say .handle LogLevel.info (createdText role c)
    | none => pure ()
    pure (id, c)

end Blueprint

/-- The client of a handle, unless the handle has been closed. -/
def openClient (role : Role) (client : Option ClientId) : Except Fault ClientId :=
  match client with
  | some id => .ok id
  | none => .error (.refused (.handleClosed role))

end KafkaHandles
