import KafkaHandles.Check
import KafkaHandles.Dict
import KafkaHandles.OffsetPolicy
import KafkaHandles.Signature
import KafkaHandles.Text.Pieces

/-!
# Connection configurations

The validated settings from which handles are created: endpoints, consumer group, TLS material,
offset policy and further properties. A configuration is built from separate arguments or taken from
a dictionary of properties; both refuse the same settings, for the first of the reasons in the order
endpoints, group, TLS material, policy, properties, role.
-/

namespace KafkaHandles

/-! ## Property names -/

namespace PropertyName

def bootstrapServers : String := "bootstrap.servers"
def groupId : String := "group.id"
def securityProtocol : String := "security.protocol"
def caLocation : String := "ssl.ca.location"
def certificateLocation : String := "ssl.certificate.location"
def keyLocation : String := "ssl.key.location"
def autoOffsetReset : String := "auto.offset.reset"
def acks : String := "acks"
def enablePartitionEof : String := "enable.partition.eof"
def logger : String := "logger"
def assignmentStrategy : String := "partition.assignment.strategy"
def groupProtocol : String := "group.protocol"

end PropertyName

/-! ## TLS material -/

/-- The paths of the files for mutual TLS. -/
structure Tls where
  caLocation : String
  certificateLocation : String
  keyLocation : String
  deriving DecidableEq, Repr

namespace Tls

/-- A file within a directory. An absolute file name stands for itself. -/
def pathJoin (directory file : String) : String :=
  if file.toList.head? = some '/' then file
  else if directory.isEmpty || directory.toList.getLast? = some '/' then directory ++ file
  else directory ++ "/" ++ file

/-- A file within a directory, by a name of any kind. -/
def locate (directory : String) (file : Value) : Except Fault String :=
  match file with
  | .text name => .ok (pathJoin directory name)
  | .bytes _ => .error .fileNameInBytes
  | v => .error (.fileNameNeeded v.kindName)

/-- The usual name of the file with the certificates that are trusted. -/
def caFile : String := "ca.crt"

/-- The usual name of the file with the client's certificate. -/
def certificateFile : String := "client.crt"

/-- The usual name of the file with the client's key. -/
def keyFile : String := "client.key"

/-- The TLS material of a directory, with the names of its files. -/
def ofDirectory (directory : Value) (ca : Value := .text caFile)
    (certificate : Value := .text certificateFile) (key : Value := .text keyFile) :
    Except Fault Tls := do
  let path ← Check.text directory "path"
  let ca ← locate path ca
  let certificate ← locate path certificate
  let key ← locate path key
  .ok ⟨ca, certificate, key⟩

/-- The parameters of a directory with TLS material. -/
def directorySignature : Signature where
  function := "TlsMaterial.from_directory"
  parameters := [.needed "path", ⟨"ca", some (.text caFile)⟩,
    ⟨"certificate", some (.text certificateFile)⟩, ⟨"key", some (.text keyFile)⟩]

/-- The TLS material of a directory, by named arguments. -/
def ofArguments (a : Arguments) : Except Fault Tls := do
  directorySignature.check a
  let given := directorySignature.value a
  ofDirectory (given "path") (given "ca") (given "certificate") (given "key")

/-- Whether a location is given: it is neither absent nor the empty text. -/
def isGiven : Value → Bool
  | .none => false
  | .text s => !s.isEmpty
  | _ => true

/-- The TLS material of three locations: all or none of them must be given. -/
def ofLocations (ca certificate key : Value) : Except Fault (Option Tls) :=
  let locations := [("ca_location", ca), ("certificate_location", certificate),
    ("key_location", key)]
  let missing := locations.filter fun l => !isGiven l.2
  if missing.length = locations.length then .ok none
  else if !missing.isEmpty then .error (.refused (.locationsMissing (missing.map (·.1))))
  else do
    let ca ← Check.text ca "ca_location"
    let certificate ← Check.text certificate "certificate_location"
    let key ← Check.text key "key_location"
    .ok (some ⟨ca, certificate, key⟩)

end Tls

/-! ## Configurations -/

/-- Validated settings for handles. -/
structure Config where
  servers : List String
  group : Option String
  tls : Option Tls
  policy : OffsetPolicy
  properties : Dict

namespace Config

/-- Whether connections are secured by mutual TLS. -/
def secured (c : Config) : Bool :=
  c.tls.isSome

/-- The endpoints in one text, as clients take them. -/
def joinedServers (c : Config) : String :=
  Text.join "," c.servers

/-- The endpoints that a value lists, before they are checked. -/
def listedServers (v : Value) : Except Fault (List Value) :=
  match v with
  | .text s => .ok ((Text.commaPieces s).map .text)
  | .list vs | .tuple vs => .ok vs
  | .none => .ok []
  | _ => .error (.refused .serversNotListed)

/-- An endpoint without the blanks around it. -/
def checkServer (v : Value) : Except Fault String :=
  match v with
  | .text s =>
    let s := Text.strip s
    if s.isEmpty then .error (.refused .serverBlank) else .ok s
  | _ => .error (.refused .serverNotText)

/-- The endpoints of a value. -/
def checkServers (v : Value) : Except Fault (List String) := do
  let servers ← (← listedServers v).mapM checkServer
  if servers.isEmpty then .error (.refused .serversMissing) else .ok servers

/-- The further properties of a value. -/
def checkProperties (v : Value) : Except Fault Dict :=
  match v with
  | .none => .ok []
  | .dict d => .ok d
  | _ => .error (.refused .propertiesNotDict)

/-- A consumer needs a group. -/
def validateFor (c : Config) (role : Value) : Except Fault Unit :=
  match role with
  | .role .consumer => if c.group.isNone then .error (.refused .groupMissing) else .ok ()
  | _ => .ok ()

/-- What a configuration is built from; what is left out is absent. -/
structure Settings where
  servers : Value
  group : Value := .none
  caLocation : Value := .none
  certificateLocation : Value := .none
  keyLocation : Value := .none
  policy : Value := .none
  role : Value := .none
  properties : Value := .none

/-- The parameters of a configuration that is built. -/
def buildSignature : Signature where
  function := "ConnectionConfig.build"
  parameters := [.needed "bootstrap_servers", .absent "group_id", .absent "ca_location",
    .absent "certificate_location", .absent "key_location", .absent "offset_policy",
    .absent "role", .absent "properties"]

/-- The settings that named arguments of a function stand for. What the function has no parameter
for is absent. -/
def Settings.ofArguments (s : Signature) (a : Arguments) : Except Fault Settings := do
  s.check a
  let given := s.value a
  .ok {
    servers := given "bootstrap_servers"
    group := given "group_id"
    caLocation := given "ca_location"
    certificateLocation := given "certificate_location"
    keyLocation := given "key_location"
    policy := given "offset_policy"
    role := given "role"
    properties := given "properties" }

/-- Builds a configuration. -/
def build (s : Settings) : Except Fault Config := do
  let servers ← checkServers s.servers
  let group ← Check.textOrNone s.group "group_id"
  let tls ← Tls.ofLocations s.caLocation s.certificateLocation s.keyLocation
  let policy ← OffsetPolicy.parse s.policy
  let properties ← checkProperties s.properties
  let config : Config := { servers, group, tls, policy, properties }
  config.validateFor s.role
  .ok config

/-- The properties that only handles set. -/
def reservedNames : List String := [PropertyName.securityProtocol, PropertyName.acks]

/-- The properties that a configuration takes out of a dictionary. -/
def extractedNames : List String :=
  [PropertyName.bootstrapServers, PropertyName.groupId, PropertyName.caLocation,
    PropertyName.certificateLocation, PropertyName.keyLocation, PropertyName.autoOffsetReset]

/-- The value of a property, absent if it is not set. -/
def propertyOf (d : Dict) (name : String) : Value :=
  (d.get? (.text name)).getD .none

/-- The settings that a dictionary of properties stands for. -/
def Settings.ofDict (d : Dict) (role : Value) : Settings where
  servers := propertyOf d PropertyName.bootstrapServers
  group := propertyOf d PropertyName.groupId
  caLocation := propertyOf d PropertyName.caLocation
  certificateLocation := propertyOf d PropertyName.certificateLocation
  keyLocation := propertyOf d PropertyName.keyLocation
  policy := propertyOf d PropertyName.autoOffsetReset
  role := role
  properties := .dict (extractedNames.foldl (fun d name => Dict.erase d (.text name)) d)

/-- Builds a configuration from a dictionary of properties. -/
def ofDict (v role : Value) : Except Fault Config :=
  match v with
  | .dict d =>
    match reservedNames.find? fun name => Dict.hasKey d (.text name) with
    | some name => .error (.refused (.propertyManaged name))
    | none => build (.ofDict d role)
  | _ => .error (.refused .configurationNotDict)

/-- The parameters of a configuration that is taken from a dictionary. -/
def dictSignature : Signature where
  function := "ConnectionConfig.from_dict"
  parameters := [.needed "conf", .absent "role"]

/-- Builds a configuration from a dictionary of properties, by named arguments. -/
def ofDictArguments (a : Arguments) : Except Fault Config := do
  dictSignature.check a
  ofDict (dictSignature.value a "conf") (dictSignature.value a "role")

/-- Equality of configurations; the order of properties does not matter. -/
def same (a b : Config) : Bool :=
  a.servers == b.servers && a.group == b.group && a.tls == b.tls && a.policy == b.policy &&
    Value.same (.dict a.properties) (.dict b.properties)

/-- Equality up to the properties, which is what a configuration's hash tells apart. -/
def sameHash (a b : Config) : Bool :=
  a.servers == b.servers && a.group == b.group && a.tls == b.tls && a.policy == b.policy

/-- The text of a property, which is empty if the property is not set. -/
def textOfProperty (properties : Dict) (name : String) : Except Fault String :=
  match properties.get? (.text name) with
  | some v => v.plain.mapError .untold
  | none => .ok ""

/-- Whether the properties select a way of assigning partitions that changes assignments step by
step: a cooperative strategy or the group protocol that the coordinator runs. -/
def isIncremental (properties : Dict) : Except Fault Bool := do
  let strategy ← textOfProperty properties PropertyName.assignmentStrategy
  let protocol ← textOfProperty properties PropertyName.groupProtocol
  .ok (Text.occursIn "cooperative".toList strategy.toList || protocol == "consumer")

/-- Whether properties given as a value select such a way; they must be a dictionary. -/
def isIncrementalValue (v : Value) : Except Fault Bool :=
  match v with
  | .dict d => isIncremental d
  | v => .error (.attributeMissing v.kindName "get")

end Config

end KafkaHandles
