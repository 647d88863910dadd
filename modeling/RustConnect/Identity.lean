import RustConnect.PacketCodec
import RustConnect.CertificateManager

namespace RustConnect

def protocolVersion : UInt32 := 8

structure Identity where
  deviceId : DeviceId
  deviceName : String
  deviceType : String
  protocolVersion : UInt32
  incomingCapabilities : List String
  outgoingCapabilities : List String
  tcpPort : Option UInt16
  targetDeviceId : Option String
  targetProtocolVersion : Option UInt32
  deriving DecidableEq, Repr

def maxDeviceNameLength : Nat := 32

def invalidNameChars : List Char := ['"', '\'', ',', ';', ':', '.', '!', '?', '(', ')', '[', ']', '<', '>']

def sanitizeDeviceName (name : String) : String :=
  String.ofList ((trimChars (name.toList.filter fun c => !invalidNameChars.contains c)).take maxDeviceNameLength)

/-- `device_id_matches_kde_normalized`. -/
def deviceIdMatchesKdeNormalized (a b : String) : Bool :=
  let norm (text : String) := text.toList.map fun c => if c.isAlphanum then c else '_'
  norm a == norm b

namespace Identity

def decodeText (value : Json) : Except DecodeError String :=
  match value with
  | .str text => .ok text
  | other => .error (.invalidType other "a string")

/-- An unsigned number of at most `limit`. -/
def decodeUnsigned (limit : Nat) (expected : String) (value : Json) : Except DecodeError Nat :=
  match value with
  | .num (.posInt n) => if n.toNat ≤ limit then .ok n.toNat else .error (.invalidType value expected)
  | other => .error (.invalidType other expected)

def decodeU32 (value : Json) : Except DecodeError UInt32 :=
  (decodeUnsigned 4294967295 "u32" value).map UInt32.ofNat

def decodeU16 (value : Json) : Except DecodeError UInt16 :=
  (decodeUnsigned 65535 "u16" value).map UInt16.ofNat

def decodeTexts (value : Json) : Except DecodeError (List String) :=
  match value with
  | .arr items => items.mapM decodeText
  | other => .error (.invalidType other "a sequence")

def decodeOption {α : Type} (decode : Json → Except DecodeError α) (value : Json) : Except DecodeError (Option α) :=
  match value with
  | .null => .ok none
  | other => (decode other).map some

/-- `str::parse::<u32>`. -/
def parseU32 (text : String) : Option UInt32 :=
  let digits := match text.toList with
    | '+' :: digits => digits
    | digits => digits
  ((parseDigits digits).filter (· ≤ 4294967295)).map UInt32.ofNat

/-- `deserialize_lenient_u32_opt`. -/
def decodeTargetVersion (value : Json) : Except DecodeError (Option UInt32) :=
  match value with
  | .null => .ok none
  | .num n =>
    match n.asU64.filter (· ≤ 4294967295) with
    | some version => .ok (some (.ofNat version))
    | none => .error (.custom "targetProtocolVersion must be a non-negative integer")
  | .str text =>
    match parseU32 text with
    | some version => .ok (some version)
    | none => .error (.custom "targetProtocolVersion must be numeric")
  | _ => .error (.custom "targetProtocolVersion must be a number or numeric string")

def required {α : Type} (body : Json) (name : String) (decode : Json → Except DecodeError α) : Except DecodeError α :=
  match body.get name with
  | some value => decode value
  | none => .error (.missingField name)

def optional {α : Type} (body : Json) (name : String) (missing : α) (decode : Json → Except DecodeError α) :
    Except DecodeError α :=
  match body.get name with
  | some value => decode value
  | none => .ok missing

/-- The next field of an array. -/
def element {α : Type} (items : List Json) (index : Nat) (decode : Json → Except DecodeError α) : Except DecodeError α :=
  match items[index]? with
  | some value => decode value
  | none => .error (.invalidLength index "struct Identity with 9 elements")

/-- The next field of an array, when it has a default. -/
def elementOr {α : Type} (items : List Json) (index : Nat) (missing : α) (decode : Json → Except DecodeError α) :
    Except DecodeError α :=
  match items[index]? with
  | some value => decode value
  | none => .ok missing

/-- The `Deserialize` implementation that the derive on `Identity` gives for a
value: an object, or an array of its fields without or with the last. -/
def decode (body : Json) : Except DecodeError Identity :=
  match body with
  | .obj _ => do
    return {
      deviceId := ← required body "deviceId" decodeText
      deviceName := ← required body "deviceName" decodeText
      deviceType := ← required body "deviceType" decodeText
      protocolVersion := ← required body "protocolVersion" decodeU32
      incomingCapabilities := ← optional body "incomingCapabilities" [] decodeTexts
      outgoingCapabilities := ← optional body "outgoingCapabilities" [] decodeTexts
      tcpPort := ← optional body "tcpPort" none (decodeOption decodeU16)
      targetDeviceId := ← optional body "targetDeviceId" none (decodeOption decodeText)
      targetProtocolVersion := ← optional body "targetProtocolVersion" none decodeTargetVersion }
  | .arr items => do
    let identity : Identity := {
      deviceId := ← element items 0 decodeText
      deviceName := ← element items 1 decodeText
      deviceType := ← element items 2 decodeText
      protocolVersion := ← element items 3 decodeU32
      incomingCapabilities := ← elementOr items 4 [] decodeTexts
      outgoingCapabilities := ← elementOr items 5 [] decodeTexts
      tcpPort := ← element items 6 (decodeOption decodeU16)
      targetDeviceId := ← element items 7 (decodeOption decodeText)
      targetProtocolVersion := ← elementOr items 8 none decodeTargetVersion }
    if items.length > 9 then
      throw (.invalidLength items.length "fewer elements in array")
    return identity
  | other => .error (.invalidType other "struct Identity")

/-- `Identity::from_packet`. -/
def fromPacket (codec : JsonCodec) (platform : Platform) (packet : Packet) : Except Error Identity := do
  if !packet.isIdentity then
    throw (.invalidPacket s!"Expected kdeconnect.identity, got {packet.packetType}")
  let identity ← (decode packet.body).mapError fun e =>
    .deserializationError s!"Failed to parse identity: {codec.valueErrorText e}"
  if identity.deviceId.isEmpty then
    throw (.validation "device_id must not be empty" (some "device_id"))
  if identity.deviceId.utf8ByteSize > 128 then
    throw (.validation "device_id must not exceed 128 characters" (some "device_id"))
  let identity := { identity with deviceName := sanitizeDeviceName identity.deviceName }
  if identity.deviceName.isEmpty then
    throw (.validation "device_name must not be blank" (some "device_name"))
  if identity.protocolVersion = 0 then
    throw (.validation "protocol_version must not be 0" (some "protocol_version"))
  validateDeviceId platform identity.deviceId
  return identity

/-- `to_packet`, with the id that was drawn. The body is a map, whose names `serde_json` keeps sorted. -/
def toPacket (identity : Identity) (id : Int64) : Packet :=
  .new id "kdeconnect.identity" (.obj ([("deviceId", .str identity.deviceId), ("deviceName", .str identity.deviceName),
    ("deviceType", .str identity.deviceType), ("incomingCapabilities", .arr (identity.incomingCapabilities.map .str)),
    ("outgoingCapabilities", .arr (identity.outgoingCapabilities.map .str)),
    ("protocolVersion", .num (.posInt identity.protocolVersion.toUInt64))] ++
    (identity.targetDeviceId.map fun target => ("targetDeviceId", Json.str target)).toList ++
    (identity.targetProtocolVersion.map fun version => ("targetProtocolVersion", Json.num (.posInt version.toUInt64))).toList ++
    (identity.tcpPort.map fun port => ("tcpPort", Json.num (.posInt port.toUInt64))).toList))

/-- `to_tcp_packet`: an identity that is sent over TCP does not tell the port. -/
def toTcpPacket (identity : Identity) (id : Int64) : Packet := toPacket { identity with tcpPort := none } id

end Identity

end RustConnect
