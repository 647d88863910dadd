import Mathlib

namespace RustConnect

abbrev DeviceId := String

abbrev Bytes := List UInt8

/-- Wall-clock time and durations, in nanoseconds. -/
abbrev Time := Int

def seconds (n : Int) : Time := n * 1000000000

/-- `DateTime::timestamp`: whole seconds, rounded towards the past. -/
def timestamp (t : Time) : Int := t / 1000000000

/-- The errors the modelled functions return, under the names of `utils::errors`. -/
inductive Error
  | invalidPacket (message : String)
  | serializationError (message : String)
  | deserializationError (message : String)
  | connectionError (message : String)
  | connectionTimeout (message : String)
  | packetTooLarge (size max : Nat)
  | tlsError (message : String)
  | certificateError (message : String)
  | capabilityNotSupported (deviceId : DeviceId) (packetType : String)
  | deviceNotFound (deviceId : DeviceId)
  | deviceAlreadyExists (message : String)
  | pairingTimeout (deviceId : DeviceId)
  | pairingRejected (message : String)
  | noPendingPairRequest (deviceId : DeviceId)
  | deviceNotPaired (deviceId : DeviceId)
  | noPluginForPacketType (packetType : String)
  | invalidRequest (message : String)
  | notFound (message : String)
  | io (message : String)
  | internal (message : String)
  deriving DecidableEq, Repr

namespace Error

/-- The `#[error(..)]` texts. -/
def display : Error → String
  | invalidPacket message => s!"Invalid packet format: {message}"
  | serializationError message => s!"Failed to serialize packet: {message}"
  | deserializationError message => s!"Failed to deserialize packet: {message}"
  | connectionError message => s!"Connection failed: {message}"
  | connectionTimeout message => s!"Connection timed out: {message}"
  | packetTooLarge size max => s!"Packet too large: {size} bytes (max {max} bytes)"
  | tlsError message => s!"TLS handshake failed: {message}"
  | certificateError message => s!"Certificate error: {message}"
  | capabilityNotSupported deviceId packetType => s!"Peer {deviceId} does not support packet type {packetType}"
  | deviceNotFound deviceId => s!"Device not found: {deviceId}"
  | deviceAlreadyExists message => s!"Device already exists: {message}"
  | pairingTimeout deviceId => s!"Pairing request timeout for device: {deviceId}"
  | pairingRejected message => s!"Pairing rejected by device: {message}"
  | noPendingPairRequest deviceId => s!"No pending pairing request for device: {deviceId}"
  | deviceNotPaired deviceId => s!"Device not paired: {deviceId}"
  | noPluginForPacketType packetType => s!"No plugin registered for packet type: {packetType}"
  | invalidRequest message => s!"Invalid API request: {message}"
  | notFound message => s!"Resource not found: {message}"
  | io message => s!"I/O error: {message}"
  | internal message => s!"Internal error: {message}"

def validation (message : String) : Option String → Error
  | some field => invalidRequest s!"{field}: {message}"
  | none => invalidRequest message

end Error

/-- `serde_json::Number`. A float is kept as its bits: no modelled function reads it. -/
inductive JsonNumber
  | posInt (n : UInt64)
  | negInt (n : Int64)
  | float (bits : UInt64)
  deriving DecidableEq, Repr

namespace JsonNumber

def asI64 : JsonNumber → Option Int
  | posInt n => if n.toNat < 2 ^ 63 then some n.toNat else none
  | negInt n => some n.toInt
  | float _ => none

def asU64 : JsonNumber → Option Nat
  | posInt n => some n.toNat
  | negInt n => if 0 ≤ n.toInt then some n.toInt.toNat else none
  | float _ => none

end JsonNumber

/-- `serde_json::Value`. -/
inductive Json
  | null
  | bool (value : Bool)
  | num (value : JsonNumber)
  | str (value : String)
  | arr (items : List Json)
  | obj (members : List (String × Json))
  deriving Repr

namespace Json

def ofInt (n : Int) : Json :=
  .num (if 0 ≤ n then .posInt (UInt64.ofNat n.toNat) else .negInt (Int64.ofInt n))

/-! Two values are compared member by member. -/

mutual

def same : Json → Json → Bool
  | null, null => true
  | bool a, bool b => a == b
  | num a, num b => a == b
  | str a, str b => a == b
  | arr xs, arr ys => sameItems xs ys
  | obj xs, obj ys => sameMembers xs ys
  | _, _ => false

def sameItems : List Json → List Json → Bool
  | [], [] => true
  | x :: xs, y :: ys => same x y && sameItems xs ys
  | _, _ => false

def sameMembers : List (String × Json) → List (String × Json) → Bool
  | [], [] => true
  | x :: xs, y :: ys => sameMember x y && sameMembers xs ys
  | _, _ => false

def sameMember : String × Json → String × Json → Bool
  | (name, x), (name', y) => name == name' && same x y

end

mutual

theorem same_iff : ∀ a b : Json, same a b = true ↔ a = b
  | null, b => by cases b <;> simp [same]
  | bool a, b => by cases b <;> simp [same]
  | num a, b => by cases b <;> simp [same]
  | str a, b => by cases b <;> simp [same]
  | arr xs, b => by cases b <;> simp [same, sameItems_iff xs]
  | obj xs, b => by cases b <;> simp [same, sameMembers_iff xs]

theorem sameItems_iff : ∀ xs ys : List Json, sameItems xs ys = true ↔ xs = ys
  | [], ys => by cases ys <;> simp [sameItems]
  | x :: xs, ys => by cases ys <;> simp [sameItems, same_iff x, sameItems_iff xs]

theorem sameMembers_iff : ∀ xs ys : List (String × Json), sameMembers xs ys = true ↔ xs = ys
  | [], ys => by cases ys <;> simp [sameMembers]
  | x :: xs, ys => by cases ys <;> simp [sameMembers, sameMember_iff x, sameMembers_iff xs]

theorem sameMember_iff : ∀ x y : String × Json, sameMember x y = true ↔ x = y
  | (name, x), (name', y) => by simp [sameMember, same_iff x]

end

instance : DecidableEq Json := fun a b => decidable_of_iff _ (same_iff a b)

/-- `Value::get` with a string index: only an object has members, and the map
`serde_json` builds keeps the last of several members with one name. -/
def get (key : String) : Json → Option Json
  | obj members => (members.reverse.find? (fun member => member.1 == key)).map Prod.snd
  | _ => none

def asBool : Json → Option Bool
  | bool value => some value
  | _ => none

def asI64 : Json → Option Int
  | num value => value.asI64
  | _ => none

end Json

/-- `PayloadSize`: a byte count, or the endless-stream sentinel `-1`. -/
inductive PayloadSize
  | known (n : UInt64)
  | stream
  deriving DecidableEq, Repr

structure Packet where
  id : Int64
  packetType : String
  body : Json
  payloadSize : Option PayloadSize
  payloadTransferInfo : Option Json
  deriving DecidableEq, Repr

namespace Packet

/-- `Packet::new`, with the id that `generate_packet_id` drew. -/
def new (id : Int64) (packetType : String) (body : Json) : Packet := ⟨id, packetType, body, none, none⟩

def pairResponse (id : Int64) (now : Time) (accepted : Bool) : Packet :=
  new id "kdeconnect.pair" (.obj [("pair", .bool accepted), ("timestamp", .ofInt (timestamp now))])

def isIdentity (packet : Packet) : Bool := packet.packetType == "kdeconnect.identity"

def isPair (packet : Packet) : Bool := packet.packetType == "kdeconnect.pair"

end Packet

structure PairingRequest where
  deviceId : DeviceId
  createdAt : Time
  timeout : Time
  pairTimestamp : Int
  deriving DecidableEq, Repr

/-- `PairingRequest::is_expired` at the moment `now`. -/
def PairingRequest.expiredAt (request : PairingRequest) (now : Time) : Bool :=
  request.createdAt + request.timeout < now

inductive PairState
  | notPaired
  | requested
  | requestedByPeer
  | paired
  deriving DecidableEq, Repr

/-- The events the pairing code broadcasts. -/
inductive DeviceEvent
  | paired (deviceId : DeviceId) (deviceName : String)
  | unpaired (deviceId : DeviceId)
  | pairRequested (deviceId : DeviceId) (deviceName : String)
  deriving DecidableEq, Repr

end RustConnect
