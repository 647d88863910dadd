import RustConnect.Identity
import RustConnect.PacketLoop

namespace RustConnect

inductive DeviceState
  | discovered
  | pairing
  | paired
  | connected
  | disconnected
  deriving DecidableEq, Repr

/-- `can_transition_to`. -/
def DeviceState.canTransitionTo : DeviceState → DeviceState → Bool
  | discovered, pairing | discovered, connected | pairing, paired | pairing, connected | paired, connected
  | connected, disconnected | connected, connected | pairing, discovered | connected, paired | disconnected, discovered
  | disconnected, paired | disconnected, connected | paired, pairing => true
  | _, _ => false

inductive DeviceType
  | desktop
  | laptop
  | phone
  | tablet
  | tv
  | unknown
  deriving DecidableEq, Repr

/-- `str::to_lowercase`, as far as ASCII letters come out of it: besides the
ASCII capitals only the Kelvin sign becomes one. -/
def toLowercase (text : String) : String :=
  String.ofList (text.toList.map fun c => if c = '\u212A' then 'k' else c.toLower)

/-- `parse_device_type`. -/
def DeviceType.parse (text : String) : DeviceType :=
  match toLowercase text with
  | "desktop" => desktop
  | "laptop" => laptop
  | "phone" | "smartphone" => phone
  | "tablet" => tablet
  | "tv" => tv
  | _ => unknown

/-- A registry record. -/
structure Device extends DeviceRecord where
  id : DeviceId
  deviceType : DeviceType
  state : DeviceState
  stateSince : Time
  address : Option String := none
  incomingCapabilities : List String := []
  outgoingCapabilities : List String := []
  certificateFingerprint : Option String := none
  discoveredAt : Time
  lastSeen : Time
  pairedAt : Option Time := none
  verificationKey : Option String := none
  pairState : Option String := none
  deriving DecidableEq, Repr

namespace Device

/-- `Device::new`. -/
def new (id : DeviceId) (name : String) (deviceType : DeviceType) (protocolVersion : UInt32) (now : Time) : Device where
  id := id
  name := name
  deviceType := deviceType
  protocolVersion := protocolVersion
  state := .discovered
  stateSince := now
  discoveredAt := now
  lastSeen := now

/-- A new record for an identity, with the capabilities it lists. -/
def ofIdentity (id : DeviceId) (identity : Identity) (now : Time) : Device :=
  { new id identity.deviceName (.parse identity.deviceType) identity.protocolVersion now with
    incomingCapabilities := identity.incomingCapabilities
    outgoingCapabilities := identity.outgoingCapabilities }

/-- `apply_capability_update`: only an identity that lists both kinds counts. -/
def applyCapabilityUpdate (device : Device) (incoming outgoing : List String) : Device :=
  if !incoming.isEmpty && !outgoing.isEmpty then
    { device with incomingCapabilities := incoming, outgoingCapabilities := outgoing }
  else device

/-- What both paths take over from the identity of a known device. -/
def adopt (device : Device) (name : String) (deviceType : DeviceType) (protocolVersion : UInt32) (incoming outgoing : List String) :
    Device :=
  { device with name, deviceType, protocolVersion }.applyCapabilityUpdate incoming outgoing

end Device

/-- What is done to the registry, one lock scope at a time. -/
inductive RegistryAction
  | contains (deviceId : DeviceId)
  | add (device : Device)
  | upsertDevice (device : Device)
  | adoptIdentity (deviceId : DeviceId) (identity : Identity)
  deriving DecidableEq

@[reducible] def RegistryAction.Answer : RegistryAction → Type
  | contains _ => Bool
  | add _ => Bool
  | upsertDevice _ => Unit
  | adoptIdentity _ _ => Bool

abbrev Devices := Table DeviceId Device

namespace DeviceRegistry

def maxUnpairedDevices : Nat := 64

/-- Before a new unpaired record, the unpaired records seen longest ago make room. -/
def enforceUnpairedCap (paired : Table DeviceId Time) (devices : Devices) (incoming : Device) : Devices :=
  let isPaired (device : Device) : Bool := (paired.lookup device.id).isSome
  if isPaired incoming then devices
  else
    let unpaired := (devices.entries.map Sigma.snd).filter fun device => !isPaired device
    if unpaired.length < maxUnpairedDevices then devices
    else
      let oldestFirst := unpaired.mergeSort fun one other => one.lastSeen ≤ other.lastSeen
      let evictCount := unpaired.length - maxUnpairedDevices + 1
      (oldestFirst.take evictCount).foldl (fun devices evicted => devices.erase evicted.id) devices

/-- Some unpaired records go, and no others. -/
theorem enforceUnpairedCap_erases (paired : Table DeviceId Time) (devices : Devices) (incoming : Device) :
    ∃ evicted : List DeviceId, (∀ d ∈ evicted, paired.lookup d = none) ∧
      ∀ d, (enforceUnpairedCap paired devices incoming).lookup d = if d ∈ evicted then none else devices.lookup d := by
  unfold enforceUnpairedCap
  dsimp only
  split
  · exact ⟨[], nofun, fun d => by simp⟩
  split
  · exact ⟨[], nofun, fun d => by simp⟩
  · generalize removed : List.take _ (List.mergeSort _ _) = oldest
    refine ⟨oldest.map Device.id, fun d member => ?_, fun d => ?_⟩
    · obtain ⟨device, taken, rfl⟩ := List.mem_map.mp member
      rw [← removed] at taken
      have unpaired := (List.mem_filter.mp ((List.mergeSort_perm _ _).mem_iff.mp (List.mem_of_mem_take taken))).2
      simpa using unpaired
    · have erased := Table.lookup_foldl_erase d (oldest.map Device.id) devices
      rwa [List.foldl_map] at erased

def upsertDevice (paired : Table DeviceId Time) (now : Time) (device : Device) (devices : Devices) : Devices :=
  match devices.lookup device.id with
  | some existing =>
    let refreshed := existing.adopt device.name device.deviceType device.protocolVersion device.incomingCapabilities
      device.outgoingCapabilities
    devices.insert device.id { refreshed with address := device.address.or existing.address, lastSeen := now }
  | none => (enforceUnpairedCap paired devices device).insert device.id device

/-- Whether the record was added; `DeviceAlreadyExists` otherwise. -/
def add (paired : Table DeviceId Time) (device : Device) (devices : Devices) : Bool × Devices :=
  if (devices.lookup device.id).isSome then (false, devices)
  else (true, (enforceUnpairedCap paired devices device).insert device.id device)

/-- The closure that `ensure_and_transition` runs on a known record; `false` when it is gone. -/
def adoptIdentity (now : Time) (deviceId : DeviceId) (identity : Identity) (devices : Devices) : Bool × Devices :=
  match devices.lookup deviceId with
  | some existing =>
    let refreshed := existing.adopt identity.deviceName (.parse identity.deviceType) identity.protocolVersion
      identity.incomingCapabilities identity.outgoingCapabilities
    (true, devices.insert deviceId { refreshed with lastSeen := now })
  | none => (false, devices)

/-- `transition`: a record that is not in a state to do so is left as it is. -/
def transition (now : Time) (deviceId : DeviceId) (state : DeviceState) (devices : Devices) : Devices :=
  match devices.lookup deviceId with
  | some device =>
    if device.state = state ∨ device.state.canTransitionTo state = false then devices
    else devices.insert deviceId
      { device with
        state := state
        stateSince := now
        lastSeen := now
        pairedAt := if state = .paired then some now else device.pairedAt }
  | none => devices

end DeviceRegistry

def RegistryAction.exec (paired : Table DeviceId Time) (now : Time) :
    (action : RegistryAction) → Devices → action.Answer × Devices
  | contains d, devices => ((devices.lookup d).isSome, devices)
  | add device, devices => DeviceRegistry.add paired device devices
  | upsertDevice device, devices => ((), DeviceRegistry.upsertDevice paired now device devices)
  | adoptIdentity d identity, devices => DeviceRegistry.adoptIdentity now d identity devices

end RustConnect
