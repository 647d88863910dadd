import RustConnect.Registry

namespace RustConnect

/-- How `chrono` writes a moment as text, which it reads back. -/
structure TimeText where
  text : Time → String
  parse : String → Option Time
  round : ∀ t, parse (text t) = some t

namespace RegistryFile

/-- A member of an object; one that is listed twice is refused. -/
def member (members : List (String × Json)) (name : String) : Option (Option Json) :=
  match members.filter fun entry => entry.1 = name with
  | [] => some none
  | [entry] => some (some entry.2)
  | _ => none

def requiredField {α : Type} (members : List (String × Json)) (name : String) (decode : Json → Option α) : Option α := do
  decode (← (← member members name))

/-- A field that may be missing or null. -/
def optionalField {α : Type} (members : List (String × Json)) (name : String) (decode : Json → Option α) : Option (Option α) := do
  match ← member members name with
  | none | some .null => return none
  | some value => return some (← decode value)

/-- A field that is left out when there is nothing to write. -/
def unlessNone (name : String) (value : Option Json) : List (String × Json) := (value.map fun value => (name, value)).toList

/-- A variant without data, by its name or as an object with that name and null. -/
def decodeVariant {α : Type} (named : String → Option α) : Json → Option α
  | .str name => named name
  | .obj [(name, .null)] => named name
  | _ => none

end RegistryFile

/-- `rename_all = "lowercase"`. -/
def DeviceState.name : DeviceState → String
  | discovered => "discovered"
  | pairing => "pairing"
  | paired => "paired"
  | connected => "connected"
  | disconnected => "disconnected"

def DeviceState.named : String → Option DeviceState
  | "discovered" => some discovered
  | "pairing" => some pairing
  | "paired" => some paired
  | "connected" => some connected
  | "disconnected" => some disconnected
  | _ => none

def DeviceType.name : DeviceType → String
  | desktop => "desktop"
  | laptop => "laptop"
  | phone => "phone"
  | tablet => "tablet"
  | tv => "tv"
  | unknown => "unknown"

def DeviceType.named : String → Option DeviceType
  | "desktop" => some desktop
  | "laptop" => some laptop
  | "phone" => some phone
  | "tablet" => some tablet
  | "tv" => some tv
  | "unknown" => some unknown
  | _ => none

namespace Device

open RegistryFile

variable (clock : TimeText)

/-- The `Serialize` implementation that the derive on `Device` gives. -/
def encodeMembers (device : Device) : List (String × Json) :=
  [("id", .str device.id), ("name", .str device.name), ("device_type", .str device.deviceType.name), ("state", .str device.state.name),
    ("state_since", .str (clock.text device.stateSince))] ++
  (unlessNone "address" (device.address.map .str) ++
  ([("protocol_version", .num (.posInt device.protocolVersion.toUInt64)),
    ("incoming_capabilities", .arr (device.incomingCapabilities.map .str)),
    ("outgoing_capabilities", .arr (device.outgoingCapabilities.map .str))] ++
  (unlessNone "certificate_fingerprint" (device.certificateFingerprint.map .str) ++
  ([("discovered_at", .str (clock.text device.discoveredAt)), ("last_seen", .str (clock.text device.lastSeen))] ++
  (unlessNone "paired_at" (device.pairedAt.map fun time => .str (clock.text time)) ++
  (unlessNone "verification_key" (device.verificationKey.map .str) ++
  unlessNone "pair_state" (device.pairState.map .str)))))))

def encode (device : Device) : Json := .obj (device.encodeMembers clock)

def decodeText (value : Json) : Option String := (Identity.decodeText value).toOption

def decodeTime (value : Json) : Option Time := (decodeText value).bind clock.parse

def decodeMembers (members : List (String × Json)) : Option Device := do
  return {
    id := ← requiredField members "id" decodeText
    name := ← requiredField members "name" decodeText
    deviceType := ← requiredField members "device_type" (decodeVariant DeviceType.named)
    state := ← requiredField members "state" (decodeVariant DeviceState.named)
    stateSince := ← requiredField members "state_since" (decodeTime clock)
    address := ← optionalField members "address" decodeText
    protocolVersion := ← requiredField members "protocol_version" fun value => (Identity.decodeU32 value).toOption
    incomingCapabilities := ← requiredField members "incoming_capabilities" fun value => (Identity.decodeTexts value).toOption
    outgoingCapabilities := ← requiredField members "outgoing_capabilities" fun value => (Identity.decodeTexts value).toOption
    certificateFingerprint := ← optionalField members "certificate_fingerprint" decodeText
    discoveredAt := ← requiredField members "discovered_at" (decodeTime clock)
    lastSeen := ← requiredField members "last_seen" (decodeTime clock)
    pairedAt := ← optionalField members "paired_at" (decodeTime clock)
    verificationKey := ← optionalField members "verification_key" decodeText
    pairState := ← optionalField members "pair_state" decodeText }

def fieldNames : List String :=
  ["id", "name", "device_type", "state", "state_since", "address", "protocol_version", "incoming_capabilities", "outgoing_capabilities",
    "certificate_fingerprint", "discovered_at", "last_seen", "paired_at", "verification_key", "pair_state"]

/-- The `Deserialize` implementation, whose errors are only logged: an object,
or an array of the fields, the last of which has a default. -/
def decode : Json → Option Device
  | .obj members => decodeMembers clock members
  | .arr items => if items.length = 14 ∨ items.length = 15 then decodeMembers clock (fieldNames.zip items) else none
  | _ => none

theorem decodeVariant_state (state : DeviceState) : decodeVariant DeviceState.named (.str state.name) = some state := by
  cases state <;> rfl

theorem decodeVariant_type (deviceType : DeviceType) : decodeVariant DeviceType.named (.str deviceType.name) = some deviceType := by
  cases deviceType <;> rfl

theorem decodeTexts_str (texts : List String) : Identity.decodeTexts (.arr (texts.map .str)) = .ok texts := by
  unfold Identity.decodeTexts
  induction texts with
  | nil => rfl
  | cons text texts ih =>
    dsimp only at ih ⊢
    rw [List.map_cons, List.mapM_cons, ih]
    rfl

theorem decodeU32_posInt (version : UInt32) : Identity.decodeU32 (.num (.posInt version.toUInt64)) = .ok version := by
  have small : version.toNat ≤ 4294967295 := by
    have bound := version.toNat_lt
    omega
  simp [Identity.decodeU32, Identity.decodeUnsigned, small, Except.map]

theorem filter_unlessNone (name other : String) (value : Option Json) :
    (unlessNone name value).filter (fun entry => entry.1 = other) = if name = other then unlessNone name value else [] := by
  cases value with
  | none => simp [unlessNone]
  | some value => simp [unlessNone, List.filter_cons]

section Members

variable {α : Type} {members : List (String × Json)} {name : String} {decode : Json → Option α}

theorem requiredField_of {json : Json} {value : α} (found : members.filter (fun entry => entry.1 = name) = [(name, json)])
    (reads : decode json = some value) : requiredField members name decode = some value := by
  simp [requiredField, member, found, reads]

theorem optionalField_of (value : Option α) {encode : α → Json}
    (found : members.filter (fun entry => entry.1 = name) = unlessNone name (value.map encode))
    (reads : ∀ value, encode value ≠ .null ∧ decode (encode value) = some value) : optionalField members name decode = some value := by
  cases value with
  | none => simp [optionalField, member, found, unlessNone]
  | some value =>
    obtain ⟨present, same⟩ := reads value
    have read : member members name = some (some (encode value)) := by
      rw [member, found]
      rfl
    unfold optionalField
    rw [read]
    cases encoded : encode value with
    | null => exact absurd encoded present
    | _ => simp [← encoded, same]

end Members

variable {clock}

theorem decode_encode (device : Device) : decode clock (device.encode clock) = some device := by
  have text (value : String) : Json.str value ≠ .null ∧ decodeText (.str value) = some value := ⟨nofun, rfl⟩
  have time (value : Time) : Json.str (clock.text value) ≠ .null ∧ decodeTime clock (.str (clock.text value)) = some value :=
    ⟨nofun, clock.round value⟩
  have version : (Identity.decodeU32 (.num (.posInt device.protocolVersion.toUInt64))).toOption = some device.protocolVersion := by
    rw [decodeU32_posInt]
    rfl
  have texts (values : List String) : (Identity.decodeTexts (.arr (values.map .str))).toOption = some values := by
    rw [decodeTexts_str]
    rfl
  have fields : decodeMembers clock (device.encodeMembers clock) = some device := by
    unfold decodeMembers
    rw [requiredField_of (by simp [encodeMembers, filter_unlessNone]) (text device.id).2,
      requiredField_of (by simp [encodeMembers, filter_unlessNone]) (text device.name).2,
      requiredField_of (by simp [encodeMembers, filter_unlessNone]) (decodeVariant_type device.deviceType),
      requiredField_of (by simp [encodeMembers, filter_unlessNone]) (decodeVariant_state device.state),
      requiredField_of (by simp [encodeMembers, filter_unlessNone]) (time device.stateSince).2,
      optionalField_of device.address (by simp [encodeMembers, filter_unlessNone]) text,
      requiredField_of (by simp [encodeMembers, filter_unlessNone]) version,
      requiredField_of (by simp [encodeMembers, filter_unlessNone]) (texts device.incomingCapabilities),
      requiredField_of (by simp [encodeMembers, filter_unlessNone]) (texts device.outgoingCapabilities),
      optionalField_of device.certificateFingerprint (by simp [encodeMembers, filter_unlessNone]) text,
      requiredField_of (by simp [encodeMembers, filter_unlessNone]) (time device.discoveredAt).2,
      requiredField_of (by simp [encodeMembers, filter_unlessNone]) (time device.lastSeen).2,
      optionalField_of device.pairedAt (by simp [encodeMembers, filter_unlessNone]) time,
      optionalField_of device.verificationKey (by simp [encodeMembers, filter_unlessNone]) text,
      optionalField_of device.pairState (by simp [encodeMembers, filter_unlessNone]) text]
    rfl
  exact fields

end Device

namespace RegistryFile

variable (clock : TimeText)

/-- The map of records as it is written. -/
def encodeDevices (devices : Devices) : Json := .obj (devices.entries.map fun entry => (entry.1, entry.2.encode clock))

/-- A record that is listed again replaces the earlier one. -/
def decodeDevices : Json → Option Devices
  | .obj members => members.foldlM (fun devices (id, value) => do return devices.insert id (← Device.decode clock value)) ∅
  | _ => none

variable {clock}

theorem decode_entries (entries : List (Sigma fun _ : DeviceId => Device)) (distinct : entries.NodupKeys) (first : Devices) :
    ∃ devices, (entries.map fun entry => (entry.1, entry.2.encode clock)).foldlM
        (fun (devices : Devices) ((id, value) : DeviceId × Json) => do return devices.insert id (← Device.decode clock value)) first =
          some devices ∧
      ∀ d, devices.lookup d = (List.dlookup d entries).or (first.lookup d) := by
  induction entries generalizing first with
  | nil => exact ⟨first, rfl, fun d => by simp⟩
  | cons entry rest ih =>
    obtain ⟨id, device⟩ := entry
    obtain ⟨absent, others⟩ := List.nodupKeys_cons.mp distinct
    obtain ⟨devices, decoded, found⟩ := ih others (first.insert id device)
    refine ⟨devices, ?_, fun d => ?_⟩
    · rw [List.map_cons, List.foldlM_cons]
      dsimp only
      rw [Device.decode_encode]
      exact decoded
    · rw [found, Table.lookup_insert_of]
      by_cases same : d = id
      · subst same
        simp [List.dlookup_eq_none.mpr absent]
      · simp [same, List.dlookup_cons_ne rest ⟨id, device⟩ same]

variable (clock) in
/-- What was written is read back. -/
theorem decodeDevices_encode (devices : Devices) :
    ∃ read, decodeDevices clock (encodeDevices clock devices) = some read ∧ ∀ d, read.lookup d = devices.lookup d := by
  obtain ⟨read, decoded, found⟩ := decode_entries devices.entries devices.nodupKeys (∅ : Devices)
  refine ⟨read, decoded, fun d => (found d).trans ?_⟩
  rw [AList.lookup_empty, Option.or_none]
  rfl

end RegistryFile

end RustConnect
