import Mathlib
import RustConnect.ConnectionSetup

namespace RustConnect

open Program DaemonAction Daemon

namespace Discovery

variable (config : DaemonSettings)

/-- A dial to a discovered device, which is marked as pending for as long as
it lasts: `none` when another one is under way. -/
def dialMarked (identity : Identity) (deviceId : DeviceId) (peer : OutboundPeer) :
    DaemonProgram (Option (Except Error (DeviceId × Identity × UInt64))) := do
  if ← perform (dialing (.addPending deviceId)) then
    perform (dialing (.start identity))
    let result ← onManager
      (ConnectionManager.connectToDevice config.codec config.platform { peer with expectedIdentity := some identity }).run
    perform (dialing (.removePending deviceId))
    return some result
  else
    return none

/-- `get_identity` has nothing to give before the own device id is known. -/
def hasIdentity : DaemonProgram Bool := do
  return !(← perform (manager .ownDeviceId)).isEmpty

def maxRetries : Nat := 5

/-- `reconnect_loop`, with the peers that its attempts meet; it meets no more
when the daemon shuts down. The packet loop of a link is a task of its own. -/
def reconnectLoop (identity : Identity) (deviceId : DeviceId) : List OutboundPeer → DaemonProgram Unit
  | [] => return
  | peer :: later => do
    if !(← isConnected deviceId) then
      if ← hasIdentity then
        if let some (.ok (connectedId, remoteIdentity, generation)) ← dialMarked config identity deviceId peer then
          let _ ← ConnectionSetup.runConnectionSetup config.print connectedId remoteIdentity generation
        reconnectLoop identity deviceId later

/-- The downgrade check of `spawn_discovered_connection`. -/
def refusesDowngrade (identity : Identity) : DaemonProgram Bool := do
  if ← onPairing (PairingHandler.isPaired identity.deviceId) then
    match ← perform (registryGet identity.deviceId) with
    | some known => return decide (known.protocolVersion > identity.protocolVersion)
    | none => return false
  else
    return false

/-- `spawn_discovered_connection`, with the peers that the dial and the attempts to reconnect meet. -/
def spawnDiscoveredConnection (identity : Identity) (peer : OutboundPeer) (later : List OutboundPeer) : DaemonProgram Unit := do
  if identity.deviceId ≠ (← perform (manager .ownDeviceId)) then
    if !(← isConnected identity.deviceId) then
      if !(← refusesDowngrade identity) then
        if ← hasIdentity then
          if let some (.ok (connectedId, remoteIdentity, generation)) ← dialMarked config identity identity.deviceId peer then
            let _ ← ConnectionSetup.runConnectionSetup config.print connectedId remoteIdentity generation
            if ← onPairing (PairingHandler.isPaired connectedId) then
              reconnectLoop config identity connectedId (later.take maxRetries)

/-- `on_device_discovered`. -/
def onDeviceDiscovered (identity : Identity) (peer : OutboundPeer) (later : List OutboundPeer) : DaemonProgram Unit := do
  let now ← perform (pairing .now)
  perform (registry (.upsertDevice (.ofIdentity identity.deviceId identity now)))
  spawnDiscoveredConnection config identity peer later

end Discovery

/-- The tasks of the daemon together with the announcements that it hears. -/
inductive DiscoveryTask
  | setUp (task : SetUpTask)
  | discovered (identity : Identity) (peer : OutboundPeer) (later : List OutboundPeer)

def DiscoveryTask.program (config : DaemonSettings) : DiscoveryTask → DaemonProgram Unit
  | setUp task => task.program config
  | discovered identity peer later => Discovery.onDeviceDiscovered config identity peer later

namespace Discovery

/-- The daemon after the first `k` turns. -/
def atTurn (config : DaemonSettings) (start : DaemonState) (turns : List (Turn DiscoveryTask)) (k : Nat) :
    Pool DaemonAction DaemonAction.Answer DaemonState :=
  Pool.after (DaemonAction.exec config.codec) (DiscoveryTask.program config) start turns k

section Run

variable (config : DaemonSettings) (start : DaemonState) (turns : List (Turn DiscoveryTask))

/-- In turn `k` the task that handles an announcement of the identity enters it into the registry. -/
structure Announced (k task : Nat) (identity : Identity) : Prop where
  spawned : ∃ peer later, (Pool.spawned (turns.take k))[task]? = some (.discovered identity peer later)
  turn : turns[k]? = some (.take task)
  upsert : ∃ device, (atTurn config start turns k).next task = some (registry (.upsertDevice device))

/-- The device is paired, and this is its record. -/
structure Recorded (d : DeviceId) (known : Device) (s : DaemonState) : Prop where
  paired : (s.pairing.paired.lookup d).isSome
  record : s.registry.lookup d = some known

/-- No announcement lowers the version that is recorded for a paired device,
and no dial is started from one whose version is below that recorded before it. -/
structure NoDowngrade : Prop where
  versions : ∀ k task identity, Announced config start turns k task identity →
    ∀ d known, Recorded d known (atTurn config start turns k).shared →
      ∃ later, (atTurn config start turns (k + 1)).shared.registry.lookup d = some later ∧
        known.protocolVersion ≤ later.protocolVersion
  dials : ∀ k m task identity dialled, k < m → Announced config start turns k task identity → turns[m]? = some (.take task) →
    (atTurn config start turns m).next task = some (dialing (.start dialled)) →
    (∀ j, k ≤ j → j ≤ m → ((atTurn config start turns j).shared.pairing.paired.lookup dialled.deviceId).isSome) →
    ∀ known, Recorded dialled.deviceId known (atTurn config start turns k).shared →
      known.protocolVersion ≤ dialled.protocolVersion

/-- A paired device is announced with no lower version than is on its record. -/
def Truthful : Prop :=
  ∀ k task identity, Announced config start turns k task identity →
    ∀ known, Recorded identity.deviceId known (atTurn config start turns k).shared → known.protocolVersion ≤ identity.protocolVersion

end Run

section Footprint

variable {config : DaemonSettings} {identity : Identity}

/-- What a task that handles an announcement enters into the registry and dials is what was announced. -/
def FromAnnouncement (identity : Identity) : DaemonAction → Prop
  | registry (.upsertDevice device) => device.id = identity.deviceId ∧ device.protocolVersion = identity.protocolVersion
  | dialing (.start dialled) => dialled = identity
  | _ => True

theorem only_setup (d : DeviceId) (remoteIdentity : Identity) (generation : UInt64) :
    (ConnectionSetup.runConnectionSetup config.print d remoteIdentity generation).Only (FromAnnouncement identity) fun _ => True := by
  refine (ConnectionSetup.prepares_runConnectionSetup remoteIdentity generation).weaken (fun action prepares => ?_) fun _ => id
  cases action with
  | registry action =>
    cases action with
    | upsertDevice device => exact prepares.elim
    | _ => trivial
  | dialing action => exact prepares.elim
  | _ => trivial

theorem only_dialMarked (d : DeviceId) (peer : OutboundPeer) :
    (dialMarked config identity d peer).Only (FromAnnouncement identity) fun _ => True := by
  refine ⟨trivial, fun added => ?_⟩
  cases added with
  | false => trivial
  | true =>
    refine ⟨rfl, fun _ => (only_bind (onManager _) _ _).mpr ((only_onManager (fun _ => trivial) _).followedBy fun result => ?_)⟩
    exact ⟨trivial, fun _ => trivial⟩

theorem only_reconnectLoop (d : DeviceId) (peers : List OutboundPeer) :
    (reconnectLoop config identity d peers).Only (FromAnnouncement identity) fun _ => True := by
  induction peers with
  | nil => trivial
  | cons peer later ih =>
    refine ⟨trivial, fun found => ?_⟩
    cases found with
    | some link => trivial
    | none =>
      refine ⟨trivial, fun own => (only_ite _ _ _ _).mpr ⟨fun _ => ?_, fun _ => trivial⟩⟩
      refine (only_bind (dialMarked config identity d peer) _ _).mpr ((only_dialMarked d peer).followedBy fun result => ?_)
      rcases result with _ | _ | ⟨connectedId, remoteIdentity, generation⟩
      · exact ih
      · exact ih
      · exact (only_bind _ _ _).mpr ((only_setup connectedId remoteIdentity generation).followedBy fun _ => ih)

theorem only_onDeviceDiscovered (peer : OutboundPeer) (later : List OutboundPeer) :
    (onDeviceDiscovered config identity peer later).Only (FromAnnouncement identity) fun _ => True := by
  have refuses : (refusesDowngrade identity).Only (FromAnnouncement identity) fun _ => True := by
    refine ⟨trivial, fun paired => ?_⟩
    cases paired with
    | false => trivial
    | true =>
      refine ⟨trivial, fun known => ?_⟩
      cases known <;> trivial
  refine ⟨trivial, fun now => ⟨⟨rfl, rfl⟩, fun _ => ⟨trivial, fun own => (only_ite _ _ _ _).mpr ⟨fun _ => ?_, fun _ => trivial⟩⟩⟩⟩
  refine ⟨trivial, fun found => (only_ite _ _ _ _).mpr ⟨fun _ => ?_, fun _ => trivial⟩⟩
  refine (only_bind _ _ _).mpr (refuses.followedBy fun refused => (only_ite _ _ _ _).mpr ⟨fun _ => ?_, fun _ => trivial⟩)
  refine ⟨trivial, fun own => (only_ite _ _ _ _).mpr ⟨fun _ => ?_, fun _ => trivial⟩⟩
  refine (only_bind (dialMarked config identity _ peer) _ _).mpr ((only_dialMarked _ peer).followedBy fun result => ?_)
  rcases result with _ | _ | ⟨connectedId, remoteIdentity, generation⟩
  · trivial
  · trivial
  refine (only_bind _ _ _).mpr ((only_setup connectedId remoteIdentity generation).followedBy fun _ => ⟨trivial, fun paired => ?_⟩)
  exact (only_ite _ _ _ _).mpr ⟨fun _ => only_reconnectLoop connectedId _, fun _ => trivial⟩

end Footprint

section Registry

variable {paired : Table DeviceId Time} {devices : Devices} {d : DeviceId}

/-- A paired device never makes room for another. -/
theorem enforceUnpairedCap_paired (kept : (paired.lookup d).isSome) (devices : Devices) (incoming : Device) :
    (DeviceRegistry.enforceUnpairedCap paired devices incoming).lookup d = devices.lookup d := by
  obtain ⟨evicted, unpaired, found⟩ := DeviceRegistry.enforceUnpairedCap_erases paired devices incoming
  have safe : d ∉ evicted := fun member => by simp [unpaired d member] at kept
  rw [found, if_neg safe]

theorem upsertDevice_other (kept : (paired.lookup d).isSome) {now : Time} {device : Device} (apart : device.id ≠ d) :
    (DeviceRegistry.upsertDevice paired now device devices).lookup d = devices.lookup d := by
  unfold DeviceRegistry.upsertDevice
  split
  · exact AList.lookup_insert_ne (Ne.symm apart)
  · rw [AList.lookup_insert_ne (Ne.symm apart)]
    exact enforceUnpairedCap_paired kept devices device

/-- The record of a known device takes over the version. -/
theorem upsertDevice_version {now : Time} {device known : Device} (found : devices.lookup device.id = some known) :
    ∃ later, (DeviceRegistry.upsertDevice paired now device devices).lookup device.id = some later ∧
      later.protocolVersion = device.protocolVersion := by
  unfold DeviceRegistry.upsertDevice
  rw [found]
  refine ⟨_, AList.lookup_insert _, ?_⟩
  unfold Device.adopt Device.applyCapabilityUpdate
  dsimp only
  split <;> rfl

end Registry

variable {config : DaemonSettings} {start : DaemonState} {turns : List (Turn DiscoveryTask)} {k task : Nat} {identity : Identity}

/-- The task that handles an announcement keeps to what was announced. -/
theorem Announced.within (announced : Announced config start turns k task identity) {m : Nat} (later : k ≤ m) {action : DaemonAction}
    (about : (atTurn config start turns m).next task = some action) : FromAnnouncement identity action := by
  obtain ⟨peer, others, asked⟩ := announced.spawned
  have within : ((DiscoveryTask.discovered identity peer others).program config).Only (FromAnnouncement identity) fun _ => True :=
    only_onDeviceDiscovered peer others
  exact Pool.next_within within (Pool.spawned_later later asked) about

/-- The announcement is entered as it is. -/
theorem Announced.entered (announced : Announced config start turns k task identity) :
    ∃ device, device.id = identity.deviceId ∧ device.protocolVersion = identity.protocolVersion ∧
      (atTurn config start turns (k + 1)).shared.registry =
        DeviceRegistry.upsertDevice (atTurn config start turns k).shared.pairing.paired (atTurn config start turns k).shared.pairing.now
          device (atTurn config start turns k).shared.registry := by
  obtain ⟨device, about⟩ := announced.upsert
  obtain ⟨same, version⟩ := announced.within (Nat.le_refl k) about
  exact ⟨device, same, version, congrArg DaemonState.registry (Pool.after_take announced.turn about)⟩

variable (config start turns) in
/-- Announcements do not lower the version of a paired device, and start no
dial with a lower one, exactly when each of them has at least the version that
is recorded at that moment. -/
theorem no_downgrade_iff : NoDowngrade config start turns ↔ Truthful config start turns := by
  constructor
  · intro none k task identity announced known recorded
    obtain ⟨device, same, version, entered⟩ := announced.entered
    obtain ⟨after, found, above⟩ := none.versions k task identity announced identity.deviceId known recorded
    obtain ⟨updated, there, taken⟩ := upsertDevice_version (same ▸ recorded.record)
    rw [entered, ← same, there] at found
    cases found
    exact version ▸ taken ▸ above
  · intro truthful
    refine ⟨fun k task identity announced d known recorded => ?_, fun k m task identity dialled before announced turn about paired known recorded => ?_⟩
    · obtain ⟨device, same, version, entered⟩ := announced.entered
      rw [entered]
      by_cases here : device.id = d
      · subst here
        obtain ⟨updated, there, taken⟩ := upsertDevice_version recorded.record
        refine ⟨updated, there, ?_⟩
        rw [taken, version]
        exact truthful k task identity announced known (same ▸ recorded)
      · exact ⟨known, (upsertDevice_other recorded.paired here).trans recorded.record, Nat.le_refl _⟩
    · obtain rfl : dialled = identity := announced.within (Nat.le_of_lt before) about
      exact truthful k task dialled announced known recorded

section Sample

open RefusedAttempts

/-- A paired phone whose record says version 8. -/
def pairedPhone : DaemonState where
  pairing := { now := seconds 1000, paired := AList.insert phoneId (seconds 10) ∅ }
  manager := { deviceId := "d1d2d3d4d1d2d3d4d1d2d3d4d1d2d3d4" }
  registry := AList.insert phoneId (.ofIdentity phoneId phoneIdentity (seconds 10)) ∅

/-- Whoever sent the announcement cannot be reached. -/
def silentPeer : OutboundPeer where
  address := ⟨.v4 192 168 1 66, "192.168.1.66", "192.168.1.66:1716"⟩
  expectedIdentity := none
  connect := .timedOut
  ownIdentity := .ok ()
  plaintextWrite := .ok ()
  plaintextFlush := .ok ()
  ownCertificate := .ok ()
  tlsSetup := .ok ()
  handshake := none
  certificate := none
  encryptedWrite := .ok ()
  encryptedFlush := .ok ()
  stream := []

/-- Someone announces the phone with version 7. -/
def downgrade : List (Turn DiscoveryTask) :=
  .spawn (.discovered { phoneIdentity with protocolVersion := 7 } silentPeer []) :: List.replicate 10 (.take 0)

theorem downgrade_announced :
    Announced ConnectionSetup.desktop pairedPhone downgrade 2 0 { phoneIdentity with protocolVersion := 7 } where
  spawned := ⟨silentPeer, [], rfl⟩
  turn := rfl
  upsert := ⟨_, rfl⟩

/-- The record of the phone goes down to version 7, so that the check lets the dial with that version pass. -/
theorem downgraded : ¬NoDowngrade ConnectionSetup.desktop pairedPhone downgrade := by
  intro none
  have paired : ∀ j, 2 ≤ j → j ≤ 9 →
      ((atTurn ConnectionSetup.desktop pairedPhone downgrade j).shared.pairing.paired.lookup phoneId).isSome := by
    intro j low high
    interval_cases j <;> rfl
  have dials := none.dials 2 9 0 _ { phoneIdentity with protocolVersion := 7 } (by decide) downgrade_announced rfl rfl paired
    (.ofIdentity phoneId phoneIdentity (seconds 10)) ⟨rfl, rfl⟩
  exact absurd dials (by decide)

end Sample

end Discovery

end RustConnect
