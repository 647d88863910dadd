import RustConnect.FanOut
import RustConnect.PairingViews

namespace RustConnect

open Program DaemonAction Daemon

def Packet.pairRequestWithTimestamp (id : Int64) (timestamp : Int) : Packet :=
  new id "kdeconnect.pair" (.obj [("pair", .bool true), ("timestamp", .ofInt timestamp)])

namespace DeviceApi

variable (print : Json → String) (platform : Platform) (settings : PairingSettings)

/-- Both branches of `pair_device` stage the certificate of the link that is current at that moment. -/
def stagePeerCert (deviceId : DeviceId) : DaemonProgram Unit := do
  if let some certDer ← getPeerCertificate deviceId then
    onPairing (PairingHandler.setPendingPeerCert deviceId certDer)

/-- The `send_result` of the accept branch. -/
def sendAccept (deviceId : DeviceId) : ExceptT Error DaemonProgram Unit := do
  if ← isConnected deviceId then
    let now ← perform (pairing .now)
    let id ← perform generatePacketId
    sendPacket print deviceId (.pairResponse id now true)
  else
    throw (.connectionError s!"Device {deviceId} is not connected")

/-- The accept branch once `pair: true` was sent, or could not be. -/
def afterSend (deviceId : DeviceId) : Except Error Unit → DaemonProgram (Except Error String)
  | .error e => do
    onPairing (attempt (PairingHandler.rejectPairing deviceId))
    return .error e
  | .ok () => do
    match ← onPairing (PairingHandler.acceptPairing platform settings deviceId).run with
    | .error e => return .error e
    | .ok () =>
      perform (spawnPluginInit deviceId)
      return .ok "paired"

/-- The branch of `pair_device` for a device that has asked to be paired. -/
def acceptRequest (deviceId : DeviceId) : DaemonProgram (Except Error String) := do
  stagePeerCert deviceId
  if ← onPairing (PairingHandler.hasIdentityAnchor platform deviceId) then
    let sendResult ← (sendAccept print deviceId).run
    afterSend platform settings deviceId sendResult
  else
    onPairing (attempt (PairingHandler.rejectPairing deviceId))
    return .error (.pairingRejected
      s!"Refusing pairing with {deviceId}: no peer certificate (pending or pinned) was presented; cert-less pairings are not accepted")

/-- The other branch; that the request could not be sent is only logged. -/
def askForPairing (deviceId : DeviceId) : DaemonProgram (Except Error String) := do
  match ← onPairing (PairingHandler.initiatePairing settings deviceId).run with
  | .error e => return .error e
  | .ok pairTimestamp =>
    stagePeerCert deviceId
    if ← isConnected deviceId then
      let id ← perform generatePacketId
      attempt (sendPacket print deviceId (.pairRequestWithTimestamp id pairTimestamp))
    return .ok "pairing_initiated"

/-- `pair_device`. -/
def pairDevice (deviceId : DeviceId) : DaemonProgram (Except Error String) :=
  match validateDeviceId platform deviceId with
  | .error e => return .error e
  | .ok () => do
    if ← onPairing (PairingHandler.hasIncomingRequest deviceId) then
      acceptRequest print platform settings deviceId
    else
      askForPairing print settings deviceId

/-- `notify_peer_unpair`. -/
def notifyPeerUnpair (deviceId : DeviceId) : DaemonProgram Unit := do
  if ← isConnected deviceId then
    let now ← perform (pairing .now)
    let id ← perform generatePacketId
    attempt (sendPacket print deviceId (.pairResponse id now false))

/-- The forced teardown of `unpair_device`. -/
def dropLink (deviceId : DeviceId) : DaemonProgram Unit := do
  if ← isConnected deviceId then
    if let some link ← perform (manager (.getConnection deviceId)) then
      let _ ← onManager (ConnectionManager.disconnect deviceId link.generation)

/-- `unpair_device`. -/
def unpairDevice (deviceId : DeviceId) : DaemonProgram (Except Error String) :=
  match validateDeviceId platform deviceId with
  | .error e => return .error e
  | .ok () => do
    notifyPeerUnpair print deviceId
    dropLink deviceId
    perform (notifyDisconnected deviceId)
    if ← onPairing (PairingHandler.isPaired deviceId) then
      match ← onPairing (PairingHandler.unpair platform settings deviceId).run with
      | .error e => return .error e
      | .ok () => return .ok "unpaired"
    else
      return .ok "unpaired"

/-- What `get_device` and the device list show of the verification key. -/
def showVerificationKey (publicKey : Bytes → Except String Bytes) (deviceId : DeviceId) : DaemonProgram Unit := do
  if let .ok (some key) ← onPairing (PairingHandler.getVerificationKey platform publicKey deviceId).run then
    perform (keyShown deviceId key)

end DeviceApi

/-- The tasks of the daemon together with the calls of the HTTP API that are about pairing. -/
inductive ApiTask
  | daemon (task : DaemonTask)
  | pairDevice (deviceId : DeviceId)
  | unpairDevice (deviceId : DeviceId)
  | showVerificationKey (deviceId : DeviceId)

/-- What the daemon is built with. -/
structure DaemonSettings where
  print : Json → String
  codec : JsonCodec
  platform : Platform
  publicKey : Bytes → Except String Bytes
  pairing : PairingSettings
  our : Identity

def ApiTask.program (config : DaemonSettings) : ApiTask → DaemonProgram Unit
  | daemon task => task.program config.print config.codec config.platform config.pairing config.our
  | pairDevice d => do
    perform (pairCalled d)
    let result ← DeviceApi.pairDevice config.print config.platform config.pairing d
    perform (pairReturned d result)
  | unpairDevice d => do let _ ← DeviceApi.unpairDevice config.print config.platform config.pairing d
  | showVerificationKey d => DeviceApi.showVerificationKey config.platform config.publicKey d

namespace DeviceApi

section Footprint

variable {print : Json → String} {platform : Platform} {settings : PairingSettings} {d : DeviceId}

theorem ordinary_stagePeerCert : (stagePeerCert d).Only ordinary fun _ => True := by
  have current : (getPeerCertificate d).Only ordinary fun _ => True := ⟨trivial, fun _ => trivial⟩
  refine (only_bind _ _ _).mpr (current.followedBy fun certDer => ?_)
  cases certDer with
  | none => trivial
  | some certDer => exact ⟨trivial, fun _ => trivial⟩

theorem ordinary_notifyPeerUnpair : (notifyPeerUnpair print d).Only ordinary fun _ => True := by
  refine ⟨trivial, fun found => ?_⟩
  cases found with
  | none => trivial
  | some link => exact ⟨trivial, fun _ => ⟨trivial, fun _ => (only_attempt _ _).mpr (FanOut.ordinary_sendPacket d _)⟩⟩

theorem ordinary_dropLink : (dropLink d).Only ordinary fun _ => True := by
  refine ⟨trivial, fun found => ?_⟩
  cases found with
  | none => trivial
  | some link =>
    refine ⟨trivial, fun current => ?_⟩
    cases current with
    | none => trivial
    | some link => exact (only_bind (onManager _) _ _).mpr ((only_onManager (fun _ => trivial) _).followedBy fun _ => trivial)

theorem ordinary_unpairDevice : (unpairDevice print platform settings d).Only ordinary fun _ => True := by
  unfold unpairDevice
  split
  · trivial
  · refine (only_bind _ _ _).mpr (ordinary_notifyPeerUnpair.followedBy fun _ => ?_)
    refine (only_bind _ _ _).mpr (ordinary_dropLink.followedBy fun _ => ⟨trivial, fun _ => ?_⟩)
    refine ⟨trivial, fun paired => ?_⟩
    cases paired with
    | false => trivial
    | true =>
      refine (only_bind (onPairing (PairingHandler.unpair platform settings d).run) _ _).mpr ((only_onPairing (fun _ => trivial) _).followedBy fun result => ?_)
      cases result <;> trivial

section Tasks

variable {P : DaemonAction → Prop} (within : ∀ action, action.ordinary → P action)

include within

theorem only_daemonTask (targets : P fanOutTargets) (codec : JsonCodec) (our : Identity) (task : DaemonTask) :
    (task.program print codec platform settings our).Only P fun _ => True := by
  have sends (d : DeviceId) : FanOut.SendsWithin print P d := fun packet =>
    (only_attempt _ _).mpr ((FanOut.ordinary_sendPacket d packet).weaken within fun _ _ => trivial)
  cases task with
  | background event =>
    cases event with
    | clipboard packet => exact ⟨targets, fun _ => FanOut.only_fanOut packet fun d _ => sends d⟩
    | mpris packet => exact ⟨targets, fun _ => FanOut.only_fanOut packet fun d _ => sends d⟩
    | pushLocalState deltas sinkList =>
      exact ⟨targets, fun _ => FanOut.only_pushTo deltas sinkList (fun d _ => sends d) (within _ trivial)⟩
    | syncPeers synced sinkList =>
      exact ⟨targets, fun _ => FanOut.only_syncEach _ sinkList (fun d _ => sends d) (within _ trivial) fun _ => within _ trivial⟩
  | links task => exact (FanOut.ordinary_links codec platform our task).weaken within fun _ _ => trivial
  | asks call => exact (FanOut.ordinary_asks platform settings call).weaken within fun _ _ => trivial
  | handles d generation packet =>
    refine (only_bind _ _ _).mpr (Only.followedBy ?_ fun _ => trivial)
    exact (FanOut.ordinary_handles platform settings d generation packet).weaken within fun _ _ => trivial
  | waits duration => exact ⟨within _ trivial, fun _ => trivial⟩

theorem only_showVerificationKey {publicKey : Bytes → Except String Bytes} (shows : ∀ key, P (keyShown d key)) :
    (showVerificationKey platform publicKey d).Only P fun _ => True := by
  refine (only_bind _ _ _).mpr ((only_onPairing (fun _ => within _ trivial) _).followedBy fun result => ?_)
  rcases result with e | _ | key
  · trivial
  · trivial
  · exact ⟨shows key, fun _ => trivial⟩

end Tasks

end Footprint

end DeviceApi

end RustConnect
