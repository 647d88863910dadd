import RustConnect.CertificateManager

namespace RustConnect

/-- The two request maps of `PairingHandler`. -/
inductive Queue
  | outgoing
  | incoming
  deriving DecidableEq, Repr

/-- What `retain` leaves behind in `cleanup_expired`: the sizes of the map
before and after it, and the ids it dropped. -/
structure Swept where
  before : Nat
  after : Nat
  expired : List DeviceId
  deriving Repr

/-- The lock scopes of `PairingHandler`, its reads of the clock, its file
operations and its broadcasts. -/
inductive PairingAction
  | ownDeviceId
  | now
  | requestGet (queue : Queue) (deviceId : DeviceId)
  | requestInsert (queue : Queue) (deviceId : DeviceId) (request : PairingRequest)
  | requestRemove (queue : Queue) (deviceId : DeviceId)
  | requestLen (queue : Queue)
  | requestRetain (queue : Queue)
  | pairedContains (deviceId : DeviceId)
  | pairedInsert (deviceId : DeviceId)
  | pairedRemove (deviceId : DeviceId)
  | pairedSnapshot
  | certGet (deviceId : DeviceId)
  | certInsert (deviceId : DeviceId) (certDer : Bytes)
  | certRemove (deviceId : DeviceId)
  | certRemoveAll (deviceIds : List DeviceId)
  | file (action : FileAction)
  | broadcast (event : DeviceEvent)

@[reducible] def PairingAction.Answer : PairingAction → Type
  | ownDeviceId => Option DeviceId
  | now => Time
  | requestGet _ _ => Option PairingRequest
  | requestInsert _ _ _ => Unit
  | requestRemove _ _ => Option PairingRequest
  | requestLen _ => Nat
  | requestRetain _ => Swept
  | pairedContains _ => Bool
  | pairedInsert _ => Unit
  | pairedRemove _ => Bool
  | pairedSnapshot => Table DeviceId Time
  | certGet _ => Option Bytes
  | certInsert _ _ => Unit
  | certRemove _ => Option Bytes
  | certRemoveAll _ => Unit
  | file action => action.Answer
  | broadcast _ => Unit

/-- The maps of `PairingHandler`, with the files and the clock it runs over. -/
structure PairingState where
  ownDeviceId : Option DeviceId := none
  outgoing : Table DeviceId PairingRequest := ∅
  incoming : Table DeviceId PairingRequest := ∅
  paired : Table DeviceId Time := ∅
  pendingCerts : Table DeviceId Bytes := ∅
  files : Files := ∅
  now : Time := 0

namespace PairingState

def queue (s : PairingState) : Queue → Table DeviceId PairingRequest
  | .outgoing => s.outgoing
  | .incoming => s.incoming

def setQueue (s : PairingState) : Queue → Table DeviceId PairingRequest → PairingState
  | .outgoing, requests => { s with outgoing := requests }
  | .incoming, requests => { s with incoming := requests }

/-- The entries of a request map that `cleanup_expired` keeps. -/
def live (s : PairingState) (q : Queue) : Table DeviceId PairingRequest :=
  (s.queue q).retain fun _ request => !request.expiredAt s.now

def expiredIds (s : PairingState) (q : Queue) : List DeviceId :=
  ((s.queue q).entries.filter fun e => e.2.expiredAt s.now).map Sigma.fst

end PairingState

namespace PairingAction

def exec : (action : PairingAction) → PairingState → action.Answer × PairingState
  | ownDeviceId, s => (s.ownDeviceId, s)
  | now, s => (s.now, s)
  | requestGet q d, s => ((s.queue q).lookup d, s)
  | requestInsert q d request, s => ((), s.setQueue q ((s.queue q).insert d request))
  | requestRemove q d, s => ((s.queue q).lookup d, s.setQueue q ((s.queue q).erase d))
  | requestLen q, s => ((s.queue q).len, s)
  | requestRetain q, s => (⟨(s.queue q).len, (s.live q).len, s.expiredIds q⟩, s.setQueue q (s.live q))
  | pairedContains d, s => ((s.paired.lookup d).isSome, s)
  | pairedInsert d, s => ((), { s with paired := s.paired.insert d s.now })
  | pairedRemove d, s => ((s.paired.lookup d).isSome, { s with paired := s.paired.erase d })
  | pairedSnapshot, s => (s.paired, s)
  | certGet d, s => (s.pendingCerts.lookup d, s)
  | certInsert d certDer, s => ((), { s with pendingCerts := s.pendingCerts.insert d certDer })
  | certRemove d, s => (s.pendingCerts.lookup d, { s with pendingCerts := s.pendingCerts.erase d })
  | certRemoveAll ids, s => ((), { s with pendingCerts := ids.foldl (fun certs d => certs.erase d) s.pendingCerts })
  | file action, s => ((action.exec s.files).1, { s with files := (action.exec s.files).2 })
  | broadcast _, s => ((), s)

end PairingAction

abbrev PairingProgram := Program PairingAction PairingAction.Answer

/-- The settings a handler is built with. -/
structure PairingSettings where
  timeout : Time := seconds 30
  acceptTimeout : Time := seconds 25
  maxPending : Nat := 10
  persistent : Bool := true

def pairedPath : Path := .data "paired.json"

def pairedTempPath : Path := .data "paired.tmp"

namespace PairingHandler

open PairingAction

variable (platform : Platform) (settings : PairingSettings)

@[simp] def perform (action : PairingAction) : PairingProgram action.Answer := Program.call action

def onFiles {α : Type} (program : FileProgram α) : PairingProgram α :=
  program.hoist fun action => perform (file action)

/-- `let _ =` on an operation of the certificate manager. -/
def ignoreResult (program : ExceptT Error FileProgram Unit) : PairingProgram Unit := onFiles (Program.attempt program)

def isOwnDeviceId (deviceId : DeviceId) : PairingProgram Bool := do
  let own ← perform ownDeviceId
  return own == some deviceId

def isExpired (request : PairingRequest) : PairingProgram Bool := do
  let moment ← perform now
  return request.expiredAt moment

def isPaired (deviceId : DeviceId) : PairingProgram Bool := perform (pairedContains deviceId)

def setPendingPeerCert (deviceId : DeviceId) (certDer : Bytes) : PairingProgram Unit :=
  perform (certInsert deviceId certDer)

/-- The sizes are compared with wrapping subtraction, so that any difference
between them counts as a removal. -/
def cleanupExpired : PairingProgram Int := do
  let outgoing ← perform (requestRetain .outgoing)
  let incoming ← perform (requestRetain .incoming)
  let outgoingLen ← perform (requestLen .outgoing)
  let removed : Int := (outgoing.before - outgoingLen) + (incoming.before - incoming.after)
  if removed ≠ 0 then
    perform (certRemoveAll (outgoing.expired ++ incoming.expired))
  return removed

/-- A failed save is only logged by its callers; with file operations that succeed there is none. -/
def saveToDisk : PairingProgram Unit := do
  if settings.persistent then
    let paired ← perform pairedSnapshot
    onFiles (FileProgram.write pairedTempPath (.paired paired))
    onFiles (FileProgram.rename pairedTempPath pairedPath)

def initiatePairing (deviceId : DeviceId) : ExceptT Error PairingProgram Int := do
  if ← isOwnDeviceId deviceId then
    throw (.pairingRejected s!"Refusing to initiate pairing with our own device id: {deviceId}")
  let _ ← cleanupExpired
  if ← isPaired deviceId then
    throw (.deviceAlreadyExists s!"Device {deviceId} is already paired")
  let outgoingLen ← perform (requestLen .outgoing)
  let incomingLen ← perform (requestLen .incoming)
  if outgoingLen + incomingLen ≥ settings.maxPending then
    throw (.pairingRejected s!"Too many pending pairing requests (max {settings.maxPending})")
  let createdAt ← perform now
  let stamp ← perform now
  let request : PairingRequest := ⟨deviceId, createdAt, settings.timeout, timestamp stamp⟩
  perform (requestInsert .outgoing deviceId request)
  return request.pairTimestamp

/-- The requests are looked up as the source does: an incoming one is only
touched when there is no outgoing one. -/
def removePendingRequest (deviceId : DeviceId) : ExceptT Error PairingProgram Bool := do
  match ← perform (requestRemove .outgoing deviceId) with
  | some request =>
    if ← isExpired request then
      let _ ← perform (certRemove deviceId)
      throw (.pairingTimeout deviceId)
    return true
  | none =>
    match ← perform (requestRemove .incoming deviceId) with
    | some request =>
      if ← isExpired request then
        let _ ← perform (certRemove deviceId)
        throw (.pairingTimeout deviceId)
      return true
    | none => return false

def hasPeerFingerprint (deviceId : DeviceId) : PairingProgram Bool :=
  onFiles (CertificateManager.hasPeerFingerprint platform deviceId)

def hasIdentityAnchor (deviceId : DeviceId) : PairingProgram Bool := do
  if (← perform (certGet deviceId)).isSome then
    return true
  hasPeerFingerprint platform deviceId

/-- What the accepting operations do once the identity anchor is settled. -/
def recordPairing (deviceId : DeviceId) : PairingProgram Unit := do
  perform (pairedInsert deviceId)
  saveToDisk settings
  perform (broadcast (.paired deviceId ""))

/-- The identity anchor of a pairing: the staged certificate, which is stored,
or else a fingerprint pinned before. `refusal` starts the text of the error. -/
def settleAnchor (refusal : String) (deviceId : DeviceId) : Option Bytes → ExceptT Error PairingProgram Unit
  | some certDer => ExceptT.mk (onFiles (CertificateManager.storePeerCertificate platform deviceId certDer).run)
  | none => do
    if !(← hasPeerFingerprint platform deviceId) then
      throw (.pairingRejected
        s!"{refusal} {deviceId}: no peer certificate (pending or pinned) was presented; cert-less pairings are not accepted")

/-- What `accept_pairing` and `force_accept_pairing` do once the request is out of the way. -/
def completePairing (refusal : String) (deviceId : DeviceId) : ExceptT Error PairingProgram Unit := do
  let pendingCert ← perform (certRemove deviceId)
  settleAnchor platform refusal deviceId pendingCert
  recordPairing settings deviceId

def acceptPairing (deviceId : DeviceId) : ExceptT Error PairingProgram Unit := do
  let hadRequest ← removePendingRequest deviceId
  if !hadRequest then
    throw (.noPendingPairRequest deviceId)
  completePairing platform settings "Refusing pairing with" deviceId

def forceAcceptPairing (deviceId : DeviceId) : ExceptT Error PairingProgram Unit := do
  if ← isOwnDeviceId deviceId then
    throw (.pairingRejected s!"Refusing to force-accept pairing with our own device id: {deviceId}")
  Program.attempt (removePendingRequest deviceId)
  completePairing platform settings "Refusing force-accept of pairing with" deviceId

def rejectPairing (deviceId : DeviceId) : ExceptT Error PairingProgram Unit := do
  let _ ← perform (certRemove deviceId)
  let removed ← perform (requestRemove .outgoing deviceId)
  let removedIncoming ← perform (requestRemove .incoming deviceId)
  if !(removed.isSome || removedIncoming.isSome) then
    throw (.noPendingPairRequest deviceId)

/-- What `unpair` does once the device is out of `paired`. -/
def forgetDevice (deviceId : DeviceId) : PairingProgram Unit := do
  ignoreResult (CertificateManager.deleteCertificate platform deviceId)
  ignoreResult (CertificateManager.deletePeerCertificate platform deviceId)
  saveToDisk settings
  perform (broadcast (.unpaired deviceId))

def unpair (deviceId : DeviceId) : ExceptT Error PairingProgram Unit := do
  let _ ← perform (certRemove deviceId)
  if ← perform (pairedRemove deviceId) then
    forgetDevice platform settings deviceId
  else
    throw (.deviceNotPaired deviceId)

/-- The part of `receive_pair_request_with_cert` after the sweep: the staging
of the certificate comes only once the request is known to be live. -/
def admitPairRequest (deviceId : DeviceId) (timestamp : Option Int) (certDer : Option Bytes) :
    ExceptT Error PairingProgram Unit := do
  if (← perform (requestGet .outgoing deviceId)).isSome then
    if let some certDer := certDer then
      setPendingPeerCert deviceId certDer
    acceptPairing platform settings deviceId
  else if (← perform (requestGet .incoming deviceId)).isSome then
    return
  else
    let outgoingLen ← perform (requestLen .outgoing)
    let incomingLen ← perform (requestLen .incoming)
    if outgoingLen + incomingLen ≥ settings.maxPending then
      throw (.pairingRejected s!"Too many pending pairing requests (max {settings.maxPending})")
    let createdAt ← perform now
    perform (requestInsert .incoming deviceId
      ⟨deviceId, createdAt, settings.acceptTimeout, timestamp.getD 0⟩)
    if let some certDer := certDer then
      setPendingPeerCert deviceId certDer

def receivePairRequestWithCert (deviceId : DeviceId) (timestamp : Option Int) (certDer : Option Bytes) :
    ExceptT Error PairingProgram Unit := do
  if ← isOwnDeviceId deviceId then
    throw (.pairingRejected s!"Refusing pair request claiming our own device id: {deviceId}")
  if ← isPaired deviceId then
    Program.attempt (unpair platform settings deviceId)
  let _ ← cleanupExpired
  admitPairRequest platform settings deviceId timestamp certDer

def pairState (deviceId : DeviceId) : PairingProgram PairState := do
  if ← isPaired deviceId then
    return .paired
  if let some request ← perform (requestGet .outgoing deviceId) then
    if !(← isExpired request) then
      return .requested
  if let some request ← perform (requestGet .incoming deviceId) then
    if !(← isExpired request) then
      return .requestedByPeer
  return .notPaired

/-- A file that is missing leaves the map as it is; one that does not parse is
an error that the caller only logs. -/
def loadFromDisk (s : PairingState) : PairingState :=
  if settings.persistent then
    match s.files.lookup pairedPath with
    | some (.paired devices) => { s with paired := s.paired.extend devices }
    | _ => s
  else
    s

end PairingHandler

end RustConnect
