import RustConnect.Receive
import RustConnect.Identity

namespace RustConnect

/-- A registered `Connection`, told apart from every other by its number. -/
structure Link where
  id : Nat
  generation : UInt64
  peerCert : Option Bytes
  deriving DecidableEq, Repr

/-- A cancellation token, told apart from every other by its number. -/
abbrev Token := Nat

/-- The maps of the `ConnectionManager`, the read halves of the links, and
which cancellation tokens have been cancelled. -/
structure ManagerState where
  connections : Table DeviceId Link := ∅
  generations : Table DeviceId UInt64 := ∅
  cancelTokens : Table DeviceId Token := ∅
  peerCapabilities : Table DeviceId (List String) := ∅
  lastConnectionAttempt : Table String Time := ∅
  streams : Table Nat BufReader := ∅
  cancelled : List Token := []
  nextLink : Nat := 0
  nextToken : Token := 0
  files : Files := ∅
  deviceId : DeviceId := ""
  now : Time := 0

/-- What the manager does to its state, one lock scope at a time. -/
inductive ManagerAction
  | file (action : FileAction)
  | ownDeviceId
  | admitAttempt (ip : String)
  | sendReverseFallback (ip : String)
  | recordCapabilities (deviceId : DeviceId) (incoming : List String)
  | registerIncoming (deviceId : DeviceId) (peerCert : Option Bytes) (stream : BufReader)
  | bumpGeneration (deviceId : DeviceId)
  | getConnection (deviceId : DeviceId)
  | insertConnection (deviceId : DeviceId) (generation : UInt64) (peerCert : Option Bytes) (stream : BufReader)
  | newToken
  | cancelLoop (deviceId : DeviceId)
  | removeCancelToken (deviceId : DeviceId)
  | registerCancelTokenIfCurrent (deviceId : DeviceId) (token : Token) (generation : UInt64)
  | removeCancelTokenIfCurrent (deviceId : DeviceId) (generation : UInt64)
  | removeConnection (deviceId : DeviceId) (generation : UInt64)
  | shutdownWrite (link : Nat)
  | connectedDeviceIds
  | retainGenerations (connected : List DeviceId)
  | readPacket (deviceId : DeviceId) (link : Nat)

namespace ManagerAction

@[reducible] def Answer : ManagerAction → Type
  | file action => action.Answer
  | ownDeviceId => DeviceId
  | admitAttempt _ => Bool
  | registerIncoming _ _ _ => Except Error (UInt64 × Option Link)
  | bumpGeneration _ => UInt64
  | getConnection _ => Option Link
  | newToken => Token
  | registerCancelTokenIfCurrent _ _ _ => Bool
  | removeCancelTokenIfCurrent _ _ => Bool
  | removeConnection _ _ => Option (Option Link)
  | connectedDeviceIds => List DeviceId
  | readPacket _ _ => Except Error Packet
  | _ => Unit

end ManagerAction

namespace ManagerState

/-- `gens.get(..).unwrap_or(&0) + 1`. -/
def nextGeneration (s : ManagerState) (deviceId : DeviceId) : UInt64 := (s.generations.lookup deviceId).getD 0 + 1

def isCurrent (s : ManagerState) (deviceId : DeviceId) (generation : UInt64) : Bool :=
  (s.connections.lookup deviceId).any fun link => link.generation == generation

/-- A new `Connection` with the given generation takes the device's slot. -/
def putLink (s : ManagerState) (deviceId : DeviceId) (generation : UInt64) (peerCert : Option Bytes) (stream : BufReader) :
    ManagerState :=
  { s with
    connections := s.connections.insert deviceId { id := s.nextLink, generation, peerCert }
    streams := s.streams.insert s.nextLink stream
    nextLink := s.nextLink + 1 }

def countGeneration (s : ManagerState) (deviceId : DeviceId) : ManagerState :=
  { s with generations := s.generations.insert deviceId (s.nextGeneration deviceId) }

/-- Attempts to one address are a second apart; entries older than a minute are dropped. -/
def admitAttempt (s : ManagerState) (ip : String) : Bool × ManagerState :=
  if (s.lastConnectionAttempt.lookup ip).any fun last => s.now - last < seconds 1 then (false, s)
  else
    let attempts := s.lastConnectionAttempt.insert ip s.now
    (true, { s with lastConnectionAttempt := Table.retain (fun _ last => s.now - last < seconds 60) attempts })

/-- The scope of `accept_incoming` that holds the connections lock: a link to
the same device is replaced only by one with the same certificate. -/
def registerIncoming (s : ManagerState) (deviceId : DeviceId) (peerCert : Option Bytes) (stream : BufReader) :
    Except Error (UInt64 × Option Link) × ManagerState :=
  let old := s.connections.lookup deviceId
  if old.any fun link => !(link.peerCert.isSome && link.peerCert == peerCert) then
    (.error (.certificateError
      s!"Device {deviceId} already connected and presented a different certificate, rejecting replacement"), s)
  else
    (.ok (s.nextGeneration deviceId, old),
      (s.countGeneration deviceId).putLink deviceId (s.nextGeneration deviceId) peerCert stream)

/-- The scope of `disconnect` that holds the connections lock: `none` when a
link of another generation holds the slot, else what the slot held. -/
def removeConnection (s : ManagerState) (deviceId : DeviceId) (generation : UInt64) : Option (Option Link) × ManagerState :=
  let old := s.connections.lookup deviceId
  if old.any fun link => link.generation != generation then (none, s)
  else (some old, { s with
    cancelTokens := s.cancelTokens.erase deviceId
    connections := s.connections.erase deviceId })

def readPacket (codec : JsonCodec) (s : ManagerState) (deviceId : DeviceId) (link : Nat) : Except Error Packet × ManagerState :=
  let (answer, reader) := receivePacket codec deviceId ((s.streams.lookup link).getD (.new []))
  (answer, { s with streams := s.streams.insert link reader })

end ManagerState

/-- The effect of each action, as the source's lock scopes have it. -/
def ManagerAction.exec (codec : JsonCodec) : (action : ManagerAction) → ManagerState → action.Answer × ManagerState
  | file action, s => ((action.exec s.files).1, { s with files := (action.exec s.files).2 })
  | ownDeviceId, s => (s.deviceId, s)
  | admitAttempt ip, s => s.admitAttempt ip
  | sendReverseFallback _, s => ((), s)
  | recordCapabilities deviceId incoming, s =>
    ((), { s with peerCapabilities := s.peerCapabilities.insert deviceId incoming })
  | registerIncoming deviceId peerCert stream, s => s.registerIncoming deviceId peerCert stream
  | bumpGeneration deviceId, s => (s.nextGeneration deviceId, s.countGeneration deviceId)
  | getConnection deviceId, s => (s.connections.lookup deviceId, s)
  | insertConnection deviceId generation peerCert stream, s => ((), s.putLink deviceId generation peerCert stream)
  | newToken, s => (s.nextToken, { s with nextToken := s.nextToken + 1 })
  | cancelLoop deviceId, s =>
    ((), match s.cancelTokens.lookup deviceId with
      | some token => { s with cancelled := token :: s.cancelled }
      | none => s)
  | removeCancelToken deviceId, s => ((), { s with cancelTokens := s.cancelTokens.erase deviceId })
  | registerCancelTokenIfCurrent deviceId token generation, s =>
    if s.isCurrent deviceId generation then (true, { s with cancelTokens := s.cancelTokens.insert deviceId token })
    else (false, s)
  | removeCancelTokenIfCurrent deviceId generation, s =>
    if s.isCurrent deviceId generation then (true, { s with cancelTokens := s.cancelTokens.erase deviceId })
    else (false, s)
  | removeConnection deviceId generation, s => s.removeConnection deviceId generation
  | shutdownWrite _, s => ((), s)
  | connectedDeviceIds, s => (s.connections.keys, s)
  | retainGenerations connected, s =>
    ((), { s with generations := s.generations.retain fun deviceId _ => connected.contains deviceId })
  | readPacket deviceId link, s => s.readPacket codec deviceId link

theorem ManagerAction.exec_now {codec : JsonCodec} (action : ManagerAction) (s : ManagerState) :
    (action.exec codec s).2.now = s.now := by
  cases action with
  | admitAttempt ip =>
    simp only [exec, ManagerState.admitAttempt]
    split <;> rfl
  | registerIncoming d peerCert stream =>
    simp only [exec, ManagerState.registerIncoming]
    split <;> rfl
  | cancelLoop d =>
    simp only [exec]
    split <;> rfl
  | registerCancelTokenIfCurrent d token generation =>
    simp only [exec]
    split <;> rfl
  | removeCancelTokenIfCurrent d generation =>
    simp only [exec]
    split <;> rfl
  | removeConnection d generation =>
    simp only [exec, ManagerState.removeConnection]
    split <;> rfl
  | _ => rfl

/-- The action leaves the recorded capabilities as they are. -/
def ManagerAction.KeepsCapabilities : ManagerAction → Prop
  | recordCapabilities _ _ => False
  | _ => True

theorem ManagerAction.exec_keepsCapabilities {codec : JsonCodec} {action : ManagerAction} (keeps : action.KeepsCapabilities)
    (s : ManagerState) : (action.exec codec s).2.peerCapabilities = s.peerCapabilities := by
  cases action with
  | recordCapabilities => cases keeps
  | admitAttempt ip =>
    simp only [exec, ManagerState.admitAttempt]
    split <;> rfl
  | registerIncoming d peerCert stream =>
    simp only [exec, ManagerState.registerIncoming]
    split <;> rfl
  | cancelLoop d =>
    simp only [exec]
    split <;> rfl
  | registerCancelTokenIfCurrent d token generation =>
    simp only [exec]
    split <;> rfl
  | removeCancelTokenIfCurrent d generation =>
    simp only [exec]
    split <;> rfl
  | removeConnection d generation =>
    simp only [exec, ManagerState.removeConnection]
    split <;> rfl
  | _ => rfl

/-- What is done with a link that is registered: it is looked up, read from, or taken away. -/
def ManagerAction.Serves : ManagerAction → Prop
  | getConnection _ | readPacket _ _ | removeConnection _ _ | shutdownWrite _ => True
  | _ => False

theorem ManagerAction.Serves.keepsCapabilities {action : ManagerAction} (serves : action.Serves) : action.KeepsCapabilities := by
  cases action with
  | recordCapabilities => exact serves
  | _ => trivial

abbrev ManagerProgram := Program ManagerAction ManagerAction.Answer

namespace ConnectionManager

open ManagerAction

@[simp] def perform (action : ManagerAction) : ManagerProgram action.Answer := Program.call action

def onFiles {α : Type} (program : FileProgram α) : ManagerProgram α := program.hoist fun action => perform (file action)

def onFilesExcept {α : Type} (program : ExceptT Error FileProgram α) : ExceptT Error ManagerProgram α := onFiles program.run

/-- `record_peer_capabilities`: only an identity that lists both kinds counts. -/
def recordPeerCapabilities (deviceId : DeviceId) (incoming outgoing : List String) : ManagerProgram Unit := do
  if incoming.isEmpty || outgoing.isEmpty then
    return
  perform (recordCapabilities deviceId incoming)

/-- The capability gate of `send_packet`: identities and pair packets always
pass, and so does every type to a peer whose capabilities are not known. -/
def admitsType (s : ManagerState) (deviceId : DeviceId) (packet : Packet) : Bool :=
  packet.isIdentity || packet.isPair || (s.peerCapabilities.lookup deviceId).all fun incoming => incoming.contains packet.packetType

/-- The end of both ways to register a link: the loop and the socket of the link it replaces are stopped. -/
def stopReplaced (deviceId : DeviceId) (old : Link) : ManagerProgram Unit := do
  perform (cancelLoop deviceId)
  perform (removeCancelToken deviceId)
  perform (shutdownWrite old.id)

def cleanupStaleGenerations : ManagerProgram Unit := do
  let connected ← perform connectedDeviceIds
  perform (retainGenerations connected)

/-- `disconnect`: whether the caller's generation still owned the link. -/
def disconnect (deviceId : DeviceId) (generation : UInt64) : ManagerProgram Bool := do
  match ← perform (removeConnection deviceId generation) with
  | none => return false
  | some none => return true
  | some (some link) =>
    perform (shutdownWrite link.id)
    return true

/-- `recv_packet_current`. -/
def recvPacketCurrent (deviceId : DeviceId) (generation : UInt64) : ExceptT Error ManagerProgram Packet := do
  match ← perform (getConnection deviceId) with
  | none => throw (.connectionError s!"No connection for device: {deviceId}")
  | some link =>
    if link.generation ≠ generation then
      throw (.connectionError
        s!"Stale generation {generation} for device {deviceId} (link replaced; current generation {link.generation})")
    ExceptT.mk (perform (readPacket deviceId link.id))

theorem disconnect_serves (deviceId : DeviceId) (generation : UInt64) :
    (disconnect deviceId generation).Only Serves fun _ => True := by
  refine ⟨trivial, fun removed => ?_⟩
  rcases removed with _ | _ | link
  · trivial
  · trivial
  · exact ⟨trivial, fun _ => trivial⟩

theorem recvPacketCurrent_serves (deviceId : DeviceId) (generation : UInt64) :
    Program.Only (recvPacketCurrent deviceId generation).run Serves fun _ => True := by
  unfold recvPacketCurrent
  refine Program.Only.except_bind ⟨trivial, fun _ => trivial⟩ fun found => ?_
  cases found with
  | none => trivial
  | some link =>
    dsimp only
    split
    · trivial
    · exact ⟨trivial, fun _ => trivial⟩

/-- How a packet loop begins: a new token is registered for the link, if the link is still the device's. -/
def startLoop (deviceId : DeviceId) (generation : UInt64) : ManagerProgram Bool := do
  let token ← perform newToken
  perform (registerCancelTokenIfCurrent deviceId token generation)

end ConnectionManager

end RustConnect
