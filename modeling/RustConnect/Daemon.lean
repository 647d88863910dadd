import RustConnect.Attempts
import RustConnect.PacketLoop
import RustConnect.PacketRoundTrip
import RustConnect.Registry

namespace RustConnect

/-- How a write or a flush ends. -/
inductive IoResult
  | done
  | failed (message : String)
  | timedOut
  deriving DecidableEq, Repr

/-- What the stream makes of one packet. A `write_all` that does not finish
may have written some of the bytes. -/
structure WriteOutcome where
  writeAll : IoResult := .done
  written : Nat := 0
  flush : IoResult := .done
  deriving DecidableEq, Repr

namespace WriteOutcome

/-- `write_framed`. -/
def writeFramed (outcome : WriteOutcome) (deviceId : DeviceId) : Except Error Unit :=
  match outcome.writeAll with
  | .failed message => .error (.connectionError s!"Failed to send packet to {deviceId}: {message}")
  | .timedOut => .error (.connectionTimeout s!"Timed out sending packet to {deviceId}")
  | .done =>
    match outcome.flush with
    | .done => .ok ()
    | .failed message => .error (.connectionError s!"Failed to flush packet to {deviceId}: {message}")
    | .timedOut => .error (.connectionTimeout s!"Timed out flushing packet to {deviceId}")

end WriteOutcome

/-- A packet that was given to the stream of a link, and what became of it. -/
structure Frame where
  bytes : Bytes
  outcome : WriteOutcome
  deriving DecidableEq, Repr

namespace Frame

def finished (frame : Frame) : Bool := frame.outcome.writeAll == .done

/-- The bytes that were written. -/
def reached (frame : Frame) : Bytes := if frame.finished then frame.bytes else frame.bytes.take frame.outcome.written

/-- Only a part of the packet was written. -/
def torn (frame : Frame) : Bool := !frame.finished && !frame.reached.isEmpty

end Frame

/-- The marks of dials under way, and that a dial is started. -/
inductive DialAction
  | addPending (deviceId : DeviceId)
  | removePending (deviceId : DeviceId)
  | start (identity : Identity)
  deriving DecidableEq

@[reducible] def DialAction.Answer : DialAction → Type
  | addPending _ => Bool
  | _ => Unit

def DialAction.exec : (action : DialAction) → List DeviceId → action.Answer × List DeviceId
  | addPending d, pending => if pending.contains d then (false, pending) else (true, d :: pending)
  | removePending d, pending => ((), pending.erase d)
  | start _, pending => ((), pending)

/-- The daemon: the pairing handler, which has the files and the clock, the
connection manager, the registry, the dials under way, what was written on
each link, which links were accepted, for which devices the plugins were told
of a disconnect, and what the streams and the random generator are going to
answer. -/
structure DaemonState where
  pairing : PairingState := {}
  manager : ManagerState := {}
  registry : Devices := ∅
  pending : List DeviceId := []
  frames : Table Nat (List Frame) := ∅
  inbound : List Nat := []
  notified : List DeviceId := []
  outcomes : List WriteOutcome := []
  packetIds : List Int64 := []

/-- What the daemon does to its state. The call of `connected_device_ids` that
a background sender makes is told apart from that of the manager itself; that
`pair_device` is called and what it returns, and that a verification key is
shown to the user, changes nothing. -/
inductive DaemonAction
  | pairing (action : PairingAction)
  | manager (action : ManagerAction)
  | sendStart (deviceId : DeviceId) (packet : Packet)
  | lookupLink (deviceId : DeviceId) (packet : Packet)
  | peerCapabilities (deviceId : DeviceId)
  | writeFramed (deviceId : DeviceId) (link : Nat) (bytes : Bytes)
  | fanOutTargets
  | registryGet (deviceId : DeviceId)
  | registry (action : RegistryAction)
  | dialing (action : DialAction)
  | generatePacketId
  | tryTransition (deviceId : DeviceId) (state : DeviceState)
  | notifyDisconnected (deviceId : DeviceId)
  | spawnPluginInit (deviceId : DeviceId)
  | timeoutElapsed
  | pairCalled (deviceId : DeviceId)
  | pairReturned (deviceId : DeviceId) (result : Except Error String)
  | keyShown (deviceId : DeviceId) (key : String)
  | pass (duration : Time)

@[reducible] def DaemonAction.Answer : DaemonAction → Type
  | pairing action => action.Answer
  | manager action => action.Answer
  | lookupLink _ _ => Option Link
  | peerCapabilities _ => Option (List String)
  | writeFramed _ _ _ => WriteOutcome
  | fanOutTargets => List DeviceId
  | registryGet _ => Option Device
  | registry action => action.Answer
  | dialing action => action.Answer
  | generatePacketId => Int64
  | _ => Unit

namespace DaemonState

/-- The manager as it sees the files and the clock. -/
def view (s : DaemonState) : ManagerState := { s.manager with files := s.pairing.files, now := s.pairing.now }

def putManager (s : DaemonState) (manager : ManagerState) : DaemonState :=
  { s with manager, pairing := { s.pairing with files := manager.files } }

def framesOf (s : DaemonState) (link : Nat) : List Frame := (s.frames.lookup link).getD []

/-- What `accept_incoming` registers is a link on which nothing was written yet. -/
def noteInbound (s : DaemonState) : (action : ManagerAction) → action.Answer → List Nat
  | .registerIncoming _ _ _, .ok _ => s.manager.nextLink :: s.inbound
  | _, _ => s.inbound

def write (s : DaemonState) (link : Nat) (bytes : Bytes) : WriteOutcome × DaemonState :=
  let outcome := s.outcomes.headD {}
  (outcome,
    { s with frames := s.frames.insert link (s.framesOf link ++ [⟨bytes, outcome⟩]), outcomes := s.outcomes.tail })

theorem framesOf_write (s : DaemonState) (link : Nat) (bytes : Bytes) :
    (s.write link bytes).2.framesOf link = s.framesOf link ++ [⟨bytes, s.outcomes.headD {}⟩] := by
  simp [write, framesOf, AList.lookup_insert]

theorem framesOf_write_ne (s : DaemonState) {link other : Nat} (bytes : Bytes) (apart : other ≠ link) :
    (s.write link bytes).2.framesOf other = s.framesOf other := by
  simp [write, framesOf, AList.lookup_insert_ne apart]

/-- `try_transition`: a device that is not known, or not in a state to do so, is left as it is. -/
def transition (s : DaemonState) (deviceId : DeviceId) (state : DeviceState) : DaemonState :=
  { s with registry := DeviceRegistry.transition s.pairing.now deviceId state s.registry }

theorem transition_manager (s : DaemonState) (d : DeviceId) (state : DeviceState) :
    (s.transition d state).manager = s.manager := rfl

theorem transition_notified (s : DaemonState) (d : DeviceId) (state : DeviceState) :
    (s.transition d state).notified = s.notified := rfl

end DaemonState

namespace DaemonAction

/-- What is done for any of the daemon's purposes. -/
def ordinary : DaemonAction → Prop
  | fanOutTargets | pairCalled _ | pairReturned _ _ | keyShown _ _ => False
  | _ => True

def exec (codec : JsonCodec) : (action : DaemonAction) → DaemonState → action.Answer × DaemonState
  | pairing action, s => ((action.exec s.pairing).1, { s with pairing := (action.exec s.pairing).2 })
  | manager action, s => ((action.exec codec s.view).1,
    { s.putManager (action.exec codec s.view).2 with inbound := s.noteInbound action (action.exec codec s.view).1 })
  | sendStart _ _, s => ((), s)
  | lookupLink d _, s => (s.manager.connections.lookup d, s)
  | peerCapabilities d, s => (s.manager.peerCapabilities.lookup d, s)
  | writeFramed _ link bytes, s => s.write link bytes
  | fanOutTargets, s => (s.manager.connections.keys, s)
  | registryGet d, s => (s.registry.lookup d, s)
  | registry action, s => ((action.exec s.pairing.paired s.pairing.now s.registry).1,
    { s with registry := (action.exec s.pairing.paired s.pairing.now s.registry).2 })
  | dialing action, s => ((action.exec s.pending).1, { s with pending := (action.exec s.pending).2 })
  | generatePacketId, s => (s.packetIds.headD 0, { s with packetIds := s.packetIds.tail })
  | tryTransition d state, s => ((), s.transition d state)
  | notifyDisconnected d, s => ((), { s with notified := s.notified ++ [d] })
  | spawnPluginInit _, s => ((), s)
  | timeoutElapsed, s => ((), s)
  | pairCalled _, s => ((), s)
  | pairReturned _ _, s => ((), s)
  | keyShown _ _, s => ((), s)
  | pass duration, s => ((), { s with pairing := { s.pairing with now := s.pairing.now + duration } })

end DaemonAction

abbrev DaemonProgram := Program DaemonAction DaemonAction.Answer

namespace Daemon

open DaemonAction

variable (print : Json → String)

@[simp] def perform (action : DaemonAction) : DaemonProgram action.Answer := Program.call action

def onPairing {α : Type} (program : PairingProgram α) : DaemonProgram α := program.hoist fun action => perform (pairing action)

def onManager {α : Type} (program : ManagerProgram α) : DaemonProgram α := program.hoist fun action => perform (manager action)

theorem onManager_disconnect (deviceId : DeviceId) (generation : UInt64) :
    onManager (ConnectionManager.disconnect deviceId generation) =
      (perform (manager (.removeConnection deviceId generation)) >>= fun removed => match removed with
        | none => pure false
        | some none => pure true
        | some (some link) => perform (manager (.shutdownWrite link.id)) >>= fun _ => pure true) := by
  refine congrArg (Program.act _) (funext fun removed => ?_)
  rcases removed with _ | _ | link <;> rfl

@[simp] theorem run_onPairing {α : Type} (codec : JsonCodec) (program : PairingProgram α) (s : DaemonState) :
    Program.run (exec codec) (onPairing program) s =
      ((Program.run PairingAction.exec program s.pairing).1,
        { s with pairing := (Program.run PairingAction.exec program s.pairing).2 }) :=
  Program.run_hoist DaemonState.pairing (fun s pairing => { s with pairing }) (fun _ _ => rfl) (fun _ => rfl) (fun _ _ _ => rfl)
    (fun _ _ => rfl) program s

/-- What the manager does on its own, it does in the daemon. -/
theorem run_onManager {α : Type} (codec : JsonCodec) (program : ManagerProgram α) (s : DaemonState) :
    ((Program.run (exec codec) (onManager program) s).1, (Program.run (exec codec) (onManager program) s).2.view) =
      Program.run (ManagerAction.exec codec) program s.view := by
  induction program generalizing s with
  | done value => rfl
  | act action next ih =>
    have kept : (exec codec (manager action) s).2.view = (action.exec codec s.view).2 :=
      congrArg (fun now => { (action.exec codec s.view).2 with now }) (action.exec_now s.view).symm
    show _ = Program.run _ (next (action.exec codec s.view).1) (action.exec codec s.view).2
    rw [← kept]
    exact ih _ _

/-- The end of `send_packet`: a link on which a write fails is torn down, by its generation. -/
def deliver (deviceId : DeviceId) (link : Link) (bytes : Bytes) : DaemonProgram (Except Error Unit) := do
  let outcome ← perform (writeFramed deviceId link.id bytes)
  match outcome.writeFramed deviceId with
  | .ok () => return .ok ()
  | .error e =>
    let _ ← onManager (ConnectionManager.disconnect deviceId link.generation)
    return .error e

/-- The capability gate of `send_packet`. -/
def checkCapability (deviceId : DeviceId) (packet : Packet) : ExceptT Error DaemonProgram Unit := do
  if !packet.isIdentity && !packet.isPair then
    if let some incoming ← perform (peerCapabilities deviceId) then
      if !incoming.contains packet.packetType then
        throw (.capabilityNotSupported deviceId packet.packetType)

/-- `send_packet`: the link is looked up before the packet is checked and written. -/
def sendPacket (deviceId : DeviceId) (packet : Packet) : ExceptT Error DaemonProgram Unit := do
  perform (sendStart deviceId packet)
  match ← perform (lookupLink deviceId packet) with
  | none => throw (.connectionError s!"No connection for device: {deviceId}")
  | some link =>
    checkCapability deviceId packet
    let bytes ← PacketSerializer.serialize print packet
    ExceptT.mk (deliver deviceId link bytes)

/-- `get_peer_certificate`. -/
def getPeerCertificate (deviceId : DeviceId) : DaemonProgram (Option Bytes) := do
  return (← perform (manager (.getConnection deviceId))).bind Link.peerCert

/-- `is_connected`. -/
def isConnected (deviceId : DeviceId) : DaemonProgram Bool := do
  return (← perform (manager (.getConnection deviceId))).isSome

/-- How a task gives a link up while its generation still owns it. -/
def tearDown (deviceId : DeviceId) (generation : UInt64) : DaemonProgram Unit := do
  if ← onManager (ConnectionManager.disconnect deviceId generation) then
    perform (tryTransition deviceId .disconnected)
    perform (notifyDisconnected deviceId)

/-- The calls of the packet loop to the rest of the daemon. -/
def translate : (action : LoopAction) → DaemonProgram action.Answer
  | .pairing action => perform (pairing action)
  | .getPeerCertificate d => getPeerCertificate d
  | .registryGet d => (Option.map Device.toDeviceRecord) <$> perform (registryGet d)
  | .generatePacketId => perform generatePacketId
  | .sendPacket d packet => (sendPacket print d packet).run
  | .disconnect d generation => Except.ok <$> onManager (ConnectionManager.disconnect d generation)
  | .tryTransitionDisconnected d => perform (tryTransition d .disconnected)
  | .notifyDisconnected d => perform (notifyDisconnected d)
  | .spawnPluginInit d => perform (spawnPluginInit d)

def onLoop {α : Type} (program : LoopProgram α) : DaemonProgram α := program.hoist (translate print)

@[simp] theorem onLoop_bind {α β : Type} (program : LoopProgram α) (f : α → LoopProgram β) :
    onLoop print (program >>= f) = onLoop print program >>= fun value => onLoop print (f value) :=
  Program.hoist_bind _ program f

@[simp] theorem onLoop_pure {α : Type} (value : α) : onLoop print (pure value) = pure value := rfl

@[simp] theorem onLoop_onPairing {α : Type} (program : PairingProgram α) :
    onLoop print (PacketLoop.onPairing program) = onPairing program := by
  induction program with
  | done value => rfl
  | act action next ih => exact congrArg (Program.act (pairing action)) (funext ih)

theorem onLoop_perform (action : LoopAction) : onLoop print (PacketLoop.perform action) = translate print action :=
  bind_pure (translate print action)

section Exchange

variable (codec : JsonCodec) (platform : Platform) (our : Identity)

/-- What `identity_exchange` checks of the packet it has read. -/
def checkEncrypted (plaintextIdentity : Identity) (deviceId : DeviceId) (received : Packet) : Except Error Unit := do
  if !received.isIdentity then
    throw (.invalidPacket s!"Expected encrypted identity packet, got {received.packetType}")
  let encIdentity ← (Identity.fromPacket codec platform received).mapError fun e =>
    Error.invalidPacket s!"Malformed encrypted identity: {e.display}"
  if encIdentity.deviceId ≠ deviceId then
    throw (.invalidPacket
      s!"Encrypted identity deviceId '{encIdentity.deviceId}' does not match plaintext identity '{deviceId}'")
  if encIdentity.protocolVersion ≠ plaintextIdentity.protocolVersion then
    throw (.invalidPacket
      s!"Encrypted identity protocolVersion {encIdentity.protocolVersion} differs from plaintext {plaintextIdentity.protocolVersion} (mid-handshake change rejected)")

/-- `identity_exchange`. -/
def identityExchange (plaintextIdentity : Identity) (deviceId : DeviceId) (generation : UInt64) :
    ExceptT Error DaemonProgram Unit := do
  let received ← (ExceptT.mk (onManager (ConnectionManager.recvPacketCurrent deviceId generation).run)).adapt fun e =>
    Error.connectionError s!"Failed to read encrypted identity: {e.display}"
  checkEncrypted codec platform plaintextIdentity deviceId received
  let id ← perform generatePacketId
  (sendPacket print deviceId (our.toTcpPacket id)).adapt fun e =>
    Error.connectionError s!"Failed to send encrypted identity: {e.display}"

/-- The exchange as `handle_connection` runs it, with a timeout that strikes after so many steps. -/
def runExchange (patience : Nat) (plaintextIdentity : Identity) (deviceId : DeviceId) (generation : UInt64) :
    DaemonProgram Bool := do
  match ← (identityExchange print codec platform our plaintextIdentity deviceId generation).run.cutOff timeoutElapsed patience with
  | some (.ok ()) => return true
  | _ =>
    tearDown deviceId generation
    return false

end Exchange

section Footprint

open Program

variable {print} {P : DaemonAction → Prop} {α : Type}

theorem only_onManager_of {M : ManagerAction → Prop} {Q : α → Prop} (inner : ∀ action, M action → P (manager action))
    {program : ManagerProgram α} (only : program.Only M Q) : (onManager program).Only P Q :=
  only.hoist fun action within => ⟨inner action within, fun _ => trivial⟩

theorem only_onManager (inner : ∀ action, P (manager action)) (program : ManagerProgram α) :
    (onManager program).Only P fun _ => True :=
  only_onManager_of (fun action _ => inner action) (only_trivial program)

theorem only_onPairing (inner : ∀ action, P (pairing action)) (program : PairingProgram α) :
    (onPairing program).Only P fun _ => True :=
  (only_trivial program).hoist fun action _ => ⟨inner action, fun _ => trivial⟩

theorem only_checkCapability {d : DeviceId} (capabilities : P (peerCapabilities d)) (packet : Packet) :
    Only (checkCapability d packet).run P fun _ => True := by
  unfold checkCapability
  split
  · refine Only.except_bind ⟨capabilities, fun _ => trivial⟩ fun known => ?_
    cases known with
    | none => trivial
    | some incoming =>
      dsimp only
      split <;> trivial
  · trivial

theorem only_sendPacket {d : DeviceId} {packet : Packet} (start : P (sendStart d packet)) (look : P (lookupLink d packet))
    (capabilities : P (peerCapabilities d)) (write : ∀ link bytes, P (writeFramed d link bytes))
    (inner : ∀ action, action.Serves → P (manager action)) : Only (sendPacket print d packet).run P fun _ => True := by
  have deliver (link : Link) (bytes : Bytes) : (deliver d link bytes).Only P fun _ => True := by
    refine (only_bind _ _ _).mpr ⟨write _ _, fun outcome => (only_pure _ _).mpr ?_⟩
    cases outcome.writeFramed d with
    | ok => trivial
    | error e =>
      exact (only_bind _ _ _).mpr ((only_onManager_of inner (ConnectionManager.disconnect_serves _ _)).followedBy fun _ => trivial)
  refine ⟨start, fun _ => ⟨look, fun found => ?_⟩⟩
  cases found with
  | none => trivial
  | some link => exact (only_checkCapability capabilities packet).except_bind fun _ => deliver link _

theorem only_tearDown {d : DeviceId} (inner : ∀ action, action.Serves → P (manager action))
    (transition : P (tryTransition d .disconnected)) (notify : P (notifyDisconnected d)) (generation : UInt64) :
    (tearDown d generation).Only P fun _ => True := by
  refine (only_bind _ _ _).mpr ((only_onManager_of inner (ConnectionManager.disconnect_serves _ _)).followedBy fun owned => ?_)
  cases owned with
  | false => trivial
  | true => exact ⟨transition, fun _ => ⟨notify, fun _ => trivial⟩⟩

theorem only_identityExchange (codec : JsonCodec) (platform : Platform) {our : Identity} {d : DeviceId}
    (inner : ∀ action, action.Serves → P (manager action)) (number : P generatePacketId)
    (sends : ∀ id, Only (sendPacket print d (our.toTcpPacket id)).run P fun _ => True) (plaintextIdentity : Identity)
    (generation : UInt64) :
    Only (identityExchange print codec platform our plaintextIdentity d generation).run P fun _ => True := by
  have receive : Only (onManager (ConnectionManager.recvPacketCurrent d generation).run) P fun _ => True :=
    only_onManager_of inner (ConnectionManager.recvPacketCurrent_serves _ _)
  refine Only.except_bind receive.adapt fun received => ?_
  refine Only.except_bind ((only_except_ofExcept _ _).mpr trivial) fun _ => ?_
  exact ⟨number, fun id => (sends id).adapt⟩

theorem only_runExchange (codec : JsonCodec) (platform : Platform) {our : Identity} {d : DeviceId}
    (inner : ∀ action, action.Serves → P (manager action)) (number : P generatePacketId)
    (sends : ∀ id, Only (sendPacket print d (our.toTcpPacket id)).run P fun _ => True) (alarm : P timeoutElapsed)
    (transition : P (tryTransition d .disconnected)) (notify : P (notifyDisconnected d)) (patience : Nat)
    (plaintextIdentity : Identity) (generation : UInt64) :
    (runExchange print codec platform our patience plaintextIdentity d generation).Only P fun _ => True := by
  have exchange := only_identityExchange codec platform inner number sends plaintextIdentity generation
  have tearDown := only_tearDown inner transition notify generation
  refine (only_bind _ _ _).mpr ((exchange.cutOff alarm patience).followedBy fun result => ?_)
  rcases result with _ | _ | _
  · exact (only_bind _ _ _).mpr (tearDown.followedBy fun _ => trivial)
  · exact (only_bind _ _ _).mpr (tearDown.followedBy fun _ => trivial)
  · trivial

end Footprint

end Daemon

end RustConnect
