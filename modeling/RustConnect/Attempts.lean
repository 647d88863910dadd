import RustConnect.ConnectionManager

namespace RustConnect

inductive IpAddr
  | v4 (a b c d : UInt8)
  | v6 (octets : Vector UInt8 16)
  deriving DecidableEq, Repr

/-- `is_private_address`. -/
def isPrivateAddress : IpAddr → Bool
  | .v4 a b _ _ =>
    a == 127 || a == 10 || (a == 172 && (b &&& 0xF0) == 16) || (a == 192 && b == 168) || (a == 169 && b == 254) ||
      (a == 100 && (b &&& 0xC0) == 0x40)
  | .v6 octets =>
    octets.toList == List.replicate 15 0 ++ [1] || (octets[0] == 0xFE && (octets[1] &&& 0xC0) == 0x80) ||
      (octets[0] &&& 0xFE) == 0xFC

/-- A socket address, with the texts it is printed as, without and with the port. -/
structure PeerAddress where
  ip : IpAddr
  ipText : String
  text : String

/-- How a TLS handshake goes as far as the library and the peer decide it. -/
inductive Handshake
  | completes
  | fails (message : String)
  | timesOut

/-- Everything about an incoming connection that the daemon does not decide:
what arrives before TLS, how the handshake goes and with which certificate,
and what arrives inside TLS. -/
structure InboundPeer where
  address : Option PeerAddress
  plaintext : List Arrival
  tlsSetup : Except Error Unit
  handshake : Handshake
  certificate : Option Bytes
  stream : List Arrival

inductive TcpConnect
  | connected
  | failed (message : String)
  | timedOut

/-- Everything about a dialled connection that `connect_to_device` does not
decide. A handshake of `none` outlasts the timeout around it. -/
structure OutboundPeer where
  address : PeerAddress
  expectedIdentity : Option Identity
  connect : TcpConnect
  ownIdentity : Except Error Unit
  plaintextWrite : Except String Unit
  plaintextFlush : Except String Unit
  ownCertificate : Except Error Unit
  tlsSetup : Except Error Unit
  handshake : Option Handshake
  certificate : Option Bytes
  encryptedWrite : Except String Unit
  encryptedFlush : Except String Unit
  stream : List Arrival

namespace ConnectionManager

open ManagerAction CertificateManager

variable (codec : JsonCodec) (platform : Platform)

/-- `extract_cn_from_der`. -/
def extractCnFromDer (certDer : Bytes) : Except Error String :=
  match platform.commonName certDer with
  | .error message => .error (.certificateError message)
  | .ok none => .error (.certificateError "Certificate has no Common Name (CN)")
  | .ok (some name) => .ok name

/-- The identity line, read through a temporary buffered reader: its answer
after the timeout around it, and the reader. -/
def readIdentityLine (timeout failure : String) (stream : List Arrival) : Except Error Bytes × BufReader :=
  let read := readLineBounded (.new stream) [] maxPacketSize
  (match read.answer with
    | .error .elapsed => .error (.connectionTimeout timeout)
    | .error (.failed (.packetTooLarge size max)) => .error (.packetTooLarge size max)
    | .error (.failed other) => .error (.connectionError s!"{failure}: {other.display}")
    | .ok 0 => .error (.connectionError "Connection closed before sending identity")
    | .ok _ => .ok read.buf, read.reader)

/-- From the line to the identity, as both roles check it. -/
def parseIdentity (line : Bytes) : Except Error Identity := do
  let packet ← PacketSerializer.deserialize codec line
  if !packet.isIdentity then
    throw (.invalidPacket s!"Expected identity packet, got {packet.packetType}")
  let identity ← Identity.fromPacket codec platform packet
  validateDeviceId platform identity.deviceId
  return identity

def hasFingerprint (deviceId : DeviceId) : ManagerProgram Bool := onFiles (hasPeerFingerprint platform deviceId)

/-- The certificate checks that both roles make before they register a link. -/
def checkCertificate (deviceId : DeviceId) : Option Bytes → ExceptT Error ManagerProgram Unit
  | some certDer => do
    let cn ← extractCnFromDer platform certDer
    if cn ≠ deviceId then
      throw (.certificateError s!"Certificate CN '{cn}' does not match device ID '{deviceId}' from identity packet")
    onFilesExcept (verifyPeerCertificate platform deviceId certDer)
  | none => do
    if ← hasFingerprint platform deviceId then
      throw (.certificateError s!"Expected peer certificate for device {deviceId} but none presented")

/-- `TofuServerCertVerifier::verify_server_cert`, whose refusal fails the handshake. -/
def verifyServerCert (deviceId : DeviceId) (certDer : Bytes) : ExceptT Error ManagerProgram Unit := do
  if ← hasFingerprint platform deviceId then
    onFilesExcept (verifyPeerFingerprint platform deviceId certDer)

/-- `tls_connect`: the client role, which verifies the server's certificate during the handshake. -/
def tlsConnect (deviceId : DeviceId) (peer : InboundPeer) : ExceptT Error ManagerProgram (Option Bytes) := do
  peer.tlsSetup
  match peer.handshake with
  | .timesOut => throw (.connectionTimeout s!"TLS handshake timed out for {deviceId}")
  | .fails message => throw (.tlsError s!"TLS handshake failed for {deviceId}: {message}")
  | .completes =>
    if let some certDer := peer.certificate then
      (verifyServerCert platform deviceId certDer).adapt fun e =>
        .tlsError s!"TLS handshake failed for {deviceId}: {e.display}"
    return peer.certificate

/-- `tls_accept` while the peer's device id is not known yet: the server role,
which asks for a certificate and takes any or none. -/
def tlsAccept (peer : OutboundPeer) : Except Error (Option Bytes) := do
  peer.tlsSetup
  match peer.handshake with
  | none => throw (.connectionError s!"TLS server handshake timed out connecting to {peer.address.text}")
  | some .timesOut => throw (.connectionTimeout "TLS accept timed out for None")
  | some (.fails message) => throw (.tlsError s!"TLS accept failed for None: {message}")
  | some .completes => return peer.certificate

/-- A connection from outside the local networks is discarded. -/
def checkAddress : Option PeerAddress → Except Error Unit
  | none => .ok ()
  | some address =>
    if isPrivateAddress address.ip then .ok ()
    else .error (.connectionError s!"Discarding connection from a non-local IP: {address.ipText}")

/-- What of an incoming identity is checked before TLS: that it is not our
own and that it is meant for us. -/
def checkTarget (ourId : DeviceId) (identity : Identity) : Except Error Unit := do
  if identity.deviceId = ourId then
    throw (.connectionError s!"Rejecting incoming connection from self (device_id {identity.deviceId})")
  if let some target := identity.targetDeviceId then
    if !deviceIdMatchesKdeNormalized target ourId then
      throw (.connectionError s!"Received a connection request for a device that isn't us: {target}")
  if let some version := identity.targetProtocolVersion then
    if version ≠ protocolVersion then
      throw (.connectionError s!"Received a connection request for a protocol version that isn't ours: {version}")

/-- `accept_incoming` up to the point where the peer has passed every check. -/
def checkIncoming (peer : InboundPeer) : ExceptT Error ManagerProgram (Option Bytes × Identity) := do
  checkAddress peer.address
  let line ← (readIdentityLine "Timed out reading plaintext identity" "Failed to read plaintext identity"
    peer.plaintext).1
  let identity ← parseIdentity codec platform line
  let ourId ← perform ownDeviceId
  checkTarget ourId identity
  let peerCert ← tlsConnect platform identity.deviceId peer
  checkCertificate platform identity.deviceId peerCert
  return (peerCert, identity)

/-- The rest of `accept_incoming`. -/
def registerInbound (identity : Identity) (peerCert : Option Bytes) (stream : BufReader) :
    ExceptT Error ManagerProgram UInt64 := do
  recordPeerCapabilities identity.deviceId identity.incomingCapabilities identity.outgoingCapabilities
  let (generation, evicted) ← ExceptT.mk (perform (registerIncoming identity.deviceId peerCert stream))
  if let some old := evicted then
    stopReplaced identity.deviceId old
  return generation

/-- `accept_incoming`. -/
def acceptIncoming (peer : InboundPeer) : ExceptT Error ManagerProgram (DeviceId × Identity × UInt64) := do
  let (peerCert, identity) ← checkIncoming codec platform peer
  let generation ← registerInbound identity peerCert (.new peer.stream)
  return (identity.deviceId, identity, generation)

/-- What of the encrypted identity is compared with the one that was dialled. -/
def checkExpected (identity : Identity) : Option Identity → Except Error Unit
  | none => .ok ()
  | some expected =>
    if identity.deviceId ≠ expected.deviceId then
      .error (.invalidPacket
        s!"Encrypted identity deviceId '{identity.deviceId}' does not match pre-TLS identity '{expected.deviceId}'")
    else if identity.protocolVersion ≠ expected.protocolVersion then
      .error (.invalidPacket
        s!"Encrypted identity protocolVersion {identity.protocolVersion} differs from pre-TLS {expected.protocolVersion} (mid-handshake change rejected)")
    else
      .ok ()

/-- The part of an outbound connection before TLS: a dial or a write that
fails asks the peer to dial us instead. -/
def dial (peer : OutboundPeer) : ExceptT Error ManagerProgram Unit := do
  if !(← perform (admitAttempt peer.address.ipText)) then
    throw (.connectionError s!"Rate limited: too soon since last connection attempt to {peer.address.ipText}")
  match peer.connect with
  | .connected => pure ()
  | .failed message =>
    perform (sendReverseFallback peer.address.ipText)
    throw (.connectionError s!"Failed to connect to {peer.address.text}: {message}")
  | .timedOut =>
    perform (sendReverseFallback peer.address.ipText)
    throw (.connectionTimeout s!"TCP connect to {peer.address.text} timed out")
  peer.ownIdentity
  if let .error message := peer.plaintextWrite then
    perform (sendReverseFallback peer.address.ipText)
    throw (.connectionError s!"Failed to send plaintext identity: {message}")
  if let .error message := peer.plaintextFlush then
    perform (sendReverseFallback peer.address.ipText)
    throw (.connectionError s!"Failed to flush plaintext identity: {message}")

/-- The encrypted exchange of an outbound connection: the certificate that was
presented, the identity that was read, and the temporary reader it was read through. -/
def exchange (peer : OutboundPeer) : Except Error (Option Bytes × Identity × BufReader) := do
  peer.ownCertificate
  let peerCert ← tlsAccept peer
  peer.ownIdentity
  if let .error message := peer.encryptedWrite then
    throw (.connectionError s!"Failed to send encrypted identity: {message}")
  if let .error message := peer.encryptedFlush then
    throw (.connectionError s!"Failed to flush encrypted identity: {message}")
  let (read, reader) := readIdentityLine s!"Timed out reading identity from {peer.address.text}"
    "Failed to read encrypted identity" peer.stream
  let identity ← parseIdentity codec platform (← read)
  checkExpected identity peer.expectedIdentity
  return (peerCert, identity, reader)

/-- `connect_to_device` up to the point where the peer has passed every check. -/
def checkOutgoing (peer : OutboundPeer) : ExceptT Error ManagerProgram (Option Bytes × Identity × BufReader) := do
  dial peer
  let (peerCert, identity, reader) ← exchange codec platform peer
  checkCertificate platform identity.deviceId peerCert
  return (peerCert, identity, reader)

/-- The rest of `connect_to_device`. -/
def registerOutbound (identity : Identity) (peerCert : Option Bytes) (stream : BufReader) : ManagerProgram UInt64 := do
  recordPeerCapabilities identity.deviceId identity.incomingCapabilities identity.outgoingCapabilities
  let generation ← perform (bumpGeneration identity.deviceId)
  if let some old ← perform (getConnection identity.deviceId) then
    stopReplaced identity.deviceId old
  perform (insertConnection identity.deviceId generation peerCert stream)
  cleanupStaleGenerations
  return generation

/-- `connect_to_device`: the link is registered over the inner stream of the
reader that the identity was read through. -/
def connectToDevice (peer : OutboundPeer) : ExceptT Error ManagerProgram (DeviceId × Identity × UInt64) := do
  let (peerCert, identity, reader) ← checkOutgoing codec platform peer
  let generation ← registerOutbound identity peerCert (.new reader.intoInner)
  return (identity.deviceId, identity, generation)

variable {codec platform}

/-- A line that is read whole is the line of the identity. -/
theorem readIdentityLine_whole {stream : List Arrival} {line : Bytes}
    (answered : (readLineBounded (.new stream) [] maxPacketSize).answer.toOption.any (0 < ·) = true)
    (whole : (readLineBounded (.new stream) [] maxPacketSize).buf = line) (timeout failure : String) :
    (readIdentityLine timeout failure stream).1 = .ok line := by
  unfold readIdentityLine
  dsimp only
  rw [whole]
  split
  · rename_i failed
    simp [failed, Except.toOption] at answered
  · rename_i failed
    simp [failed, Except.toOption] at answered
  · rename_i failed
    simp [failed, Except.toOption] at answered
  · rename_i failed
    simp [failed, Except.toOption] at answered
  · rfl

/-- What comes of the exchange with a peer that answers in every step. -/
theorem exchange_eq {peer : OutboundPeer} {certificate : Option Bytes} {line : Bytes} {identity : Identity}
    (own : peer.ownCertificate = .ok ()) (accepted : tlsAccept peer = .ok certificate) (introduced : peer.ownIdentity = .ok ())
    (written : peer.encryptedWrite = .ok ()) (flushed : peer.encryptedFlush = .ok ())
    (read : ∀ timeout failure, (readIdentityLine timeout failure peer.stream).1 = .ok line)
    (parsed : parseIdentity codec platform line = .ok identity) (agrees : checkExpected identity peer.expectedIdentity = .ok ()) :
    exchange codec platform peer = .ok (certificate, identity, (readLineBounded (.new peer.stream) [] maxPacketSize).reader) := by
  unfold exchange
  rw [own, introduced, written, flushed]
  refine Program.except_bind_ok.mpr ⟨(), rfl, Program.except_bind_ok.mpr ⟨certificate, accepted, ?_⟩⟩
  refine Program.except_bind_ok.mpr ⟨(), rfl, Program.except_bind_ok.mpr ⟨line, read _ _, ?_⟩⟩
  exact Program.except_bind_ok.mpr ⟨identity, parsed, Program.except_bind_ok.mpr ⟨(), agrees, rfl⟩⟩

end ConnectionManager

end RustConnect
