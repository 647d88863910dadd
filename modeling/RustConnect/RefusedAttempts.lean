import RustConnect.PinEnforcement
import RustConnect.PacketRoundTrip

namespace RustConnect

open Program ManagerAction ConnectionManager

variable (codec : JsonCodec) (platform : Platform)

/-- An identity whose capabilities `record_peer_capabilities` takes leaves the record as it is. -/
def SameCapabilities (s : ManagerState) (identity : Identity) : Prop :=
  identity.incomingCapabilities = [] ∨ identity.outgoingCapabilities = [] ∨
    s.peerCapabilities.lookup identity.deviceId = some identity.incomingCapabilities

/-- The attempt fails a check, or its identity brings no capabilities that are not recorded already. -/
def BringsNothing (peer : InboundPeer) (s : ManagerState) : Prop :=
  ∀ peerCert identity, (run (exec codec) (checkIncoming codec platform peer).run s).1 = .ok (peerCert, identity) →
    SameCapabilities s identity

variable {codec platform}

theorem run_recordPeerCapabilities (d : DeviceId) (incoming outgoing : List String) (s : ManagerState) :
    run (exec codec) (recordPeerCapabilities d incoming outgoing) s = ((), { s with
      peerCapabilities := if incoming = [] ∨ outgoing = [] then s.peerCapabilities else s.peerCapabilities.insert d incoming }) := by
  unfold recordPeerCapabilities
  by_cases empty : incoming = [] ∨ outgoing = []
  · simp [empty]
  · simp [empty, exec]

theorem registerIncoming_refused {d : DeviceId} {peerCert : Option Bytes} {stream : BufReader} {s t : ManagerState} {e : Error}
    (refused : s.registerIncoming d peerCert stream = (.error e, t)) : t = s := by
  unfold ManagerState.registerIncoming at refused
  dsimp only at refused
  split at refused
  · cases refused
    rfl
  · cases refused

/-- A link is refused for its certificate with only the capabilities changed. -/
theorem registerInbound_refused {identity : Identity} {peerCert : Option Bytes} {stream : BufReader} {s : ManagerState}
    {e : Error} (refused : (run (exec codec) (registerInbound identity peerCert stream).run s).1 = .error e) :
    (run (exec codec) (registerInbound identity peerCert stream).run s).2 =
      (run (exec codec) (recordPeerCapabilities identity.deviceId identity.incomingCapabilities
        identity.outgoingCapabilities) s).2 := by
  unfold registerInbound at refused ⊢
  rw [run_except_bind, run_except_lift] at refused ⊢
  dsimp only at refused ⊢
  generalize (run (exec codec) (recordPeerCapabilities identity.deviceId identity.incomingCapabilities
    identity.outgoingCapabilities) s).2 = recorded at refused ⊢
  rw [run_except_bind] at refused ⊢
  simp only [ExceptT.run_mk, perform, run_call, exec] at refused ⊢
  rcases registered : recorded.registerIncoming identity.deviceId peerCert stream with ⟨e' | ⟨generation, _ | old⟩, t⟩
  · exact registerIncoming_refused registered
  · rw [registered] at refused
    cases refused
  · rw [registered] at refused
    simp [Except.map] at refused

/-- What a refused attempt leaves behind: the state it found, or that state
with the capabilities of the identity that has passed every check. -/
theorem acceptIncoming_refused {peer : InboundPeer} {s : ManagerState} {e : Error}
    (refused : (run (exec codec) (acceptIncoming codec platform peer).run s).1 = .error e) :
    (∃ e', (run (exec codec) (checkIncoming codec platform peer).run s).1 = .error e') ∧
        (run (exec codec) (acceptIncoming codec platform peer).run s).2 = s ∨
      ∃ peerCert identity, (run (exec codec) (checkIncoming codec platform peer).run s).1 = .ok (peerCert, identity) ∧
        (run (exec codec) (acceptIncoming codec platform peer).run s).2 = { s with
          peerCapabilities :=
            if identity.incomingCapabilities = [] ∨ identity.outgoingCapabilities = [] then s.peerCapabilities
            else s.peerCapabilities.insert identity.deviceId identity.incomingCapabilities } := by
  obtain ⟨result, ran, -⟩ := checkIncoming_checks codec platform peer s
  unfold acceptIncoming at refused ⊢
  rw [run_except_bind, ran] at refused ⊢
  rcases result with e' | ⟨peerCert, identity⟩
  · exact .inl ⟨⟨e', rfl⟩, rfl⟩
  · refine .inr ⟨peerCert, identity, rfl, ?_⟩
    dsimp only at refused ⊢
    rw [run_except_bind] at refused ⊢
    rcases registered : run (exec codec) (registerInbound identity peerCert (.new peer.stream)).run s with ⟨e' | generation, t⟩
    · have same := registerInbound_refused (congrArg Prod.fst registered)
      rw [registered, run_recordPeerCapabilities] at same
      exact same
    · rw [registered] at refused
      cases refused

/-- A refused attempt leaves the links, the generations and the tokens as they
were; it leaves the capabilities, and with them what `send_packet` lets
through, as they were exactly when it fails a check or brings none that are new. -/
theorem refusal_changes_nothing_iff {peer : InboundPeer} {s : ManagerState} {e : Error}
    (refused : (run (exec codec) (acceptIncoming codec platform peer).run s).1 = .error e) :
    ((run (exec codec) (acceptIncoming codec platform peer).run s).2.connections = s.connections ∧
      (run (exec codec) (acceptIncoming codec platform peer).run s).2.generations = s.generations ∧
      (run (exec codec) (acceptIncoming codec platform peer).run s).2.cancelTokens = s.cancelTokens) ∧
    ((∀ d, (run (exec codec) (acceptIncoming codec platform peer).run s).2.peerCapabilities.lookup d =
        s.peerCapabilities.lookup d) ↔ BringsNothing codec platform peer s) ∧
    (BringsNothing codec platform peer s → ∀ d packet,
      admitsType (run (exec codec) (acceptIncoming codec platform peer).run s).2 d packet = admitsType s d packet) := by
  have gate {t : ManagerState} (same : ∀ d, t.peerCapabilities.lookup d = s.peerCapabilities.lookup d) (d : DeviceId)
      (packet : Packet) : admitsType t d packet = admitsType s d packet := by
    unfold admitsType
    rw [same]
  rcases acceptIncoming_refused refused with ⟨⟨e', failed⟩, same⟩ | ⟨peerCert, identity, passed, same⟩
  · have nothing : BringsNothing codec platform peer s := fun peerCert identity passed => by
      rw [failed] at passed
      cases passed
    rw [same]
    exact ⟨⟨rfl, rfl, rfl⟩, ⟨fun _ => nothing, fun _ _ => rfl⟩, fun _ _ _ => rfl⟩
  · have recorded : BringsNothing codec platform peer s ↔ SameCapabilities s identity := by
      refine ⟨fun nothing => nothing peerCert identity passed, fun kept _ _ again => ?_⟩
      rw [passed] at again
      cases again
      exact kept
    have kept : (∀ d, (run (exec codec) (acceptIncoming codec platform peer).run s).2.peerCapabilities.lookup d =
        s.peerCapabilities.lookup d) ↔ BringsNothing codec platform peer s := by
      rw [recorded, same]
      unfold SameCapabilities
      by_cases empty : identity.incomingCapabilities = [] ∨ identity.outgoingCapabilities = []
      · simp only [if_pos empty, implies_true, true_iff]
        exact empty.imp_right .inl
      · simp only [if_neg empty, Table.lookup_insert_of]
        push Not at empty
        refine ⟨fun same => .inr (.inr ?_), ?_⟩
        · have here := same identity.deviceId
          rw [if_pos rfl] at here
          exact here.symm
        · rintro (none | none | found) d
          · exact absurd none empty.1
          · exact absurd none empty.2
          · split
            · rename_i here
              rw [here, found]
            · rfl
    refine ⟨?_, kept, fun nothing => gate (kept.mpr nothing)⟩
    rw [same]
    exact ⟨rfl, rfl, rfl⟩

/-- Once the identity is read, what is left is to check whom it is for and the certificate, and to register. -/
theorem acceptIncoming_eq {peer : InboundPeer} {line : Bytes} {identity : Identity}
    (near : checkAddress peer.address = .ok ())
    (read : (readIdentityLine "Timed out reading plaintext identity" "Failed to read plaintext identity"
      peer.plaintext).1 = .ok line)
    (parsed : parseIdentity codec platform line = .ok identity) :
    acceptIncoming codec platform peer = (do
      let ourId ← perform ownDeviceId
      checkTarget ourId identity
      let peerCert ← tlsConnect platform identity.deviceId peer
      checkCertificate platform identity.deviceId peerCert
      let generation ← registerInbound identity peerCert (.new peer.stream)
      return (identity.deviceId, identity, generation)) := by
  unfold acceptIncoming checkIncoming
  simp only [near, read, parsed, ok_bind, LawfulMonad.bind_assoc, LawfulMonad.pure_bind]

namespace RefusedAttempts

def phoneId : DeviceId := "a1b2c3d4a1b2c3d4a1b2c3d4a1b2c3d4"

def identityText : String :=
  "\x7b" ++ ("\"id\":1,\"type\":\"kdeconnect.identity\",\"body\":\x7b\"deviceId\":\"a1b2c3d4a1b2c3d4a1b2c3d4a1b2c3d4\"," ++
    "\"deviceName\":\"Phone\",\"deviceType\":\"phone\",\"protocolVersion\":8," ++
    "\"incomingCapabilities\":[\"kdeconnect.battery\"],\"outgoingCapabilities\":[\"kdeconnect.ping\"]\x7d") ++ "\x7d"

def phoneValue : Json :=
  .obj [("id", .num (.posInt 1)), ("type", .str "kdeconnect.identity"),
    ("body", .obj [("deviceId", .str phoneId), ("deviceName", .str "Phone"), ("deviceType", .str "phone"),
      ("protocolVersion", .num (.posInt 8)), ("incomingCapabilities", .arr [.str "kdeconnect.battery"]),
      ("outgoingCapabilities", .arr [.str "kdeconnect.ping"])])]

def phoneCodec : JsonCodec := PacketSerializer.sampleCodec identityText phoneValue

/-- Both certificates are made out to the phone's id. -/
def phonePlatform : Platform where
  sha256 _ := []
  commonName _ := .ok (some phoneId)
  alphanumericBeyondAscii _ := false

/-- A peer at the address sends the phone's identity and presents a certificate of its own. -/
def impostor (address : PeerAddress) : InboundPeer where
  address := some address
  plaintext := [.data ⟨toUtf8 identityText ++ [newline], by simp⟩]
  tlsSetup := .ok ()
  handshake := .completes
  certificate := some [0x30, 0x01, 0x00]
  stream := []

/-- The phone is connected with another certificate and takes pings. -/
def connectedPhone : ManagerState where
  connections := AList.insert phoneId ⟨0, 1, some [0x30, 0x00]⟩ ∅
  generations := AList.insert phoneId 1 ∅
  peerCapabilities := AList.insert phoneId ["kdeconnect.ping"] ∅
  nextLink := 1

theorem distant_impostor_changes_nothing :
    (fun d => (run (exec phoneCodec) (acceptIncoming phoneCodec phonePlatform
        (impostor ⟨.v4 8 8 8 8, "8.8.8.8", "8.8.8.8:1716"⟩)).run connectedPhone).2.peerCapabilities.lookup d) =
      fun d => connectedPhone.peerCapabilities.lookup d := by
  have refused : (run (exec phoneCodec) (acceptIncoming phoneCodec phonePlatform
      (impostor ⟨.v4 8 8 8 8, "8.8.8.8", "8.8.8.8:1716"⟩)).run connectedPhone).1 =
    .error (.connectionError "Discarding connection from a non-local IP: 8.8.8.8") := by decide +kernel
  have failed : (run (exec phoneCodec) (checkIncoming phoneCodec phonePlatform
      (impostor ⟨.v4 8 8 8 8, "8.8.8.8", "8.8.8.8:1716"⟩)).run connectedPhone).1 =
    .error (.connectionError "Discarding connection from a non-local IP: 8.8.8.8") := by decide +kernel
  refine funext ((refusal_changes_nothing_iff refused).2.1.mpr fun peerCert identity passed => ?_)
  rw [failed] at passed
  cases passed

def phoneIdentity : Identity := ⟨phoneId, "Phone", "phone", 8, ["kdeconnect.battery"], ["kdeconnect.ping"], none, none, none⟩

def phonePacket : Packet :=
  .new 1 "kdeconnect.identity" (.obj [("deviceId", .str phoneId), ("deviceName", .str "Phone"), ("deviceType", .str "phone"),
    ("protocolVersion", .num (.posInt 8)), ("incomingCapabilities", .arr [.str "kdeconnect.battery"]),
    ("outgoingCapabilities", .arr [.str "kdeconnect.ping"])])

theorem phone_parsed : parseIdentity phoneCodec phonePlatform (toUtf8 identityText ++ [newline]) = .ok phoneIdentity := by
  have read : PacketSerializer.deserialize phoneCodec (toUtf8 identityText ++ [newline]) = .ok phonePacket :=
    PacketSerializer.deserialize_text (by decide +kernel) (trim_braces _) (by simp [identityText])
      (PacketSerializer.sampleCodec_parse identityText phoneValue) rfl
  unfold parseIdentity
  rw [read]
  decide +kernel

theorem impostor_read (address : PeerAddress) :
    (readIdentityLine "Timed out reading plaintext identity" "Failed to read plaintext identity"
      (impostor address).plaintext).1 = .ok (toUtf8 identityText ++ [newline]) := by
  dsimp only [impostor]
  decide +kernel

example : isPrivateAddress (.v4 192 168 1 66) = true ∧ isPrivateAddress (.v4 8 8 8 8) = false := by decide +kernel

/-- From the local network the impostor is refused only for its certificate, and pings no longer reach the phone. -/
theorem impostor_changes_capabilities :
    (run (exec phoneCodec) (acceptIncoming phoneCodec phonePlatform
        (impostor ⟨.v4 192 168 1 66, "192.168.1.66", "192.168.1.66:1716"⟩)).run connectedPhone).1 =
      .error (.certificateError
        s!"Device {phoneId} already connected and presented a different certificate, rejecting replacement") ∧
    admitsType connectedPhone phoneId (.new 2 "kdeconnect.ping" (.obj [])) = true ∧
    admitsType (run (exec phoneCodec) (acceptIncoming phoneCodec phonePlatform
        (impostor ⟨.v4 192 168 1 66, "192.168.1.66", "192.168.1.66:1716"⟩)).run connectedPhone).2 phoneId
      (.new 2 "kdeconnect.ping" (.obj [])) = false := by
  rw [acceptIncoming_eq (by decide +kernel) (impostor_read _) phone_parsed]
  refine ⟨by decide +kernel, by decide +kernel, by decide +kernel⟩

end RefusedAttempts

end RustConnect
