import RustConnect.ConnectionSetup
import RustConnect.RefusedAttempts

namespace RustConnect

open Program DaemonAction Daemon ConnectionManager

/-- The capabilities that are taken from an identity: only one that lists both kinds counts. -/
def Identity.takenCapabilities (identity : Identity) : Option (List String × List String) :=
  if identity.incomingCapabilities = [] ∨ identity.outgoingCapabilities = [] then none
  else some (identity.incomingCapabilities, identity.outgoingCapabilities)

/-- What a registry record says of the peer. -/
structure PeerRecord where
  name : String
  deviceType : DeviceType
  capabilities : List String × List String
  deriving DecidableEq

def Device.peerRecord (device : Device) : PeerRecord :=
  ⟨device.name, device.deviceType, device.incomingCapabilities, device.outgoingCapabilities⟩

/-- What is recorded of a peer, in the manager and in the registry. -/
@[ext] structure PeerData where
  peerCapabilities : Option (List String)
  record : Option PeerRecord
  deriving DecidableEq

def DaemonState.peerData (d : DeviceId) (s : DaemonState) : PeerData :=
  ⟨s.manager.peerCapabilities.lookup d, (s.registry.lookup d).map Device.peerRecord⟩

namespace PlaintextIdentity

/-- The capabilities that an identity leaves recorded. -/
def keptCapabilities (identity : Identity) : Option PeerRecord → List String × List String
  | some known => identity.takenCapabilities.getD known.capabilities
  | none => (identity.incomingCapabilities, identity.outgoingCapabilities)

def keptIncoming (identity : Identity) (known : Option (List String)) : Option (List String) :=
  (identity.takenCapabilities.map Prod.fst).or known

variable {codec : JsonCodec} {platform : Platform} {config : DaemonSettings} {d : DeviceId}

/-- What no action but those that record peer data changes. -/
def Unrecording : DaemonAction → Prop
  | manager action => action.KeepsCapabilities
  | registry _ => False
  | _ => True

theorem transition_peerRecord (now : Time) (e : DeviceId) (state : DeviceState) (devices : Devices) :
    ((DeviceRegistry.transition now e state devices).lookup d).map Device.peerRecord =
      (devices.lookup d).map Device.peerRecord := by
  unfold DeviceRegistry.transition
  cases found : devices.lookup e with
  | none => rfl
  | some device =>
    dsimp only
    split
    · rfl
    · rw [Table.lookup_insert_of]
      split
      · rename_i same
        rw [same, found]
        rfl
      · rfl

theorem exec_unrecording {action : DaemonAction} (unrecording : Unrecording action) (s : DaemonState) :
    (action.exec codec s).2.peerData d = s.peerData d := by
  cases action with
  | manager action =>
    have kept : (action.exec codec s.view).2.peerCapabilities = s.manager.peerCapabilities :=
      ManagerAction.exec_keepsCapabilities unrecording s.view
    exact congrArg (fun capabilities => PeerData.mk (AList.lookup d capabilities) _) kept
  | registry => cases unrecording
  | tryTransition e state => exact congrArg (PeerData.mk _) (transition_peerRecord s.pairing.now e state s.registry)
  | writeFramed => rfl
  | _ => rfl

variable (codec d) in
theorem run_unrecording {α : Type} {Q : α → Prop} (program : DaemonProgram α) (only : program.Only Unrecording Q) (s : DaemonState) :
    (run (exec codec) program s).2.peerData d = s.peerData d :=
  only.invariant (fun _ t within same => (exec_unrecording within t).trans same) (I := fun t => t.peerData d = s.peerData d) rfl

variable (codec) in
theorem registerInbound_records (identity : Identity) (peerCert : Option Bytes) (stream : BufReader) (s : ManagerState) :
    (run (ManagerAction.exec codec) (registerInbound identity peerCert stream).run s).2.peerCapabilities.lookup identity.deviceId =
      keptIncoming identity (s.peerCapabilities.lookup identity.deviceId) := by
  unfold registerInbound
  rw [run_except_bind, run_except_lift, run_recordPeerCapabilities]
  refine Only.invariant (P := ManagerAction.KeepsCapabilities) (Q := fun _ => True)
    (I := fun t : ManagerState => t.peerCapabilities.lookup identity.deviceId =
      keptIncoming identity (s.peerCapabilities.lookup identity.deviceId)) ?_ (fun action t keeps same => ?_) ?_
  · refine Only.except_bind ⟨trivial, fun _ => trivial⟩ fun registered => ?_
    obtain ⟨generation, evicted⟩ := registered
    cases evicted with
    | none => trivial
    | some old => exact ⟨trivial, fun _ => ⟨trivial, fun _ => ⟨trivial, fun _ => trivial⟩⟩⟩
  · rw [ManagerAction.exec_keepsCapabilities keeps]
    exact same
  · unfold keptIncoming Identity.takenCapabilities
    by_cases empty : identity.incomingCapabilities = [] ∨ identity.outgoingCapabilities = []
    · simp [empty]
    · simp [empty]

/-- After the checks, `accept_incoming` records the capabilities of the plaintext identity. -/
theorem acceptIncoming_records {peer : InboundPeer} {s t : ManagerState} {identity : Identity} {generation : UInt64}
    (accepted : run (ManagerAction.exec codec) (acceptIncoming codec platform peer).run s = (.ok (d, identity, generation), t)) :
    (Attempt.inbound peer).claimed codec platform = .ok identity ∧ d = identity.deviceId ∧
      t.peerCapabilities.lookup d = keptIncoming identity (s.peerCapabilities.lookup d) := by
  obtain ⟨result, ran, checked⟩ := checkIncoming_checks codec platform peer s
  unfold acceptIncoming at accepted
  rw [run_except_bind, ran] at accepted
  rcases result with e | ⟨peerCert, checkedIdentity⟩
  · cases accepted
  dsimp only at accepted
  rw [run_except_bind] at accepted
  rcases registered : run (ManagerAction.exec codec) (registerInbound checkedIdentity peerCert (.new peer.stream)).run s with
    ⟨e | found, u⟩
  · rw [registered] at accepted
    cases accepted
  rw [registered] at accepted
  cases accepted
  have recorded := registerInbound_records codec identity peerCert (.new peer.stream) s
  rw [registered] at recorded
  exact ⟨(checked _ rfl).2.1, rfl, recorded⟩

theorem adopt_peerRecord (device : Device) (identity : Identity) (now : Time) :
    Device.peerRecord { device.adopt identity.deviceName (.parse identity.deviceType) identity.protocolVersion
      identity.incomingCapabilities identity.outgoingCapabilities with lastSeen := now } =
      ⟨identity.deviceName, .parse identity.deviceType, identity.takenCapabilities.getD device.peerRecord.capabilities⟩ := by
  unfold Device.adopt Device.applyCapabilityUpdate Identity.takenCapabilities
  by_cases empty : identity.incomingCapabilities = [] ∨ identity.outgoingCapabilities = []
  · rcases empty with empty | empty <;> simp [empty, Device.peerRecord]
  · push Not at empty
    simp [empty, Device.peerRecord]

/-- The registry record is made of the identity that `ensure_and_transition` is given. -/
theorem ensureConnected_records (identity : Identity) (s : DaemonState) :
    (run (exec codec) (ConnectionSetup.ensureConnected d identity) s).2.peerData d =
      ⟨s.manager.peerCapabilities.lookup d, some ⟨identity.deviceName, .parse identity.deviceType,
        keptCapabilities identity (s.peerData d).record⟩⟩ := by
  have transitions := run_unrecording codec d (Daemon.perform (tryTransition d .connected)) ⟨trivial, fun _ => trivial⟩
  unfold ConnectionSetup.ensureConnected
  cases found : s.registry.lookup d with
  | some device =>
    simp only [Daemon.perform, run_bind, run_call, exec, RegistryAction.exec, found, DeviceRegistry.adoptIdentity, Option.isSome_some, ite_true]
    refine (transitions _).trans ?_
    simp [DaemonState.peerData, adopt_peerRecord, keptCapabilities, found]
  | none =>
    simp only [Daemon.perform, run_bind, run_call, exec, RegistryAction.exec, PairingAction.exec, found, DeviceRegistry.add, Option.isSome_none,
      Bool.false_eq_true, ite_false]
    refine (transitions _).trans ?_
    simp [DaemonState.peerData, Device.ofIdentity, Device.new, keptCapabilities, found, Device.peerRecord]

variable (config d) in
theorem only_exchange (patience : Nat) (identity : Identity) (generation : UInt64) :
    (runExchange config.print config.codec config.platform config.our patience identity d generation).Only Unrecording fun _ => True := by
  have sends (id : Int64) : Only (sendPacket config.print d (config.our.toTcpPacket id)).run Unrecording fun _ => True :=
    only_sendPacket trivial trivial trivial (fun _ _ => trivial) fun _ serves => serves.keepsCapabilities
  exact only_runExchange config.codec config.platform (fun _ serves => serves.keepsCapabilities) trivial sends trivial trivial trivial patience identity
    generation

theorem inbound_records {patience : Nat} {identity : Identity} {generation : UInt64} {s : DaemonState}
    (up : (run (exec config.codec) ((SetUp.inbound patience d identity generation).program config) s).1 = true) :
    (run (exec config.codec) ((SetUp.inbound patience d identity generation).program config) s).2.peerData d =
      ⟨s.manager.peerCapabilities.lookup d, some ⟨identity.deviceName, .parse identity.deviceType,
        keptCapabilities identity (s.peerData d).record⟩⟩ := by
  have exchanged := run_unrecording config.codec d _ (only_exchange config d patience identity generation) s
  have started (t : DaemonState) : (run (exec config.codec) (onManager (startLoop d generation)) t).2.peerData d = t.peerData d := by
    have only : (onManager (startLoop d generation)).Only Unrecording fun _ => True :=
      ⟨trivial, fun _ => ⟨trivial, fun _ => trivial⟩⟩
    exact run_unrecording config.codec d _ only t
  have plugins := run_unrecording config.codec d _ (ConnectionSetup.only_initPlugins (fun _ => trivial) (show Unrecording (spawnPluginInit d) from trivial))
  simp only [SetUp.program, run_bind] at up ⊢
  rcases first : run (exec config.codec) (runExchange config.print config.codec config.platform config.our patience identity d
    generation) s with ⟨_ | _, t⟩
  · rw [first] at up
    cases up
  simp only [first, ite_true, ConnectionSetup.inboundSetup, run_bind] at up exchanged ⊢
  rcases second : run (exec config.codec) (onManager (startLoop d generation)) t with ⟨_ | _, u⟩
  · rw [second] at up
    cases up
  simp only [second, ite_true, run_bind, run_pure] at up ⊢
  have current : u.peerData d = s.peerData d := by
    rw [← exchanged, ← started t, second]
  have incoming : u.manager.peerCapabilities.lookup d = s.manager.peerCapabilities.lookup d :=
    congrArg PeerData.peerCapabilities current
  rw [plugins, ensureConnected_records, current, incoming]

variable (codec) in
theorem run_onManager_registry {α : Type} (program : ManagerProgram α) (s : DaemonState) :
    (run (exec codec) (onManager program) s).2.registry = s.registry := by
  induction program generalizing s with
  | done value => rfl
  | act action next ih => exact ih _ _

/-- What an accepted connection leaves recorded is what the plaintext identity says. -/
theorem handleConnection_records {acceptPatience exchangePatience : Nat} {peer : InboundPeer} {s : DaemonState} {generation : UInt64}
    (up : (run (exec config.codec) (handleConnection config acceptPatience exchangePatience peer) s).1 = some (d, generation)) :
    ∃ identity, (Attempt.inbound peer).claimed config.codec config.platform = .ok identity ∧ d = identity.deviceId ∧
      (run (exec config.codec) (handleConnection config acceptPatience exchangePatience peer) s).2.peerData d =
        ⟨keptIncoming identity (s.peerData d).peerCapabilities, some ⟨identity.deviceName, .parse identity.deviceType,
          keptCapabilities identity (s.peerData d).record⟩⟩ := by
  have managed := run_onManager config.codec (acceptIncoming config.codec config.platform peer).run s
  unfold handleConnection at up ⊢
  rw [run_bind] at up ⊢
  rcases first : run (exec config.codec) ((onManager (acceptIncoming config.codec config.platform peer).run).cutOff timeoutElapsed
    acceptPatience) s with ⟨_ | e | ⟨e, identity, accepted⟩, t⟩
  · rw [first] at up
    cases up
  · rw [first] at up
    cases up
  have undisturbed := run_of_cutOff (congrArg Prod.fst first)
  rw [first] at undisturbed up
  rw [undisturbed] at managed
  obtain ⟨claimed, rfl, recorded⟩ := acceptIncoming_records managed.symm
  dsimp only at up ⊢
  rw [run_bind] at up ⊢
  rcases second : run (exec config.codec) ((SetUp.inbound exchangePatience identity.deviceId identity accepted).program config) t with
    ⟨_ | _, u⟩
  · rw [second] at up
    cases up
  rw [second] at up
  cases up
  have records := inbound_records (congrArg Prod.fst second)
  rw [second] at records
  refine ⟨identity, claimed, rfl, records.trans ?_⟩
  have incoming : t.manager.peerCapabilities.lookup identity.deviceId = keptIncoming identity (s.peerData identity.deviceId).peerCapabilities :=
    recorded
  have registry : t.registry = s.registry := by
    have kept := run_onManager_registry config.codec (acceptIncoming config.codec config.platform peer).run s
    rwa [undisturbed] at kept
  have record : (t.peerData identity.deviceId).record = (s.peerData identity.deviceId).record := by
    simp only [DaemonState.peerData, registry]
  rw [incoming, record]

/-- Two accepted connections that differ in the plaintext identity leave the
same recorded exactly when both identities say the same name and type, and the
same capabilities where they are taken. -/
theorem same_peerData_iff {acceptPatience exchangePatience acceptPatience' exchangePatience' : Nat} {peer : InboundPeer}
    (plaintext : List Arrival) {s : DaemonState} {identity identity' : Identity} {generation generation' : UInt64}
    (claimed : (Attempt.inbound peer).claimed config.codec config.platform = .ok identity)
    (claimed' : (Attempt.inbound { peer with plaintext }).claimed config.codec config.platform = .ok identity')
    (up : (run (exec config.codec) (handleConnection config acceptPatience exchangePatience peer) s).1 = some (d, generation))
    (up' : (run (exec config.codec) (handleConnection config acceptPatience' exchangePatience' { peer with plaintext }) s).1 =
      some (d, generation')) :
    (run (exec config.codec) (handleConnection config acceptPatience exchangePatience peer) s).2.peerData d =
        (run (exec config.codec) (handleConnection config acceptPatience' exchangePatience' { peer with plaintext }) s).2.peerData d ↔
      identity.deviceName = identity'.deviceName ∧
        DeviceType.parse identity.deviceType = DeviceType.parse identity'.deviceType ∧
        keptCapabilities identity (s.peerData d).record = keptCapabilities identity' (s.peerData d).record ∧
        keptIncoming identity (s.peerData d).peerCapabilities = keptIncoming identity' (s.peerData d).peerCapabilities := by
  obtain ⟨found, read, -, recorded⟩ := handleConnection_records up
  obtain ⟨found', read', -, recorded'⟩ := handleConnection_records up'
  cases claimed.symm.trans read
  cases claimed'.symm.trans read'
  rw [recorded, recorded']
  simp only [PeerData.mk.injEq, Option.some.injEq, PeerRecord.mk.injEq]
  exact ⟨fun ⟨incoming, name, deviceType, kept⟩ => ⟨name, deviceType, kept, incoming⟩,
    fun ⟨name, deviceType, kept, incoming⟩ => ⟨incoming, name, deviceType, kept⟩⟩

section Sample

open RefusedAttempts

def introduction (name : String) : String :=
  "\x7b" ++ ("\"id\":1,\"type\":\"kdeconnect.identity\",\"body\":\x7b\"deviceId\":\"a1b2c3d4a1b2c3d4a1b2c3d4a1b2c3d4\"," ++
    "\"deviceName\":\"" ++ name ++ "\",\"deviceType\":\"tv\",\"protocolVersion\":8\x7d") ++ "\x7d"

def introduced (name : String) : Identity := ⟨phoneId, name, "tv", 8, [], [], none, none, none⟩

def introducedValue (name : String) : Json :=
  .obj [("id", .num (.posInt 1)), ("type", .str "kdeconnect.identity"),
    ("body", .obj [("deviceId", .str phoneId), ("deviceName", .str name), ("deviceType", .str "tv"),
      ("protocolVersion", .num (.posInt 8))])]

def hall : DaemonSettings :=
  { ConnectionSetup.desktop with
    codec := {
      parse := fun found =>
        if found = introduction "Hall" then .ok (introducedValue "Hall")
        else if found = introduction "Bank" then .ok (introducedValue "Bank")
        else .error "expected value at line 1 column 1"
      decodeErrorText := fun _ _ => ""
      valueErrorText := fun _ => ""
      utf8ErrorText := fun _ => "" } }

/-- A television in the hall, whose plaintext identity someone on the way may have rewritten. -/
def television (name : String) : InboundPeer where
  address := none
  plaintext := [.data ⟨toUtf8 (introduction name) ++ [newline], by simp⟩]
  tlsSetup := .ok ()
  handshake := .completes
  certificate := some [0x30, 0x00]
  stream := [.data ⟨toUtf8 (introduction "Hall") ++ [newline], by simp⟩]

def introductionPacket (name : String) : Packet :=
  .new 1 "kdeconnect.identity" (.obj [("deviceId", .str phoneId), ("deviceName", .str name), ("deviceType", .str "tv"),
    ("protocolVersion", .num (.posInt 8))])

theorem television_read (name : String) 
    (fits : (toUtf8 (introduction name) ++ [newline]).length ≤ PacketSerializer.maxPacketSize)
    (parsed : hall.codec.parse (introduction name) = .ok (introducedValue name)) :
    PacketSerializer.deserialize hall.codec (toUtf8 (introduction name) ++ [newline]) = .ok (introductionPacket name) :=
  PacketSerializer.deserialize_text fits (trim_braces _) (by simp [introduction]) parsed rfl

theorem hall_parsed : parseIdentity hall.codec hall.platform (toUtf8 (introduction "Hall") ++ [newline]) = .ok (introduced "Hall") := by
  unfold parseIdentity
  rw [television_read "Hall" (by decide +kernel) (by decide +kernel)]
  decide +kernel

theorem bank_parsed : parseIdentity hall.codec hall.platform (toUtf8 (introduction "Bank") ++ [newline]) = .ok (introduced "Bank") := by
  unfold parseIdentity
  rw [television_read "Bank" (by decide +kernel) (by decide +kernel)]
  decide +kernel

theorem hall_up :
    (run (exec hall.codec) (handleConnection hall 100 100 (television "Hall")) {}).1 = some (phoneId, 1) := by
  unfold handleConnection
  rw [acceptIncoming_eq (show checkAddress (television "Hall").address = .ok () from rfl) (by decide +kernel) hall_parsed]
  decide +kernel

theorem bank_up :
    (run (exec hall.codec) (handleConnection hall 100 100 (television "Bank")) {}).1 = some (phoneId, 1) := by
  unfold handleConnection
  rw [acceptIncoming_eq (show checkAddress (television "Bank").address = .ok () from rfl) (by decide +kernel) bank_parsed]
  decide +kernel

example : (introduced "Hall").deviceName ≠ (introduced "Bank").deviceName := by decide +kernel

theorem television_claimed {name : String}
    (read : (readIdentityLine "Timed out reading plaintext identity" "Failed to read plaintext identity"
      (television name).plaintext).1 = .ok (toUtf8 (introduction name) ++ [newline]))
    (parsed : parseIdentity hall.codec hall.platform (toUtf8 (introduction name) ++ [newline]) = .ok (introduced name)) :
    (Attempt.inbound (television name)).claimed hall.codec hall.platform = .ok (introduced name) := by
  simp only [Attempt.claimed, read]
  exact parsed

theorem television_renamed :
    (run (exec hall.codec) (handleConnection hall 100 100 (television "Hall")) {}).2.peerData phoneId ≠
      (run (exec hall.codec) (handleConnection hall 100 100 (television "Bank")) {}).2.peerData phoneId := fun same =>
  absurd ((same_peerData_iff (television "Bank").plaintext (television_claimed (by decide +kernel) hall_parsed)
    (television_claimed (by decide +kernel) bank_parsed) hall_up bank_up).mp same).1 (by decide)

/-- The television says the same inside TLS, and is on record under the name that was put into the plaintext. -/
theorem plaintext_decides :
    ¬(∀ (acceptPatience exchangePatience : Nat) (peer : InboundPeer) (plaintext : List Arrival) (s : DaemonState)
        (identity identity' : Identity) (generation generation' : UInt64),
      (Attempt.inbound peer).claimed hall.codec hall.platform = .ok identity →
      (Attempt.inbound { peer with plaintext }).claimed hall.codec hall.platform = .ok identity' →
      identity.deviceId = identity'.deviceId → identity.protocolVersion = identity'.protocolVersion →
      identity.targetDeviceId = identity'.targetDeviceId → identity.targetProtocolVersion = identity'.targetProtocolVersion →
      (run (exec hall.codec) (handleConnection hall acceptPatience exchangePatience peer) s).1 = some (identity.deviceId, generation) →
      (run (exec hall.codec) (handleConnection hall acceptPatience exchangePatience { peer with plaintext }) s).1 =
        some (identity.deviceId, generation') →
      (run (exec hall.codec) (handleConnection hall acceptPatience exchangePatience peer) s).2.peerData identity.deviceId =
        (run (exec hall.codec) (handleConnection hall acceptPatience exchangePatience { peer with plaintext }) s).2.peerData
          identity.deviceId) := by
  intro always
  have hallClaimed := television_claimed (by decide +kernel) hall_parsed
  have bankClaimed := television_claimed (by decide +kernel) bank_parsed
  have same := always 100 100 (television "Hall") (television "Bank").plaintext {} _ _ 1 1 hallClaimed bankClaimed rfl rfl rfl rfl
    hall_up bank_up
  obtain ⟨_, hallRead, -, recorded⟩ := handleConnection_records hall_up
  obtain ⟨_, bankRead, -, recorded'⟩ := handleConnection_records bank_up
  cases hallClaimed.symm.trans hallRead
  cases bankClaimed.symm.trans bankRead
  have names := congrArg (fun data => data.record.map PeerRecord.name) (recorded.symm.trans (same.trans recorded'))
  exact absurd (Option.some.inj names) (by decide)

end Sample

end PlaintextIdentity

end RustConnect
