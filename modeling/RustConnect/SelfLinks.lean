import RustConnect.Discovery

namespace RustConnect

open Program DaemonAction Daemon

/-- What registers links, and what else is done with them while the daemon runs. -/
inductive DialTask
  | accepted (acceptPatience exchangePatience : Nat) (peer : InboundPeer)
  | discovered (identity : Identity) (peer : OutboundPeer) (later : List OutboundPeer)
  | connectDevice (peer : OutboundPeer)
  | disconnects (deviceId : DeviceId) (generation : UInt64)
  | receives (deviceId : DeviceId) (generation : UInt64)
  | sends (deviceId : DeviceId) (packet : Packet)
  | handles (deviceId : DeviceId) (generation : UInt64) (packet : Packet)
  | asks (call : LocalCall)
  | waits (duration : Time)

namespace SelfLinks

variable (config : DaemonSettings)

/-- `connect_and_spawn_loop`, which expects no identity. The packet loop is a task of its own. -/
def connectAndSpawnLoop (peer : OutboundPeer) : DaemonProgram Unit := do
  if let .ok (connectedId, remoteIdentity, generation) ←
      onManager (ConnectionManager.connectToDevice config.codec config.platform { peer with expectedIdentity := none }).run then
    let _ ← ConnectionSetup.runConnectionSetup config.print connectedId remoteIdentity generation

end SelfLinks

def DialTask.program (config : DaemonSettings) : DialTask → DaemonProgram Unit
  | accepted acceptPatience exchangePatience peer => do
    let _ ← handleConnection config acceptPatience exchangePatience peer
  | discovered identity peer later => Discovery.onDeviceDiscovered config identity peer later
  | connectDevice peer => SelfLinks.connectAndSpawnLoop config peer
  | disconnects d generation => do let _ ← onManager (ConnectionManager.disconnect d generation)
  | receives d generation => do let _ ← onManager (ConnectionManager.recvPacketCurrent d generation).run
  | sends d packet => attempt (sendPacket config.print d packet)
  | handles d generation packet => do
    let _ ← onLoop config.print (PacketLoop.handlePairPacket config.platform config.pairing d generation packet)
  | asks call => onPairing (attempt (call.program config.platform config.pairing))
  | waits duration => perform (pass duration)

namespace SelfLinks

/-- The daemon after the first `k` turns. -/
def atTurn (config : DaemonSettings) (start : DaemonState) (turns : List (Turn DialTask)) (k : Nat) :
    Pool DaemonAction DaemonAction.Answer DaemonState :=
  Pool.after (DaemonAction.exec config.codec) (DialTask.program config) start turns k

/-- The identity that the dialled peer sends inside TLS is not in the name of this device. -/
def AnswersAsOther (config : DaemonSettings) (own : DeviceId) (peer : OutboundPeer) : Prop :=
  ∀ identity, (Attempt.outbound peer).claimed config.codec config.platform = .ok identity → identity.deviceId ≠ own

/-- Whether a task was told the own device id each time that it asked for it.
Such a task registers no link in the name of the own device. -/
def managerMove (own : DeviceId) : Bool → (action : ManagerAction) → action.Answer → Option Bool
  | told, .ownDeviceId, answer => some (told && answer == own)
  | told, .registerIncoming d _ _, _ => if told && d == own then none else some told
  | told, .insertConnection d _ _ _, _ => if told && d == own then none else some told
  | told, _, _ => some told

def move (own : DeviceId) : Bool → (action : DaemonAction) → action.Answer → Option Bool
  | told, manager action, answer => managerMove own told action answer
  | told, _, _ => some told

section Follows

variable {own : DeviceId} {told : Bool} {α : Type}

/-- The action puts no link into the map. -/
def Unlinking : ManagerAction → Prop
  | .registerIncoming _ _ _ | .insertConnection _ _ _ _ => False
  | _ => True

theorem unlinking_of_vets {action : ManagerAction} (vetting : LinkGenerations.vets action) : Unlinking action := by
  cases action with
  | registerIncoming | insertConnection => exact vetting
  | _ => trivial

theorem managerMove_unlinking {action : ManagerAction} (unlinking : Unlinking action) (answer : action.Answer) :
    ∃ later, managerMove own told action answer = some later ∧ (later = true → told = true) := by
  cases action with
  | registerIncoming | insertConnection => exact unlinking.elim
  | ownDeviceId => exact ⟨_, rfl, fun all => (Bool.and_eq_true _ _ ▸ all).1⟩
  | _ => exact ⟨told, rfl, id⟩

theorem follows_unlinking {program : ManagerProgram α} (only : program.Only Unlinking fun _ => True) :
    Follows (managerMove own) told program fun later _ => later = true → told = true := by
  induction program generalizing told with
  | done value => exact id
  | act action next ih =>
    intro answer
    obtain ⟨later, moved, before⟩ := managerMove_unlinking only.1 answer
    exact ⟨later, moved, (ih answer (only.2 answer)).weaken fun _ _ after all => before (after all)⟩

/-- A registration for another device may be made in any case. -/
theorem follows_registers {d : DeviceId} (apart : told = true → d ≠ own) {program : ManagerProgram α}
    (only : program.Only (registers d) fun _ => True) :
    Follows (managerMove own) told program fun later _ => later = told := by
  have stays : Follows (managerMove own) told program fun later _ => later = told ∧ True := by
    refine only.follows fun action registering answer => ?_
    have other : ¬((told && d == own) = true) := by
      simpa using apart
    cases action with
    | registerIncoming e peerCert stream =>
      obtain rfl : e = d := registering
      exact if_neg other
    | insertConnection e generation peerCert stream =>
      obtain rfl : e = d := registering
      exact if_neg other
    | ownDeviceId => exact registering.elim
    | _ => rfl
  exact stays.weaken fun _ _ same => same.1

variable (codec : JsonCodec) (platform : Platform)

/-- A peer in the name of the own device does not pass. -/
theorem follows_checkIncoming (peer : InboundPeer) :
    Follows (managerMove own) told (ConnectionManager.checkIncoming codec platform peer).run fun later result =>
      ∀ passed, result = .ok passed → later = true → passed.2.deviceId ≠ own := by
  unfold ConnectionManager.checkIncoming
  simp only [follows_except_bind, follows_except_ofExcept]
  cases ConnectionManager.checkAddress peer.address with
  | error e =>
    intro _ passed
    cases passed
  | ok =>
  cases (ConnectionManager.readIdentityLine "Timed out reading plaintext identity" "Failed to read plaintext identity"
    peer.plaintext).1 with
  | error e =>
    intro _ passed
    cases passed
  | ok line =>
  dsimp only
  cases ConnectionManager.parseIdentity codec platform line with
  | error e =>
    intro _ passed
    cases passed
  | ok identity =>
  dsimp only
  rw [follows_except_lift]
  refine fun ourId => ⟨told && ourId == own, rfl, ?_⟩
  simp only [follows_done]
  cases checked : ConnectionManager.checkTarget ourId identity with
  | error e =>
    intro _ passed
    cases passed
  | ok =>
  have other : identity.deviceId ≠ ourId := by
    rintro same
    simp only [ConnectionManager.checkTarget, same, if_true] at checked
    cases checked
  have vetted (later : Bool) (before : later = true → (told && ourId == own) = true) (all : later = true) :
      identity.deviceId ≠ own := by
    have right := before all
    simp only [Bool.and_eq_true, beq_iff_eq] at right
    rw [← right.2]
    exact other
  have connects := (LinkGenerations.only_tlsConnect (d := identity.deviceId) platform peer).weaken
    (fun _ => unlinking_of_vets) fun _ => id
  dsimp only
  refine (follows_unlinking connects).weaken fun later certificate before => ?_
  cases certificate with
  | error e =>
    intro _ passed
    cases passed
  | ok peerCert =>
  have checks := (LinkGenerations.only_checkCertificate (d := identity.deviceId) platform peerCert).weaken
    (fun _ => unlinking_of_vets) fun _ => id
  refine (follows_unlinking checks).weaken fun last result since => ?_
  cases result with
  | error e =>
    intro _ passed
    cases passed
  | ok =>
    rintro _ ⟨⟩ all
    exact vetted last (fun all => before (since all)) all

theorem follows_acceptIncoming (peer : InboundPeer) :
    Follows (managerMove own) told (ConnectionManager.acceptIncoming codec platform peer).run fun _ _ => True := by
  refine (follows_except_bind _ _ _).mpr ((follows_checkIncoming codec platform peer).weaken fun later result apart => ?_)
  cases result with
  | error e => trivial
  | ok passed =>
    have registers := follows_registers (apart passed rfl) (only_registerInbound passed.2 passed.1 (.new peer.stream))
    refine (follows_except_bind _ _ _).mpr (registers.weaken fun _ registered _ => ?_)
    cases registered <;> trivial

theorem follows_connectToDevice (peer : OutboundPeer)
    (apart : told = true → ∀ passed, ConnectionManager.exchange codec platform peer = .ok passed → passed.2.1.deviceId ≠ own) :
    Follows (managerMove own) told (ConnectionManager.connectToDevice codec platform peer).run fun later _ =>
      later = true → told = true := by
  have dials : Only (ConnectionManager.dial peer).run Unlinking fun _ => True :=
    (only_dial peer).weaken (fun action dialling => by cases action <;> trivial) fun _ => id
  unfold ConnectionManager.connectToDevice ConnectionManager.checkOutgoing
  simp only [follows_except_bind, follows_except_ofExcept]
  refine (follows_unlinking dials).weaken fun later dialled before => ?_
  cases dialled with
  | error e => exact before
  | ok =>
  dsimp only
  cases exchanged : ConnectionManager.exchange codec platform peer with
  | error e => exact before
  | ok passed =>
  have checks := (LinkGenerations.only_checkCertificate (d := passed.2.1.deviceId) platform passed.1).weaken
    (fun _ => unlinking_of_vets) fun _ => id
  refine (follows_unlinking checks).weaken fun last result since => ?_
  cases result with
  | error e => exact fun all => before (since all)
  | ok =>
    have registers := follows_registers (fun all => apart (before (since all)) passed exchanged)
      (only_registerOutbound passed.2.1 passed.1 (.new passed.2.2.intoInner))
    refine (follows_except_lift _ _).mpr (registers.weaken fun _ _ same => ?_)
    exact fun all => before (since (same ▸ all))

end Follows

section Programs

variable {config : DaemonSettings} {own : DeviceId} {told : Bool} {α : Type}

theorem follows_onManager {program : ManagerProgram α} {Q : Bool → α → Prop}
    (follows : Follows (managerMove own) told program Q) : Follows (move own) told (onManager program) Q := by
  refine follows.hoist fun phase action defined answer => ?_
  obtain ⟨later, moved⟩ := Option.isSome_iff_exists.mp (defined answer)
  exact ⟨later, moved, moved⟩

/-- The links that are there are served, and none is dialled or added. -/
def Serving : DaemonAction → Prop
  | manager .newToken | manager (.registerCancelTokenIfCurrent _ _ _) => True
  | manager action => action.Serves
  | dialing _ => False
  | _ => True

theorem follows_serving {program : DaemonProgram α} (only : program.Only Serving fun _ => True) :
    Follows (move own) told program fun later _ => later = told := by
  have stays : Follows (move own) told program fun later _ => later = told ∧ True := by
    refine only.follows fun action serving answer => ?_
    cases action with
    | manager action =>
      cases action with
      | registerIncoming | insertConnection | ownDeviceId => exact serving.elim
      | _ => rfl
    | _ => rfl
  exact stays.weaken fun _ _ same => same.1

theorem serving_of_serves {action : ManagerAction} (serves : action.Serves) : Serving (manager action) := by
  cases action <;> trivial

theorem serving_of_prepares {action : DaemonAction} (prepares : ConnectionSetup.Prepares action) : Serving action := by
  cases action with
  | manager action => cases action <;> exact prepares
  | dialing action => exact prepares
  | _ => trivial

theorem serving_sendPacket (d : DeviceId) (packet : Packet) : Only (sendPacket config.print d packet).run Serving fun _ => True :=
  (ConnectionSetup.prepares_sendPacket d packet).weaken (fun _ => serving_of_prepares) fun _ => id

theorem serving_setup (d : DeviceId) (identity : Identity) (generation : UInt64) :
    (ConnectionSetup.runConnectionSetup config.print d identity generation).Only Serving fun _ => True :=
  (ConnectionSetup.prepares_runConnectionSetup identity generation).weaken (fun _ => serving_of_prepares) fun _ => id

theorem serving_inbound (patience : Nat) (d : DeviceId) (identity : Identity) (generation : UInt64) :
    ((SetUp.inbound patience d identity generation).program config).Only Serving fun _ => True := by
  have exchange : (runExchange config.print config.codec config.platform config.our patience identity d generation).Only Serving
      fun _ => True :=
    only_runExchange config.codec config.platform (fun _ => serving_of_serves) trivial (fun _ => serving_sendPacket d _) trivial trivial
      trivial patience identity generation
  refine (only_bind _ _ _).mpr (exchange.followedBy fun exchanged => ?_)
  cases exchanged with
  | false => trivial
  | true =>
    have starts : Only (onManager (ConnectionManager.startLoop d generation)) Serving fun _ => True :=
      ⟨trivial, fun _ => ⟨trivial, fun _ => trivial⟩⟩
    refine (only_bind _ _ _).mpr (starts.followedBy fun up => ?_)
    cases up with
    | false => trivial
    | true =>
      have connected := (ConnectionSetup.prepares_ensureConnected (d := d) identity).weaken (fun _ => serving_of_prepares) fun _ => id
      have plugins := (ConnectionSetup.prepares_initPlugins (d := d)).weaken (fun _ => serving_of_prepares) fun _ => id
      refine (only_bind _ _ _).mpr (connected.followedBy fun _ => ?_)
      exact (only_bind _ _ _).mpr (plugins.followedBy fun _ => trivial)

theorem serving_translate (action : LoopAction) : (translate config.print action).Only Serving fun _ => True := by
  cases action with
  | sendPacket d packet => exact serving_sendPacket d packet
  | disconnect d generation =>
    have disconnects : Only (onManager (ConnectionManager.disconnect d generation)) Serving fun _ => True :=
      only_onManager_of (fun _ => serving_of_serves) (ConnectionManager.disconnect_serves d generation)
    exact (only_map _ _ _).mpr (disconnects.followedBy fun _ => trivial)
  | registryGet d => exact (only_map _ _ _).mpr ⟨trivial, fun _ => trivial⟩
  | _ => exact ⟨trivial, fun _ => trivial⟩

theorem follows_handleConnection (acceptPatience exchangePatience : Nat) (peer : InboundPeer) :
    Follows (move own) told (handleConnection config acceptPatience exchangePatience peer) fun _ _ => True := by
  have accepts : Follows (move own) told (onManager (ConnectionManager.acceptIncoming config.codec config.platform peer).run)
      fun _ _ => True := follows_onManager (follows_acceptIncoming config.codec config.platform peer)
  have strikes (phase : Bool) (answer : timeoutElapsed.Answer) :
      ∃ later, move own phase timeoutElapsed answer = some later ∧ True := ⟨phase, rfl, trivial⟩
  have cut := accepts.cutOff (T := fun _ => True) strikes acceptPatience
  refine (follows_bind _ _ _).mpr (cut.weaken fun later result _ => ?_)
  rcases result with _ | _ | ⟨d, identity, generation⟩
  · trivial
  · trivial
  refine (follows_bind _ _ _).mpr ((follows_serving (serving_inbound exchangePatience d identity generation)).weaken ?_)
  intro _ ready _
  cases ready <;> trivial

/-- The dial that expects an identity registers no other device. -/
theorem exchange_expected {codec : JsonCodec} {platform : Platform} {peer : OutboundPeer} {expected : Identity}
    {passed : Option Bytes × Identity × BufReader}
    (exchanged : ConnectionManager.exchange codec platform { peer with expectedIdentity := some expected } = .ok passed) :
    passed.2.1.deviceId = expected.deviceId := by
  unfold ConnectionManager.exchange at exchanged
  obtain ⟨-, -, exchanged⟩ := except_bind_ok.mp exchanged
  obtain ⟨presented, -, exchanged⟩ := except_bind_ok.mp exchanged
  obtain ⟨-, -, exchanged⟩ := except_bind_ok.mp exchanged
  dsimp only at exchanged
  split at exchanged
  · cases exchanged
  split at exchanged
  · cases exchanged
  obtain ⟨line, -, exchanged⟩ := except_bind_ok.mp exchanged
  obtain ⟨identity, -, exchanged⟩ := except_bind_ok.mp exchanged
  obtain ⟨⟨⟩, checked, same⟩ := except_bind_ok.mp exchanged
  cases same
  by_contra other
  simp only [ConnectionManager.checkExpected, ne_eq, other, not_false_eq_true, if_true] at checked
  cases checked

theorem follows_dialMarked (identity : Identity) (apart : told = true → identity.deviceId ≠ own) (d : DeviceId)
    (peer : OutboundPeer) :
    Follows (move own) told (Discovery.dialMarked config identity d peer) fun later _ => later = true → told = true := by
  intro added
  refine ⟨told, rfl, ?_⟩
  cases added with
  | false => exact id
  | true =>
    have dials := follows_onManager (follows_connectToDevice config.codec config.platform
      { peer with expectedIdentity := some identity } fun all passed exchanged => exchange_expected exchanged ▸ apart all)
    refine fun _ => ⟨told, rfl, (follows_bind (onManager _) _ _).mpr (dials.weaken fun later result before => ?_)⟩
    exact fun _ => ⟨later, rfl, before⟩

theorem follows_reconnectLoop (identity : Identity) (apart : told = true → identity.deviceId ≠ own) (d : DeviceId)
    (peers : List OutboundPeer) : Follows (move own) told (Discovery.reconnectLoop config identity d peers) fun _ _ => True := by
  induction peers generalizing told with
  | nil => trivial
  | cons peer later ih =>
    refine fun found => ⟨told, rfl, ?_⟩
    cases found with
    | some link => trivial
    | none =>
      refine fun ownId => ⟨told && ownId == own, rfl, (follows_ite _ _ _ _).mpr ⟨fun _ => ?_, fun _ => trivial⟩⟩
      have since (all : (told && ownId == own) = true) : identity.deviceId ≠ own := apart (Bool.and_eq_true _ _ ▸ all).1
      refine (follows_bind (Discovery.dialMarked config identity d peer) _ _).mpr
        ((follows_dialMarked identity since d peer).weaken fun phase result before => ?_)
      have still (all : phase = true) : identity.deviceId ≠ own := since (before all)
      rcases result with _ | _ | ⟨connectedId, remoteIdentity, generation⟩
      · exact ih still
      · exact ih still
      · refine (follows_bind _ _ _).mpr ((follows_serving (serving_setup connectedId remoteIdentity generation)).weaken ?_)
        rintro _ - rfl
        exact ih still

theorem follows_discovered (identity : Identity) (peer : OutboundPeer) (later : List OutboundPeer) :
    Follows (move own) told (Discovery.onDeviceDiscovered config identity peer later) fun _ _ => True := by
  have refuses : (Discovery.refusesDowngrade identity).Only Serving fun _ => True := by
    refine ⟨trivial, fun paired => ?_⟩
    cases paired with
    | false => trivial
    | true =>
      refine ⟨trivial, fun known => ?_⟩
      cases known <;> trivial
  refine fun now => ⟨told, rfl, fun _ => ⟨told, rfl, fun ownId => ⟨told && ownId == own, rfl, ?_⟩⟩⟩
  refine (follows_ite _ _ _ _).mpr ⟨fun other => ?_, fun _ => trivial⟩
  have apart (all : (told && ownId == own) = true) : identity.deviceId ≠ own := by
    obtain ⟨-, same⟩ := Bool.and_eq_true _ _ ▸ all
    exact beq_iff_eq.mp same ▸ other
  generalize (told && ownId == own) = asked at apart
  refine fun found => ⟨asked, rfl, (follows_ite _ _ _ _).mpr ⟨fun _ => ?_, fun _ => trivial⟩⟩
  refine (follows_bind _ _ _).mpr ((follows_serving refuses).weaken fun asked refused same => ?_)
  subst same
  refine (follows_ite _ _ _ _).mpr ⟨fun _ => ?_, fun _ => trivial⟩
  refine fun again => ⟨_, rfl, (follows_ite _ _ _ _).mpr ⟨fun _ => ?_, fun _ => trivial⟩⟩
  have since (all : (asked && again == own) = true) : identity.deviceId ≠ own := apart (Bool.and_eq_true _ _ ▸ all).1
  refine (follows_bind (Discovery.dialMarked config identity _ peer) _ _).mpr
    ((follows_dialMarked identity since _ peer).weaken fun phase result before => ?_)
  rcases result with _ | _ | ⟨connectedId, remoteIdentity, generation⟩
  · trivial
  · trivial
  refine (follows_bind _ _ _).mpr ((follows_serving (serving_setup connectedId remoteIdentity generation)).weaken ?_)
  rintro _ - rfl
  refine fun paired => ⟨_, rfl, (follows_ite _ _ _ _).mpr ⟨fun _ => ?_, fun _ => trivial⟩⟩
  exact follows_reconnectLoop identity (fun all => since (before all)) connectedId _

theorem follows_connectAndSpawnLoop (peer : OutboundPeer) (other : AnswersAsOther config own peer) :
    Follows (move own) told (connectAndSpawnLoop config peer) fun _ _ => True := by
  have apart (_ : told = true) (passed : Option Bytes × Identity × BufReader)
      (exchanged : ConnectionManager.exchange config.codec config.platform { peer with expectedIdentity := none } = .ok passed) :
      passed.2.1.deviceId ≠ own :=
    other _ (exchange_ok config.codec config.platform exchanged).2.2.1
  have dials := follows_onManager (follows_connectToDevice config.codec config.platform _ apart)
  refine (follows_bind _ _ _).mpr (dials.weaken fun later result _ => ?_)
  rcases result with _ | ⟨connectedId, remoteIdentity, generation⟩
  · trivial
  exact (follows_bind _ _ _).mpr ((follows_serving (serving_setup connectedId remoteIdentity generation)).weaken fun _ _ _ => trivial)

theorem follows_task (task : DialTask) (other : ∀ peer, task = .connectDevice peer → AnswersAsOther config own peer) :
    Follows (move own) told (task.program config) fun _ _ => True := by
  have served {program : DaemonProgram Unit} (only : program.Only Serving fun _ => True) :
      Follows (move own) told program fun _ _ => True := (follows_serving only).weaken fun _ _ _ => trivial
  cases task with
  | accepted acceptPatience exchangePatience peer =>
    exact (follows_bind _ _ _).mpr ((follows_handleConnection acceptPatience exchangePatience peer).weaken fun _ _ _ => trivial)
  | discovered identity peer later => exact follows_discovered identity peer later
  | connectDevice peer => exact follows_connectAndSpawnLoop peer (other peer rfl)
  | disconnects d generation =>
    have disconnects : Only (onManager (ConnectionManager.disconnect d generation)) Serving fun _ => True :=
      only_onManager_of (fun _ => serving_of_serves) (ConnectionManager.disconnect_serves d generation)
    exact served ((only_bind _ _ _).mpr (disconnects.followedBy fun _ => trivial))
  | receives d generation =>
    have receives : Only (onManager (ConnectionManager.recvPacketCurrent d generation).run) Serving fun _ => True :=
      only_onManager_of (fun _ => serving_of_serves) (ConnectionManager.recvPacketCurrent_serves d generation)
    exact served ((only_bind _ _ _).mpr (receives.followedBy fun _ => trivial))
  | sends d packet => exact served ((only_attempt _ _).mpr (serving_sendPacket d packet))
  | handles d generation packet =>
    have handles : Only (onLoop config.print (PacketLoop.handlePairPacket config.platform config.pairing d generation packet))
        Serving fun _ => True := (only_trivial _).hoist fun action _ => serving_translate action
    exact served ((only_bind _ _ _).mpr (handles.followedBy fun _ => trivial))
  | asks call => exact served (only_onPairing (fun _ => trivial) _)
  | waits duration => exact served ⟨trivial, fun _ => trivial⟩

end Programs

variable {config : DaemonSettings} {own : DeviceId}

/-- The device with this id has no link to itself. -/
structure Apart (own : DeviceId) (s : ManagerState) : Prop where
  named : s.deviceId = own
  unlinked : s.connections.lookup own = none

theorem Apart.exec {codec : JsonCodec} {s : ManagerState} (apart : Apart own s) {action : ManagerAction} {later : Bool}
    (moved : managerMove own true action (action.exec codec s).1 = some later) :
    later = true ∧ Apart own (action.exec codec s).2 := by
  have other {d : DeviceId} (same : (if (true && d == own) then none else some true) = some later) : later = true ∧ own ≠ d := by
    split at same
    · cases same
    · rename_i distinct
      exact ⟨(Option.some.inj same).symm, fun equal => distinct (by simp [equal])⟩
  cases action with
  | ownDeviceId =>
    refine ⟨?_, apart⟩
    rw [← Option.some.inj moved]
    simp [ManagerAction.exec, apart.named]
  | registerIncoming d peerCert stream =>
    obtain ⟨all, distinct⟩ := other moved
    refine ⟨all, ?_⟩
    simp only [ManagerAction.exec, ManagerState.registerIncoming]
    split
    · exact apart
    · exact ⟨apart.named, (AList.lookup_insert_ne distinct).trans apart.unlinked⟩
  | insertConnection d generation peerCert stream =>
    obtain ⟨all, distinct⟩ := other moved
    exact ⟨all, apart.named, (AList.lookup_insert_ne distinct).trans apart.unlinked⟩
  | removeConnection d generation =>
    refine ⟨(Option.some.inj moved).symm, ?_⟩
    simp only [ManagerAction.exec, ManagerState.removeConnection]
    split
    · exact apart
    · refine ⟨apart.named, ?_⟩
      by_cases same : own = d
      · subst same
        exact AList.lookup_erase _ _
      · exact (AList.lookup_erase_ne same).trans apart.unlinked
  | admitAttempt ip =>
    refine ⟨(Option.some.inj moved).symm, ?_⟩
    simp only [ManagerAction.exec, ManagerState.admitAttempt]
    split <;> exact ⟨apart.named, apart.unlinked⟩
  | cancelLoop d =>
    refine ⟨(Option.some.inj moved).symm, ?_⟩
    simp only [ManagerAction.exec]
    split <;> exact ⟨apart.named, apart.unlinked⟩
  | registerCancelTokenIfCurrent d token generation =>
    refine ⟨(Option.some.inj moved).symm, ?_⟩
    simp only [ManagerAction.exec]
    split <;> exact ⟨apart.named, apart.unlinked⟩
  | removeCancelTokenIfCurrent d generation =>
    refine ⟨(Option.some.inj moved).symm, ?_⟩
    simp only [ManagerAction.exec]
    split <;> exact ⟨apart.named, apart.unlinked⟩
  | _ => exact ⟨(Option.some.inj moved).symm, apart.named, apart.unlinked⟩

theorem Apart.daemon {codec : JsonCodec} {s : DaemonState} (apart : Apart own s.manager) {action : DaemonAction} {later : Bool}
    (moved : move own true action (action.exec codec s).1 = some later) :
    later = true ∧ Apart own (action.exec codec s).2.manager := by
  cases action with
  | manager action => exact Apart.exec (s := s.view) ⟨apart.named, apart.unlinked⟩ moved
  | _ => exact ⟨(Option.some.inj moved).symm, apart⟩

/-- What the turn starts is not an API dial that is answered in the own name. -/
def NoSelfDial (config : DaemonSettings) (own : DeviceId) (turn : Turn DialTask) : Prop :=
  ∀ peer, turn = .spawn (.connectDevice peer) → AnswersAsOther config own peer

/-- Every task has been told the own device id whenever it asked, and there is no link to it. -/
def Guarded (own : DeviceId) (pool : Pool DaemonAction DaemonAction.Answer DaemonState) : Prop :=
  Pool.Phased (move own) true (fun _ => True) pool (fun _ => true) ∧ Apart own pool.shared.manager

theorem Guarded.step {pool : Pool DaemonAction DaemonAction.Answer DaemonState} (guarded : Guarded own pool) {turn : Turn DialTask}
    (other : NoSelfDial config own turn) :
    Guarded own (pool.step (DaemonAction.exec config.codec) (DialTask.program config) turn) := by
  obtain ⟨phased, apart⟩ := guarded
  cases turn with
  | spawn task =>
    refine ⟨phased.spawn task (follows_task task fun peer same => other peer (same ▸ rfl)), apart⟩
  | take task =>
    simp only [Pool.step]
    split
    · rename_i action next found
      obtain ⟨later, moved, performed⟩ := phased.perform (DaemonAction.exec config.codec) found
      obtain ⟨rfl, still⟩ := apart.daemon moved
      rw [Function.update_eq_self] at performed
      exact ⟨performed, still⟩
    · exact ⟨phased, apart⟩

/-- Where no dial of the API is answered in the name of the own device, there
is never a link to it, whatever is accepted, announced and dialled. -/
theorem no_link_to_self {start : DaemonState} {turns : List (Turn DialTask)}
    (fresh : start.manager.connections.lookup start.manager.deviceId = none)
    (others : ∀ turn ∈ turns, NoSelfDial config start.manager.deviceId turn) (k : Nat) :
    (atTurn config start turns k).shared.manager.connections.lookup start.manager.deviceId = none := by
  have begun : Guarded start.manager.deviceId (Pool.start start) :=
    ⟨⟨fun task program found => by simp [Pool.start] at found, fun _ _ => rfl⟩, rfl, fresh⟩
  have kept (pool : Pool DaemonAction DaemonAction.Answer DaemonState) (turn : Turn DialTask)
      (guarded : Guarded start.manager.deviceId pool) (other : NoSelfDial config start.manager.deviceId turn) :
      Guarded start.manager.deviceId (pool.step (DaemonAction.exec config.codec) (DialTask.program config) turn) := guarded.step other
  have guarded := Pool.after_induction begun kept (fun j turn here => others turn (List.mem_of_getElem? here)) k
  exact guarded.2.unlinked

section Sample

open RefusedAttempts

/-- A peer that answers a dial in the phone's name. -/
def answeringPhone : OutboundPeer where
  address := ⟨.v4 192 168 1 20, "192.168.1.20", "192.168.1.20:1716"⟩
  expectedIdentity := none
  connect := .connected
  ownIdentity := .ok ()
  plaintextWrite := .ok ()
  plaintextFlush := .ok ()
  ownCertificate := .ok ()
  tlsSetup := .ok ()
  handshake := some .completes
  certificate := some [0x30, 0x00]
  encryptedWrite := .ok ()
  encryptedFlush := .ok ()
  stream := [.data ⟨toUtf8 identityText ++ [newline], ConnectionSetup.line_ne_nil identityText⟩]

def dialsOut : List (Turn DialTask) := .spawn (.connectDevice answeringPhone) :: List.replicate 24 (.take 0)

/-- The daemon that has this device id and no link. -/
def unlinked (own : DeviceId) : DaemonState where
  pairing := { now := seconds 1000 }
  manager := { deviceId := own }

def isLinked (d : DeviceId) (pool : Pool DaemonAction DaemonAction.Answer DaemonState) : Bool :=
  (pool.shared.manager.connections.lookup d).isSome

theorem phone_read (timeout failure : String) :
    (ConnectionManager.readIdentityLine timeout failure answeringPhone.stream).1 = .ok (toUtf8 identityText ++ [newline]) :=
  ConnectionManager.readIdentityLine_whole (by decide +kernel) (by decide +kernel) timeout failure

theorem claims_phone : (Attempt.outbound answeringPhone).claimed phoneCodec phonePlatform = .ok phoneIdentity :=
  except_bind_ok.mpr ⟨_, phone_read _ _, phone_parsed⟩

/-- What is left of a dial to the phone once the identity is read. -/
def phoneAnswers (expected : Option Identity) : ExceptT Error ManagerProgram (DeviceId × Identity × UInt64) := do
  ConnectionManager.dial { answeringPhone with expectedIdentity := expected }
  ConnectionManager.checkCertificate phonePlatform phoneId (some [0x30, 0x00])
  let generation ← ConnectionManager.registerOutbound phoneIdentity (some [0x30, 0x00])
    (.new (readLineBounded (.new answeringPhone.stream) [] maxPacketSize).reader.intoInner)
  return (phoneId, phoneIdentity, generation)

theorem connect_phone {expected : Option Identity} (agrees : ConnectionManager.checkExpected phoneIdentity expected = .ok ()) :
    ConnectionManager.connectToDevice phoneCodec phonePlatform { answeringPhone with expectedIdentity := expected } =
      phoneAnswers expected := by
  have exchanged : ConnectionManager.exchange phoneCodec phonePlatform { answeringPhone with expectedIdentity := expected } =
      .ok (some [0x30, 0x00], phoneIdentity, (readLineBounded (.new answeringPhone.stream) [] maxPacketSize).reader) :=
    ConnectionManager.exchange_eq rfl rfl rfl rfl rfl phone_read phone_parsed agrees
  unfold ConnectionManager.connectToDevice ConnectionManager.checkOutgoing
  rw [exchanged]
  simp only [ok_bind, LawfulMonad.bind_assoc, LawfulMonad.pure_bind]
  rfl

def dialsPhone : DaemonProgram Unit := do
  if let .ok (connectedId, remoteIdentity, generation) ← onManager (phoneAnswers none).run then
    let _ ← ConnectionSetup.runConnectionSetup ConnectionSetup.desktop.print connectedId remoteIdentity generation

theorem program_dialsOut (k : Nat) (own : DeviceId) :
    atTurn ConnectionSetup.desktop (unlinked own) dialsOut k =
      Pool.after (DaemonAction.exec phoneCodec) (fun _ : DialTask => dialsPhone) (unlinked own) dialsOut k := by
  refine Pool.after_congr (fun task spawned => ?_) k
  obtain rfl : task = .connectDevice answeringPhone := by simpa [dialsOut] using spawned
  show connectAndSpawnLoop ConnectionSetup.desktop answeringPhone = dialsPhone
  unfold connectAndSpawnLoop
  rw [show ConnectionManager.connectToDevice ConnectionSetup.desktop.codec ConnectionSetup.desktop.platform
    { answeringPhone with expectedIdentity := none } = phoneAnswers none from connect_phone rfl]
  rfl

/-- A dial that the phone answers as itself links the phone only. -/
theorem phone_dialled :
    isLinked phoneId (atTurn ConnectionSetup.desktop (unlinked "d1d2d3d4d1d2d3d4d1d2d3d4d1d2d3d4") dialsOut 25) = true ∧
    (atTurn ConnectionSetup.desktop (unlinked "d1d2d3d4d1d2d3d4d1d2d3d4d1d2d3d4") dialsOut
      25).shared.manager.connections.lookup "d1d2d3d4d1d2d3d4d1d2d3d4d1d2d3d4" = none := by
  refine ⟨by rw [program_dialsOut]; decide +kernel, ?_⟩
  refine @no_link_to_self ConnectionSetup.desktop (unlinked "d1d2d3d4d1d2d3d4d1d2d3d4d1d2d3d4") dialsOut rfl ?_ 25
  intro turn member peer same
  subst same
  have dialled : peer = answeringPhone := by simpa [dialsOut] using member
  rw [dialled]
  intro identity claimed
  obtain rfl : phoneIdentity = identity := Except.ok.inj (claims_phone.symm.trans claimed)
  decide

/-- Someone answers a dial of the API in the name of the device that dials, and is linked. -/
theorem self_linked :
    ¬(∀ (config : DaemonSettings) (start : DaemonState) (turns : List (Turn DialTask)),
      start.manager.connections.lookup start.manager.deviceId = none →
      ∀ k, (atTurn config start turns k).shared.manager.connections.lookup start.manager.deviceId = none) := by
  intro always
  have linked : isLinked phoneId (atTurn ConnectionSetup.desktop (unlinked phoneId) dialsOut 25) = true := by
    rw [program_dialsOut]
    decide +kernel
  have absent : (atTurn ConnectionSetup.desktop (unlinked phoneId) dialsOut 25).shared.manager.connections.lookup phoneId = none :=
    always ConnectionSetup.desktop (unlinked phoneId) dialsOut rfl 25
  rw [isLinked, absent] at linked
  cases linked

end Sample

end SelfLinks

end RustConnect
