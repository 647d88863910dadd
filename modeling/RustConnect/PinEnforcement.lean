import RustConnect.Attempts
import RustConnect.CertificateFiles

namespace RustConnect

open Program ManagerAction ConnectionManager CertificateManager

variable (codec : JsonCodec) (platform : Platform)

/-- Whether the `CertificateManager` holds a fingerprint for the device. -/
def HoldsFingerprint (files : Files) (d : DeviceId) : Prop :=
  (run FileAction.exec (hasPeerFingerprint platform d) files).1 = true

/-- The peer has presented a certificate, with the fingerprint that is stored
for the device and with the device id as its common name. -/
def PresentsPinned (files : Files) (d : DeviceId) (certificate : Option Bytes) : Prop :=
  ∃ certDer, certificate = some certDer ∧
    (run FileAction.exec (loadPeerFingerprint platform d).run files).1 = .ok (computeFingerprint platform certDer) ∧
    platform.commonName certDer = .ok (some d)

/-- A connection attempt, by which side dialled. -/
inductive Attempt
  | inbound (peer : InboundPeer)
  | outbound (peer : OutboundPeer)

namespace Attempt

def program : Attempt → ExceptT Error ManagerProgram (DeviceId × Identity × UInt64)
  | inbound peer => acceptIncoming codec platform peer
  | outbound peer => connectToDevice codec platform peer

/-- The certificate that the peer proved possession of in the handshake. -/
def certificate : Attempt → Option Bytes
  | inbound peer => peer.certificate
  | outbound peer => peer.certificate

/-- The identity that the first line of the peer gives. -/
def claimed : Attempt → Except Error Identity
  | inbound peer => do
    let line ← (readIdentityLine "Timed out reading plaintext identity" "Failed to read plaintext identity"
      peer.plaintext).1
    parseIdentity codec platform line
  | outbound peer => do
    let line ← (readIdentityLine s!"Timed out reading identity from {peer.address.text}"
      "Failed to read encrypted identity" peer.stream).1
    parseIdentity codec platform line

end Attempt

/-- The maps of the links are as they were. -/
structure SameMaps (s t : ManagerState) : Prop where
  connections : t.connections = s.connections
  generations : t.generations = s.generations
  cancelTokens : t.cancelTokens = s.cancelTokens
  peerCapabilities : t.peerCapabilities = s.peerCapabilities

theorem SameMaps.refl (s : ManagerState) : SameMaps s s := ⟨rfl, rfl, rfl, rfl⟩

variable {codec platform} {d : DeviceId} {s : ManagerState}

theorem run_onFiles {α : Type} (program : FileProgram α) (s : ManagerState) :
    run (exec codec) (onFiles program) s =
      ((run FileAction.exec program s.files).1, { s with files := (run FileAction.exec program s.files).2 }) :=
  run_hoist ManagerState.files (fun s files => { s with files }) (fun _ _ => rfl) (fun _ => rfl) (fun _ _ _ => rfl)
    (fun _ _ => rfl) program s

theorem run_onFilesExcept {α : Type} (program : ExceptT Error FileProgram α) (s : ManagerState) :
    run (exec codec) (onFilesExcept program).run s =
      ((run FileAction.exec program.run s.files).1, { s with files := (run FileAction.exec program.run s.files).2 }) :=
  run_onFiles program.run s

variable (codec) in
theorem checks_onFiles {α : Type} {program : ExceptT Error FileProgram α} {Q : α → Prop}
    (checks : Checks FileAction.exec s.files program Q) : Checks (exec codec) s (onFilesExcept program) Q := by
  obtain ⟨result, ran, holds⟩ := checks
  exact ⟨result, by rw [run_onFilesExcept, ran], holds⟩

theorem parseIdentity_valid {line : Bytes} {identity : Identity} (parsed : parseIdentity codec platform line = .ok identity) :
    validateDeviceId platform identity.deviceId = .ok () := by
  unfold parseIdentity at parsed
  obtain ⟨packet, -, parsed⟩ := except_bind_ok.mp parsed
  dsimp only at parsed
  split at parsed
  · cases parsed
  obtain ⟨built, -, parsed⟩ := except_bind_ok.mp parsed
  obtain ⟨⟨⟩, checked, same⟩ := except_bind_ok.mp parsed
  cases same
  exact checked

section Checks

variable (valid : validateDeviceId platform d = .ok ()) (certDer : Bytes)

include valid

theorem verifyPeerFingerprint_checks (files : Files) :
    Checks FileAction.exec files (verifyPeerFingerprint platform d certDer) fun _ =>
      (run FileAction.exec (loadPeerFingerprint platform d).run files).1 = .ok (computeFingerprint platform certDer) := by
  have loads : Checks FileAction.exec files (loadPeerFingerprint platform d) fun stored =>
      (run FileAction.exec (loadPeerFingerprint platform d).run files).1 = .ok stored :=
    ⟨_, run_loadPeerFingerprint valid files, fun _ same => by rw [run_loadPeerFingerprint valid, same]⟩
  refine loads.bind fun stored loaded => ?_
  by_cases same : stored = computeFingerprint platform certDer
  · rw [if_neg (not_not_intro same)]
    exact .pure (same ▸ loaded)
  · rw [if_pos same]
    exact .throw _

theorem verifyPeerCertificate_checks (files : Files) :
    Checks FileAction.exec files (verifyPeerCertificate platform d certDer) fun _ => HoldsFingerprint platform files d →
      (run FileAction.exec (loadPeerFingerprint platform d).run files).1 = .ok (computeFingerprint platform certDer) := by
  have has := run_hasPeerFingerprint valid files
  refine (Checks.lift has).bind fun present same => ?_
  unfold HoldsFingerprint
  rw [has]
  cases present with
  | false => exact .pure fun holds => absurd (same.trans holds) nofun
  | true =>
    obtain ⟨result, ran, stored⟩ := verifyPeerFingerprint_checks valid certDer files
    exact ⟨result, ran, fun value ok _ => stored value ok⟩

theorem hasFingerprint_run (s : ManagerState) :
    run (exec codec) (hasFingerprint platform d) s = ((s.files.lookup (fingerprintFile d)).isSome, s) := by
  rw [hasFingerprint, run_onFiles, run_hasPeerFingerprint valid]

/-- The handshake changes nothing, and its certificate is the one that was presented. -/
theorem tlsConnect_checks (peer : InboundPeer) (s : ManagerState) :
    Checks (exec codec) s (tlsConnect platform d peer) fun certificate => certificate = peer.certificate := by
  refine (Checks.ofExcept fun _ => id).bind fun _ _ => ?_
  cases peer.handshake with
  | timesOut => exact .throw _
  | fails message => exact .throw _
  | completes =>
    cases peer.certificate with
    | none => exact .pure rfl
    | some certDer =>
      have verifies : Checks (exec codec) s (verifyServerCert platform d certDer) fun _ => True := by
        refine (Checks.lift (hasFingerprint_run valid s)).bind fun present _ => ?_
        cases present with
        | false => exact .pure trivial
        | true =>
          obtain ⟨result, ran, -⟩ := checks_onFiles codec (verifyPeerFingerprint_checks valid certDer s.files)
          exact ⟨result, ran, fun _ _ => trivial⟩
      exact verifies.adapt.bind fun _ _ => .pure rfl

/-- Both roles' certificate checks change nothing, and pass a pinned device
only with its certificate. -/
theorem checkCertificate_checks (certificate : Option Bytes) (s : ManagerState) :
    Checks (exec codec) s (checkCertificate platform d certificate) fun _ =>
      HoldsFingerprint platform s.files d → PresentsPinned platform s.files d certificate := by
  cases certificate with
  | none =>
    refine (Checks.lift (hasFingerprint_run valid s)).bind fun present same => ?_
    unfold HoldsFingerprint
    rw [run_hasPeerFingerprint valid]
    cases present with
    | false => exact .pure fun holds => absurd (same.trans holds) nofun
    | true => exact .throw _
  | some certDer =>
    have extracts : ∀ cn, extractCnFromDer platform certDer = .ok cn → platform.commonName certDer = .ok (some cn) := by
      intro cn extracted
      unfold extractCnFromDer at extracted
      split at extracted <;> cases extracted
      assumption
    refine (Checks.ofExcept extracts).bind fun cn named => ?_
    by_cases same : cn = d
    · subst same
      simp only [ne_eq, not_true_eq_false, ↓reduceIte]
      obtain ⟨result, ran, stored⟩ := checks_onFiles codec (verifyPeerCertificate_checks valid certDer s.files)
      exact ⟨result, ran, fun value ok holds => ⟨certDer, rfl, stored value ok holds, named⟩⟩
    · simp only [ne_eq, same, not_false_eq_true, ↓reduceIte]
      exact (Checks.throw (Q := fun _ => False) _).bind fun _ nothing => nothing.elim

end Checks

variable (codec platform)

/-- What the checks of an attempt establish of the identity that they pass. -/
def Vetted (attempt : Attempt) (s : ManagerState) (identity : Identity) : Prop :=
  attempt.claimed codec platform = .ok identity ∧
    (HoldsFingerprint platform s.files identity.deviceId →
      PresentsPinned platform s.files identity.deviceId attempt.certificate)

theorem checkIncoming_checks (peer : InboundPeer) (s : ManagerState) :
    Checks (exec codec) s (checkIncoming codec platform peer) fun passed =>
      passed.1 = peer.certificate ∧ Vetted codec platform (.inbound peer) s passed.2 := by
  refine (Checks.ofExcept fun _ _ => trivial).bind fun _ _ => ?_
  refine (Checks.ofExcept fun _ => id).bind fun line read => ?_
  refine (Checks.ofExcept fun _ => id).bind fun identity parsed => ?_
  have valid := parseIdentity_valid parsed
  have claimed : (Attempt.inbound peer).claimed codec platform = .ok identity := by
    simp only [Attempt.claimed, read]
    exact parsed
  refine (Checks.lift rfl).bind fun ourId _ => ?_
  refine (Checks.ofExcept fun _ _ => trivial).bind fun _ _ => ?_
  refine (tlsConnect_checks valid peer s).bind fun certificate presented => ?_
  refine (checkCertificate_checks valid certificate s).bind fun _ pinned => ?_
  exact .pure ⟨presented, claimed, fun holds => presented ▸ pinned holds⟩

/-- What dialling does. -/
def dials : ManagerAction → Prop
  | admitAttempt _ | sendReverseFallback _ => True
  | _ => False

theorem only_dial (peer : OutboundPeer) : Only (dial peer).run dials fun _ => True := by
  unfold dial
  refine ⟨trivial, fun admitted => ?_⟩
  cases admitted with
  | false => trivial
  | true =>
    cases peer.connect with
    | failed message => exact ⟨trivial, fun _ => trivial⟩
    | timedOut => exact ⟨trivial, fun _ => trivial⟩
    | connected =>
      cases peer.ownIdentity with
      | error e => trivial
      | ok =>
        cases peer.plaintextWrite with
        | error message => exact ⟨trivial, fun _ => trivial⟩
        | ok =>
          cases peer.plaintextFlush with
          | error message => exact ⟨trivial, fun _ => trivial⟩
          | ok => trivial

/-- Dialling touches none of the maps of the links and no file. -/
theorem dial_run (peer : OutboundPeer) (s : ManagerState) :
    SameMaps s (run (exec codec) (dial peer).run s).2 ∧ (run (exec codec) (dial peer).run s).2.files = s.files := by
  refine (only_dial peer).invariant (I := fun t => SameMaps s t ∧ t.files = s.files) (fun action t dials same => ?_)
    ⟨.refl s, rfl⟩
  cases action with
  | admitAttempt ip =>
    obtain ⟨maps, files⟩ := same
    simp only [exec, ManagerState.admitAttempt]
    split
    · exact ⟨maps, files⟩
    · exact ⟨⟨maps.connections, maps.generations, maps.cancelTokens, maps.peerCapabilities⟩, files⟩
  | sendReverseFallback ip => exact same
  | _ => exact absurd dials id

theorem exchange_ok {peer : OutboundPeer} {certificate : Option Bytes} {identity : Identity} {reader : BufReader}
    (exchanged : exchange codec platform peer = .ok (certificate, identity, reader)) :
    certificate = peer.certificate ∧ validateDeviceId platform identity.deviceId = .ok () ∧
      (Attempt.outbound peer).claimed codec platform = .ok identity ∧
      reader = (readLineBounded (.new peer.stream) [] maxPacketSize).reader ∧
      ∃ length, (readLineBounded (.new peer.stream) [] maxPacketSize).answer = .ok length := by
  unfold exchange at exchanged
  obtain ⟨-, -, exchanged⟩ := except_bind_ok.mp exchanged
  obtain ⟨presented, accepted, exchanged⟩ := except_bind_ok.mp exchanged
  obtain ⟨-, -, exchanged⟩ := except_bind_ok.mp exchanged
  dsimp only at exchanged
  split at exchanged
  · cases exchanged
  split at exchanged
  · cases exchanged
  obtain ⟨line, read, exchanged⟩ := except_bind_ok.mp exchanged
  obtain ⟨found, parsed, exchanged⟩ := except_bind_ok.mp exchanged
  obtain ⟨-, -, same⟩ := except_bind_ok.mp exchanged
  cases same
  refine ⟨?_, parseIdentity_valid parsed, ?_, rfl, ?_⟩
  · unfold tlsAccept at accepted
    obtain ⟨-, -, accepted⟩ := except_bind_ok.mp accepted
    split at accepted <;> cases accepted
    rfl
  · simp only [Attempt.claimed, read]
    exact parsed
  · simp only [readIdentityLine] at read
    split at read <;> cases read
    rename_i length _ answered
    exact ⟨length, answered⟩

theorem checkOutgoing_run (peer : OutboundPeer) (s : ManagerState) :
    ∃ result t, run (exec codec) (checkOutgoing codec platform peer).run s = (result, t) ∧ SameMaps s t ∧
      ∀ passed, result = .ok passed →
        Vetted codec platform (.outbound peer) s passed.2.1 ∧ exchange codec platform peer = .ok passed := by
  obtain ⟨same, files⟩ := dial_run codec peer s
  unfold checkOutgoing
  rw [run_except_bind]
  rcases dialled : run (exec codec) (dial peer).run s with ⟨e | ⟨⟩, t⟩
  · rw [dialled] at same
    exact ⟨.error e, t, rfl, same, fun _ passed => by cases passed⟩
  · rw [dialled] at same files
    have finish {program : ExceptT Error ManagerProgram (Option Bytes × Identity × BufReader)}
        (checks : Checks (exec codec) t program fun passed =>
          Vetted codec platform (.outbound peer) s passed.2.1 ∧ exchange codec platform peer = .ok passed) :
        ∃ result u, run (exec codec) program.run t = (result, u) ∧ SameMaps s u ∧ ∀ passed, result = .ok passed →
          Vetted codec platform (.outbound peer) s passed.2.1 ∧ exchange codec platform peer = .ok passed := by
      obtain ⟨result, ran, vetted⟩ := checks
      exact ⟨result, t, ran, same, vetted⟩
    refine finish ((Checks.ofExcept fun _ => id).bind fun passed exchanged => ?_)
    obtain ⟨certificate, identity, reader⟩ := passed
    obtain ⟨presented, valid, claimed, -⟩ := exchange_ok codec platform exchanged
    refine (checkCertificate_checks valid certificate t).bind fun _ pinned => ?_
    rw [files, presented] at pinned
    exact .pure ⟨⟨claimed, pinned⟩, exchanged⟩

/-- What the registration of a link does, for its device. -/
def registers (d : DeviceId) : ManagerAction → Prop
  | recordCapabilities e _ | registerIncoming e _ _ | bumpGeneration e | getConnection e | insertConnection e _ _ _
  | cancelLoop e | removeCancelToken e => e = d
  | shutdownWrite _ | connectedDeviceIds | retainGenerations _ => True
  | _ => False

theorem only_recordPeerCapabilities (d : DeviceId) (incoming outgoing : List String) :
    (recordPeerCapabilities d incoming outgoing).Only (registers d) fun _ => True := by
  unfold recordPeerCapabilities
  split
  · trivial
  · exact ⟨rfl, fun _ => trivial⟩

theorem only_stopReplaced (d : DeviceId) (old : Link) : (stopReplaced d old).Only (registers d) fun _ => True :=
  ⟨rfl, fun _ => ⟨rfl, fun _ => ⟨trivial, fun _ => trivial⟩⟩⟩

theorem only_registerInbound (identity : Identity) (peerCert : Option Bytes) (stream : BufReader) :
    Only (registerInbound identity peerCert stream).run (registers identity.deviceId) fun _ => True := by
  unfold registerInbound
  rw [only_except_bind, only_except_lift]
  refine (only_recordPeerCapabilities ..).followedBy fun _ => ⟨rfl, fun result => ?_⟩
  rcases result with e | ⟨generation, evicted⟩
  · trivial
  · cases evicted with
    | none => trivial
    | some old =>
      refine (only_except_bind ..).mpr ((only_except_lift ..).mpr ?_)
      exact (only_stopReplaced ..).followedBy fun _ => trivial

theorem only_registerOutbound (identity : Identity) (peerCert : Option Bytes) (stream : BufReader) :
    (registerOutbound identity peerCert stream).Only (registers identity.deviceId) fun _ => True := by
  have inserts (generation : UInt64) : Only (do
      perform (insertConnection identity.deviceId generation peerCert stream)
      cleanupStaleGenerations
      return generation : ManagerProgram UInt64) (registers identity.deviceId) fun _ => True :=
    ⟨rfl, fun _ => ⟨trivial, fun _ => ⟨trivial, fun _ => trivial⟩⟩⟩
  unfold registerOutbound
  rw [only_bind]
  refine (only_recordPeerCapabilities ..).followedBy fun _ => ⟨rfl, fun generation => ⟨rfl, fun found => ?_⟩⟩
  cases found with
  | none => exact inserts generation
  | some old =>
    refine (only_bind ..).mpr ((only_stopReplaced ..).followedBy fun _ => ?_)
    exact inserts generation

/-- Registering a link leaves the links of the other devices alone. -/
theorem registers_others {d : DeviceId} {action : ManagerAction} (registers : registers d action) (s : ManagerState)
    {e : DeviceId} (other : e ≠ d) : (action.exec codec s).2.connections.lookup e = s.connections.lookup e := by
  cases action with
  | registerIncoming d' peerCert stream =>
    obtain rfl : d' = d := registers
    simp only [exec, ManagerState.registerIncoming]
    split
    · rfl
    · exact AList.lookup_insert_ne other
  | insertConnection d' generation peerCert stream =>
    obtain rfl : d' = d := registers
    exact AList.lookup_insert_ne other
  | cancelLoop d' =>
    simp only [exec]
    split <;> rfl
  | recordCapabilities | bumpGeneration | getConnection | removeCancelToken | shutdownWrite | connectedDeviceIds
  | retainGenerations => rfl
  | _ => exact absurd registers id

/-- An attempt is refused and leaves the maps as they were, or it ends for the
identity that the checks passed and touches the link of no other device. -/
def Concluded (attempt : Attempt) (s : ManagerState) (ended : Except Error (DeviceId × Identity × UInt64) × ManagerState) :
    Prop :=
  (∃ e, ended.1 = .error e) ∧ SameMaps s ended.2 ∨
    ∃ identity, Vetted codec platform attempt s identity ∧
      (∀ d registered generation, ended.1 = .ok (d, registered, generation) → d = identity.deviceId) ∧
      ∀ d ≠ identity.deviceId, ended.2.connections.lookup d = s.connections.lookup d

variable {codec platform} in
theorem Concluded.registered {attempt : Attempt} {s s' : ManagerState} {identity : Identity}
    (vetted : Vetted codec platform attempt s identity) (same : SameMaps s s')
    (register : ExceptT Error ManagerProgram UInt64)
    (only : Only register.run (registers identity.deviceId) fun _ => True) :
    Concluded codec platform attempt s (run (exec codec) (do
      let generation ← register
      return (identity.deviceId, identity, generation) : ExceptT Error ManagerProgram _).run s') := by
  have others := only.invariant (I := fun t => ∀ d ≠ identity.deviceId, t.connections.lookup d = s.connections.lookup d)
    (fun action t registers kept d other => (registers_others codec registers t other).trans (kept d other))
    (fun d _ => by rw [same.connections])
  refine .inr ⟨identity, vetted, ?_⟩
  rw [run_except_bind]
  rcases ran : run (exec codec) register.run s' with ⟨_ | generation, after⟩
  · rw [ran] at others
    exact ⟨nofun, others⟩
  · rw [ran] at others
    refine ⟨fun d registered generation ended => ?_, others⟩
    cases ended
    rfl

theorem attempt_concluded (attempt : Attempt) (s : ManagerState) :
    Concluded codec platform attempt s (run (exec codec) (attempt.program codec platform).run s) := by
  cases attempt with
  | inbound peer =>
    obtain ⟨result, ran, vetted⟩ := checkIncoming_checks codec platform peer s
    unfold Attempt.program acceptIncoming
    rw [run_except_bind, ran]
    rcases result with e | ⟨peerCert, identity⟩
    · exact .inl ⟨⟨e, rfl⟩, .refl s⟩
    · exact .registered (vetted _ rfl).2 (.refl s) _ (only_registerInbound ..)
  | outbound peer =>
    obtain ⟨result, t, ran, same, vetted⟩ := checkOutgoing_run codec platform peer s
    unfold Attempt.program connectToDevice
    rw [run_except_bind, ran]
    rcases result with e | ⟨peerCert, identity, reader⟩
    · exact .inl ⟨⟨e, rfl⟩, same⟩
    · refine .registered (vetted _ rfl).1 same (liftM (registerOutbound ..)) ?_
      exact (only_except_lift ..).mpr (only_registerOutbound ..)

/-- In both roles a link is registered for a pinned device only when the peer
has presented the pinned certificate under the device's name; an attempt in
the name of a pinned device that has not is refused and leaves every map as it was. -/
theorem pin_enforced (attempt : Attempt) (s : ManagerState) :
    (∀ d, HoldsFingerprint platform s.files d →
      (∃ identity generation, (run (exec codec) (attempt.program codec platform).run s).1 =
          .ok (d, identity, generation)) ∨
        (run (exec codec) (attempt.program codec platform).run s).2.connections.lookup d ≠ s.connections.lookup d →
      PresentsPinned platform s.files d attempt.certificate) ∧
    ∀ identity, attempt.claimed codec platform = .ok identity → HoldsFingerprint platform s.files identity.deviceId →
      ¬PresentsPinned platform s.files identity.deviceId attempt.certificate →
      (∃ e, (run (exec codec) (attempt.program codec platform).run s).1 = .error e) ∧
        SameMaps s (run (exec codec) (attempt.program codec platform).run s).2 := by
  rcases attempt_concluded codec platform attempt s with ⟨⟨e, refused⟩, same⟩ | ⟨vetted, ⟨claims, pinned⟩, named, others⟩
  · refine ⟨fun d _ registered => ?_, fun _ _ _ _ => ⟨⟨e, refused⟩, same⟩⟩
    rcases registered with ⟨identity, generation, ended⟩ | changed
    · rw [refused] at ended
      cases ended
    · exact absurd (congrArg (AList.lookup d) same.connections) changed
  · refine ⟨fun d holds registered => ?_, fun identity claimed holds unpresented => ?_⟩
    · obtain rfl : d = vetted.deviceId := by
        rcases registered with ⟨identity, generation, ended⟩ | changed
        · exact named d identity generation ended
        · exact not_imp_comm.mp (others d) changed
      exact pinned holds
    · obtain rfl : vetted = identity := Except.ok.inj (claims.symm.trans claimed)
      exact absurd (pinned holds) unpresented

end RustConnect
