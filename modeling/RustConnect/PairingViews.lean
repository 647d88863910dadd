import RustConnect.PendingRequests

namespace RustConnect

open Program PairingAction CertificateManager

/-- `hex::encode_upper`. -/
def hexEncodeUpper (bytes : Bytes) : String := String.ofList ((hexEncode bytes).toList.map Char.toUpper)

/-- `Path::display`, without the directory. -/
def Path.display : Path → String
  | cert name | data name => name

namespace CertificateManager

def ownCertPath : Path := .cert "own.crt"

def ownKeyPath : Path := .cert "own.key"

variable (platform : Platform) (publicKey : Bytes → Except String Bytes)

def loadOwnCertificate : ExceptT Error FileProgram (FileContent × FileContent) := do
  let some certPem ← FileProgram.read ownCertPath
    | throw (.internal s!"Failed to read own certificate: {ownCertPath.display}")
  let some keyPem ← FileProgram.read ownKeyPath
    | throw (.internal s!"Failed to read own key: {ownKeyPath.display}")
  return (certPem, keyPem)

def loadPeerCertificatePem (deviceId : DeviceId) : ExceptT Error FileProgram FileContent := do
  let path ← peerCertPath platform deviceId
  if !(← FileProgram.pathExists path) then
    throw (.notFound s!"Peer certificate not found: {path.display}")
  let some pem ← FileProgram.read path
    | throw (.internal s!"Failed to read peer certificate: {path.display}")
  return pem

/-- `pem_to_der`: a file without a certificate block decodes to no bytes. -/
def pemToDer : FileContent → Bytes
  | .pem der => der
  | _ => []

/-- `extract_pubkey_der`, where `publicKey` parses a certificate and gives the
DER of its subject public key info. -/
def extractPubkeyDer (certDer : Bytes) : Except Error Bytes :=
  (publicKey certDer).mapError fun message => .certificateError s!"Failed to parse DER certificate: {message}"

/-- The larger key, as unsigned bytes, comes first. -/
def computeVerificationKey (ourPubkeyDer peerPubkeyDer : Bytes) (timestamp : Int) : String :=
  let input := if peerPubkeyDer < ourPubkeyDer then ourPubkeyDer ++ peerPubkeyDer else peerPubkeyDer ++ ourPubkeyDer
  hexEncodeUpper ((platform.sha256 (input ++ (toString timestamp).toByteArray.data.toList)).take 4)

end CertificateManager

namespace PairingHandler

variable (platform : Platform) (publicKey : Bytes → Except String Bytes)

def hasPendingRequest (deviceId : DeviceId) : PairingProgram Bool := do
  if let some request ← perform (requestGet .outgoing deviceId) then
    if !(← isExpired request) then
      return true
  if let some request ← perform (requestGet .incoming deviceId) then
    return !(← isExpired request)
  return false

def pendingOutgoingTimestamp (deviceId : DeviceId) : PairingProgram (Option Int) := do
  match ← perform (requestGet .outgoing deviceId) with
  | some request =>
    if ← isExpired request then return none
    return some request.pairTimestamp
  | none => return none

def hasIncomingRequest (deviceId : DeviceId) : PairingProgram Bool := do
  match ← perform (requestGet .incoming deviceId) with
  | some request => return !(← isExpired request)
  | none => return false

/-- The timestamp a request lends to the key: none when it is expired, or when
the peer sent none and it is the sentinel 0. -/
def keyTimestamp (request : PairingRequest) : PairingProgram (Option Int) := do
  if ← isExpired request then return none
  return if request.pairTimestamp = 0 then none else some request.pairTimestamp

/-- The first block of `get_verification_key`: an incoming request is only
looked at when there is no entry for an outgoing one. -/
def verificationTimestamp (deviceId : DeviceId) : PairingProgram (Option Int) := do
  match ← perform (requestGet .outgoing deviceId) with
  | some request => keyTimestamp request
  | none =>
    match ← perform (requestGet .incoming deviceId) with
    | some request => keyTimestamp request
    | none => return none

/-- The staged certificate of the peer, or else the stored one. -/
def peerCertificate (deviceId : DeviceId) : ExceptT Error PairingProgram Bytes := do
  match ← perform (certGet deviceId) with
  | some der => return der
  | none => ExceptT.mk (onFiles (pemToDer <$> loadPeerCertificatePem platform deviceId).run)

def getVerificationKey (deviceId : DeviceId) : ExceptT Error PairingProgram (Option String) := do
  let some pairTimestamp ← verificationTimestamp deviceId | return none
  let peerCertDer ← peerCertificate platform deviceId
  let ourCertDer ← ExceptT.mk (onFiles ((fun pems => pemToDer pems.1) <$> loadOwnCertificate).run)
  let ourPubkey ← extractPubkeyDer publicKey ourCertDer
  let peerPubkey ← extractPubkeyDer publicKey peerCertDer
  return some (computeVerificationKey platform ourPubkey peerPubkey pairTimestamp)

variable {platform publicKey} {s : PairingState} {d : DeviceId}

theorem run_hasPendingRequest : run exec (hasPendingRequest d) s =
    ((s.outgoing.lookup d).any (!·.expiredAt s.now) || (s.incoming.lookup d).any (!·.expiredAt s.now), s) := by
  cases outgoing : s.outgoing.lookup d with
  | none =>
    cases incoming : s.incoming.lookup d <;>
      simp [hasPendingRequest, exec, PairingState.queue, outgoing, incoming]
  | some request =>
    cases expired : request.expiredAt s.now with
    | false => simp [hasPendingRequest, exec, PairingState.queue, outgoing, expired]
    | true =>
      cases incoming : s.incoming.lookup d <;>
        simp [hasPendingRequest, exec, PairingState.queue, outgoing, expired, incoming]

theorem run_pendingOutgoingTimestamp : run exec (pendingOutgoingTimestamp d) s =
    (((s.outgoing.lookup d).filter (!·.expiredAt s.now)).map PairingRequest.pairTimestamp, s) := by
  cases outgoing : s.outgoing.lookup d with
  | none => simp [pendingOutgoingTimestamp, exec, PairingState.queue, outgoing]
  | some request =>
    cases expired : request.expiredAt s.now <;>
      simp [pendingOutgoingTimestamp, exec, PairingState.queue, outgoing, expired, Option.filter_some]

theorem run_hasIncomingRequest : run exec (hasIncomingRequest d) s =
    ((s.incoming.lookup d).any (!·.expiredAt s.now), s) := by
  cases incoming : s.incoming.lookup d <;> simp [hasIncomingRequest, exec, PairingState.queue, incoming]

variable (d) in
/-- The request whose entry `get_verification_key` looks at. -/
theorem run_verificationTimestamp : run exec (verificationTimestamp d) s =
    (((s.outgoing.lookup d).or (s.incoming.lookup d)).bind fun request =>
      if request.expiredAt s.now = true ∨ request.pairTimestamp = 0 then none else some request.pairTimestamp, s) := by
  have looked (request : PairingRequest) : run exec (keyTimestamp request) s =
      (if request.expiredAt s.now = true ∨ request.pairTimestamp = 0 then none else some request.pairTimestamp, s) := by
    cases expired : request.expiredAt s.now <;> simp [keyTimestamp, expired]
  cases outgoing : s.outgoing.lookup d with
  | some request => simp [verificationTimestamp, exec, PairingState.queue, outgoing, looked]
  | none =>
    cases incoming : s.incoming.lookup d <;>
      simp [verificationTimestamp, exec, PairingState.queue, outgoing, incoming, looked]

end PairingHandler

/-- What the key of a device is computed from: a certificate of the peer that is
staged or stored, our own certificate, and the public keys in them. -/
structure KeyMaterial (platform : Platform) (publicKey : Bytes → Except String Bytes) (s : PairingState) (d : DeviceId)
    (ourPubkey peerPubkey : Bytes) : Prop where
  peer : ∃ der, publicKey der = .ok peerPubkey ∧ (s.pendingCerts.lookup d = some der ∨ s.pendingCerts.lookup d = none ∧
    ∃ path, peerCertPath platform d = .ok path ∧ s.files.lookup path = some (.pem der))
  own : ∃ der key, publicKey der = .ok ourPubkey ∧ s.files.lookup ownCertPath = some (.pem der) ∧
    s.files.lookup ownKeyPath = some key

namespace PairingHandler

variable {platform : Platform} {publicKey : Bytes → Except String Bytes} {s : PairingState} {d : DeviceId}
  {ourPubkey peerPubkey : Bytes}

theorem run_peerCertificate (material : KeyMaterial platform publicKey s d ourPubkey peerPubkey) :
    ∃ der, publicKey der = .ok peerPubkey ∧ run exec (peerCertificate platform d).run s = (.ok der, s) := by
  obtain ⟨der, key, staged | ⟨unstaged, path, known, stored⟩⟩ := material.peer
  · exact ⟨der, key, by simp [peerCertificate, exec, staged]⟩
  · refine ⟨der, key, ?_⟩
    simp [peerCertificate, exec, unstaged, loadPeerCertificatePem, known, stored, pemToDer, Except.map]

theorem run_getVerificationKey (material : KeyMaterial platform publicKey s d ourPubkey peerPubkey) :
    run exec (getVerificationKey platform publicKey d).run s =
      (.ok ((run exec (verificationTimestamp d) s).1.map (computeVerificationKey platform ourPubkey peerPubkey)), s) := by
  obtain ⟨peerDer, peerKey, peer⟩ := run_peerCertificate material
  obtain ⟨ownDer, key, ownKey, cert, keyFile⟩ := material.own
  have looked : (run exec (verificationTimestamp d) s).2 = s := by rw [run_verificationTimestamp]
  unfold getVerificationKey
  rw [run_except_bind, run_except_lift]
  rcases ran : run exec (verificationTimestamp d) s with ⟨_ | stamp, t⟩
  · rw [ran] at looked
    cases looked
    rfl
  · rw [ran] at looked
    cases looked
    simp [peer, loadOwnCertificate, cert, keyFile, pemToDer, extractPubkeyDer, ownKey, peerKey, Except.mapError,
      Except.map]

end PairingHandler

namespace PairingState

variable {s : PairingState} {d : DeviceId}

/-- What the readers other than the key say of a device, as they should. -/
structure ViewsAgree (s : PairingState) (d : DeviceId) : Prop where
  pending : (run exec (PairingHandler.hasPendingRequest d) s).1 = true ↔
    ∃ q request, (s.queue q).lookup d = some request ∧ request.expiredAt s.now = false
  requested : s.paired.lookup d = none → ((run exec (PairingHandler.pairState d) s).1 = .requested ↔
    (run exec (PairingHandler.pendingOutgoingTimestamp d) s).1.isSome)
  requestedByPeer : s.paired.lookup d = none → ((run exec (PairingHandler.pairState d) s).1 = .requestedByPeer ↔
    (run exec (PairingHandler.pendingOutgoingTimestamp d) s).1 = none ∧
      (run exec (PairingHandler.hasIncomingRequest d) s).1 = true)
  notPaired : s.paired.lookup d = none → ((run exec (PairingHandler.pairState d) s).1 = .notPaired ↔
    (run exec (PairingHandler.pendingOutgoingTimestamp d) s).1 = none ∧
      (run exec (PairingHandler.hasIncomingRequest d) s).1 = false)

theorem views_agree (s : PairingState) (d : DeviceId) : s.ViewsAgree d := by
  have live (requests : Option PairingRequest) :
      (requests.any fun request => !request.expiredAt s.now) = true ↔
        ∃ request, requests = some request ∧ request.expiredAt s.now = false := by
    simp [Option.any_eq_true]
  have outgoing : ((run exec (PairingHandler.pendingOutgoingTimestamp d) s).1).isSome =
      (s.outgoing.lookup d).any (!·.expiredAt s.now) := by
    rw [PairingHandler.run_pendingOutgoingTimestamp]
    simp [Option.isSome_filter]
  have absent : (run exec (PairingHandler.pendingOutgoingTimestamp d) s).1 = none ↔
      (s.outgoing.lookup d).any (!·.expiredAt s.now) = false := by
    rw [← outgoing]
    simp
  constructor
  · rw [PairingHandler.run_hasPendingRequest, Bool.or_eq_true, live, live]
    constructor
    · rintro (⟨request, found, alive⟩ | ⟨request, found, alive⟩)
      · exact ⟨.outgoing, request, found, alive⟩
      · exact ⟨.incoming, request, found, alive⟩
    · rintro ⟨_ | _, request, found, alive⟩
      · exact .inl ⟨request, found, alive⟩
      · exact .inr ⟨request, found, alive⟩
  all_goals
    intro unpaired
    rw [PairingHandler.run_pairState]
    simp only [outgoing, absent, PairingHandler.run_hasIncomingRequest, pairStateOf, unpaired]
    cases (s.outgoing.lookup d).any (!·.expiredAt s.now) <;> cases (s.incoming.lookup d).any (!·.expiredAt s.now) <;> simp

/-- The request `pair_state` goes by. -/
def Shows (s : PairingState) (d : DeviceId) (request : PairingRequest) : Prop :=
  (run exec (PairingHandler.pairState d) s).1 = .requested ∧ s.outgoing.lookup d = some request ∨
    (run exec (PairingHandler.pairState d) s).1 = .requestedByPeer ∧ s.incoming.lookup d = some request

/-- A live incoming request stands behind an outgoing one that is expired but not swept. -/
def Hidden (s : PairingState) (d : DeviceId) : Prop :=
  (∃ request, s.outgoing.lookup d = some request ∧ request.expiredAt s.now = true) ∧
    ∃ request, s.incoming.lookup d = some request ∧ request.expiredAt s.now = false

theorem shows_cases {request : PairingRequest} (shown : s.Shows d request) : request.expiredAt s.now = false ∧
    (s.outgoing.lookup d = some request ∨ s.incoming.lookup d = some request ∧
      ∀ entry, s.outgoing.lookup d = some entry → entry.expiredAt s.now = true) := by
  unfold Shows at shown
  rw [PairingHandler.run_pairState] at shown
  rcases shown with ⟨requested, found⟩ | ⟨requested, found⟩
  · obtain ⟨entry, same, alive⟩ := PairingHandler.requested_live requested
    obtain rfl : entry = request := Option.some.inj (same.symm.trans found)
    exact ⟨alive, .inl found⟩
  · unfold pairStateOf at requested
    simp only [found] at requested
    split at requested
    · cases requested
    · split at requested
      · cases requested
      · rename_i dead
        split at requested
        · rename_i alive
          refine ⟨by simpa using alive, .inr ⟨found, fun entry present => ?_⟩⟩
          simpa [present] using dead
        · cases requested

/-- The key a device shows is that of the request `pair_state` goes by, exactly
when no expired request of ours stands in front of it. -/
theorem key_of_shown_iff {platform : Platform} {publicKey : Bytes → Except String Bytes} {ourPubkey peerPubkey : Bytes}
    {request : PairingRequest} (shown : s.Shows d request) (stamped : request.pairTimestamp ≠ 0)
    (material : KeyMaterial platform publicKey s d ourPubkey peerPubkey) :
    (run exec (PairingHandler.getVerificationKey platform publicKey d).run s).1 =
        .ok (some (computeVerificationKey platform ourPubkey peerPubkey request.pairTimestamp)) ↔ ¬s.Hidden d := by
  obtain ⟨alive, shownBy⟩ := shows_cases shown
  rw [PairingHandler.run_getVerificationKey material, PairingHandler.run_verificationTimestamp]
  rcases shownBy with found | ⟨found, others⟩
  · have visible : ¬s.Hidden d := by
      rintro ⟨⟨entry, present, expired⟩, -⟩
      obtain rfl : entry = request := Option.some.inj (present.symm.trans found)
      rw [alive] at expired
      cases expired
    simp [found, alive, stamped, visible]
  · cases outgoing : s.outgoing.lookup d with
    | none =>
      have visible : ¬s.Hidden d := by
        rintro ⟨⟨entry, present, -⟩, -⟩
        rw [outgoing] at present
        cases present
      simp [found, alive, stamped, visible]
    | some entry =>
      have expired := others entry outgoing
      have hidden : s.Hidden d := ⟨⟨entry, outgoing, expired⟩, request, found, alive⟩
      simp [expired, hidden]

/-- The requests of a device run out in the order in which `get_verification_key`
needs them: one that came in before ours is no longer live when ours has run out. -/
structure Ordered (settings : PairingSettings) (s : PairingState) (d : DeviceId) : Prop where
  received : ∀ request, s.incoming.lookup d = some request →
    request.createdAt ≤ s.now ∧ request.timeout = settings.acceptTimeout
  ordered : ∀ ours theirs, s.outgoing.lookup d = some ours → s.incoming.lookup d = some theirs →
    theirs.createdAt + theirs.timeout ≤ ours.createdAt + ours.timeout

theorem Ordered.visible {settings : PairingSettings} (ordered : Ordered settings s d) : ¬s.Hidden d := by
  rintro ⟨⟨ours, mine, expired⟩, theirs, received, alive⟩
  have order := ordered.ordered ours theirs mine received
  unfold PairingRequest.expiredAt at expired alive
  simp only [decide_eq_true_eq, decide_eq_false_iff_not] at expired alive
  exact alive (Int.lt_of_le_of_lt order expired)

end PairingState

namespace PairingHandler

variable {platform : Platform} {settings : PairingSettings} {s t : PairingState} {d : DeviceId}

theorem exec_now (action : PairingAction) (s : PairingState) : (action.exec s).2.now = s.now := by
  cases action with
  | requestInsert q e request => cases q <;> rfl
  | requestRemove q e => cases q <;> rfl
  | requestRetain q => cases q <;> rfl
  | _ => rfl

/-- Requests that are gone or as they were are still in order. -/
theorem ordered_of_kept (ordered : s.Ordered settings d) (clock : t.now = s.now)
    (kept : ∀ q, (t.queue q).lookup d = none ∨ (t.queue q).lookup d = (s.queue q).lookup d) : t.Ordered settings d := by
  have back (q : Queue) (request : PairingRequest) (found : (t.queue q).lookup d = some request) :
      (s.queue q).lookup d = some request := by
    rcases kept q with gone | same
    · rw [gone] at found
      cases found
    · exact same.symm.trans found
  refine ⟨fun request found => ?_, fun ours theirs mine received => ?_⟩
  · rw [clock]
    exact ordered.received request (back .incoming request found)
  · exact ordered.ordered ours theirs (back .outgoing ours mine) (back .incoming theirs received)

theorem ordered_exec {action : PairingAction} (other : ∀ q request, action ≠ requestInsert q d request)
    (ordered : s.Ordered settings d) : (action.exec s).2.Ordered settings d :=
  ordered_of_kept ordered (exec_now action s) fun q => request_kept (other q) s

theorem ordered_of_only {α : Type} {program : PairingProgram α} {P : PairingAction → Prop} {Q : α → Prop}
    (only : program.Only P Q) (noRequest : ∀ q request, ¬P (requestInsert q d request)) (ordered : s.Ordered settings d) :
    (run exec program s).2.Ordered settings d :=
  only.invariant (I := fun t : PairingState => t.Ordered settings d)
    (fun _ _ inside => ordered_exec fun q request same => noRequest q request (same ▸ inside)) ordered

theorem ordered_sweep (ordered : s.Ordered settings d) : s.sweep.Ordered settings d := by
  have swept := ordered_of_only only_cleanupExpired (fun _ _ => id) ordered
  rwa [run_cleanupExpired] at swept

theorem ordered_initiate (longer : settings.acceptTimeout ≤ settings.timeout) (ordered : s.Ordered settings d) :
    (run exec (initiatePairing settings d).run s).2.Ordered settings d := by
  rcases run_initiatePairing settings d s with ⟨e, -, same | same⟩ | ⟨-, -, done⟩
  · rwa [same]
  · rw [same]
    exact ordered_sweep ordered
  · rw [done]
    obtain ⟨received, -⟩ := ordered_sweep ordered
    refine ⟨received, fun ours theirs mine theirsFound => ?_⟩
    obtain rfl : ours = ⟨d, s.now, settings.timeout, timestamp s.now⟩ := by
      simpa [AList.lookup_insert, eq_comm] using mine
    obtain ⟨earlier, short⟩ := received theirs theirsFound
    rw [short]
    exact Int.add_le_add earlier longer

theorem ordered_receive {stamp : Option Int} {certDer : Option Bytes} (ordered : s.Ordered settings d) :
    (run exec (receivePairRequestWithCert platform settings d stamp certDer).run s).2.Ordered settings d := by
  have arrived : (admissionState platform settings d s).Ordered settings d := by
    unfold admissionState
    split
    · exact ordered_sweep (ordered_of_only (only_unpair platform settings d) (fun _ _ => id) ordered)
    · exact ordered_sweep ordered
  by_cases own : s.ownDeviceId = some d
  · simpa [receivePairRequestWithCert, own] using ordered
  · rw [run_receivePairRequest platform settings own]
    cases found : (admissionState platform settings d s).outgoing.lookup d with
    | some request =>
      rw [run_admit_auto platform settings (by rw [found]; rfl)]
      refine ordered_of_only (only_acceptPairing platform settings d) (fun _ _ => id) ?_
      refine ordered_of_kept arrived ?_ fun q => .inr ?_
      · cases certDer <;> rfl
      · cases certDer <;> cases q <;> rfl
    | none =>
      obtain ⟨result, requests, certs, ran, inserted⟩ := run_admit_quiet platform settings stamp certDer found
      rw [ran]
      refine ⟨fun request present => ?_, fun ours theirs mine _ => ?_⟩
      · rcases inserted with same | ⟨-, same⟩
        · rw [same] at present
          exact arrived.received request present
        · rw [same, AList.lookup_insert] at present
          cases present
          exact ⟨Int.le_refl _, rfl⟩
      · rw [found] at mine
        cases mine

end PairingHandler

namespace PairingOp

open PairingHandler

variable {platform : Platform} {settings : PairingSettings} {s : PairingState} {d : DeviceId}

theorem ordered_call {call : LocalCall} (longer : settings.acceptTimeout ≤ settings.timeout)
    (ordered : s.Ordered settings d) : ((asks call).leaves platform settings s).Ordered settings d := by
  have other (noRequest : ∀ q request, ¬call.footprint (requestInsert q d request)) :
      ((asks call).leaves platform settings s).Ordered settings d :=
    ordered_of_only (call.only_footprint platform settings) noRequest ordered
  cases call with
  | initiatePairing e =>
    by_cases same : e = d
    · subst same
      rw [leaves_initiate]
      exact ordered_initiate longer ordered
    · exact other fun _ _ inside => same inside.2.symm
  | setPendingPeerCert e certDer => exact other nofun
  | _ => exact other fun _ _ => id

theorem ordered_step {op : PairingOp} {journal : Journal} (longer : settings.acceptTimeout ≤ settings.timeout)
    (onward : 0 ≤ op.elapsed) (ordered : journal.state.Ordered settings d) :
    (op.step platform settings journal).state.Ordered settings d := by
  have left : (op.leaves platform settings journal.state).Ordered settings d := by
    cases op with
    | asks call => exact ordered_call longer ordered
    | receive e stamp certDer =>
      by_cases same : e = d
      · subst same
        exact ordered_receive ordered
      · refine ordered_of_only (only_receivePairRequest platform settings e stamp certDer) (fun q request => ?_) ordered
        rintro (inside | inside | inside)
        · exact inside
        · exact inside
        · exact same inside.2.symm
    | advance duration => exact ordered
  refine ⟨fun request found => ?_, left.ordered⟩
  obtain ⟨earlier, short⟩ := left.received request found
  exact ⟨Int.le_trans earlier (Int.le_add_of_nonneg_right onward), short⟩

end PairingOp

namespace PendingHistory

open History

variable {platform : Platform} {settings : PairingSettings} {start : PairingState} {ops : List PairingOp}

theorem ordered_throughout (longer : settings.acceptTimeout ≤ settings.timeout) (onward : ∀ op ∈ ops, 0 ≤ op.elapsed)
    (quiet : start.outgoing = ∅ ∧ start.incoming = ∅) (k : Nat) (d : DeviceId) :
    (atOp platform settings start ops k).Ordered settings d := by
  refine invariant (I := fun journal : Journal => journal.state.Ordered settings d) ?_
    (fun op member journal ordered => PairingOp.ordered_step longer (onward op member) ordered) k
  exact ⟨by simp [quiet], by simp [quiet]⟩

/-- The pairing views. In every state reached, the readers of the request maps
agree, and the key shown is that of the request `pair_state` goes by exactly
when no expired outgoing request hides it; where requests that come in run out
no later than ours, none is ever hidden. -/
theorem views_agree_iff (platform : Platform) (publicKey : Bytes → Except String Bytes) (settings : PairingSettings)
    (own : Option DeviceId) (paired : Table DeviceId Time) (files : Files) (now : Time) (ops : List PairingOp) (k : Nat)
    (d : DeviceId) :
    (atOp platform settings (restarted own paired files now) ops k).ViewsAgree d ∧
    (∀ request ourPubkey peerPubkey, (atOp platform settings (restarted own paired files now) ops k).Shows d request →
      request.pairTimestamp ≠ 0 →
      KeyMaterial platform publicKey (atOp platform settings (restarted own paired files now) ops k) d ourPubkey peerPubkey →
      ((run exec (PairingHandler.getVerificationKey platform publicKey d).run
          (atOp platform settings (restarted own paired files now) ops k)).1 =
        .ok (some (computeVerificationKey platform ourPubkey peerPubkey request.pairTimestamp)) ↔
      ¬(atOp platform settings (restarted own paired files now) ops k).Hidden d)) ∧
    (settings.acceptTimeout ≤ settings.timeout → (∀ op ∈ ops, 0 ≤ op.elapsed) →
      ¬(atOp platform settings (restarted own paired files now) ops k).Hidden d) := by
  refine ⟨PairingState.views_agree _ d, fun request ourPubkey peerPubkey shown stamped material => ?_, fun longer onward => ?_⟩
  · exact PairingState.key_of_shown_iff shown stamped material
  · exact (ordered_throughout longer onward ⟨rfl, rfl⟩ k d).visible

/-- The certificate directory with our own certificate in it. -/
def ownFiles : Files :=
  AList.insert ownCertPath (.pem [0x30, 0x01, 0x00]) (AList.insert ownKeyPath (.text "key") ∅)

/-- The public keys of our certificate and of the phone's. -/
def samplePublicKey (certDer : Bytes) : Except String Bytes :=
  if certDer = [0x30, 0x00] then .ok [0x02] else if certDer = [0x30, 0x01, 0x00] then .ok [0x01] else .error "invalid"

/-- A phone asks to pair, the user asks it back with a request that runs out sooner, and a second goes by. -/
def hiddenOps : List PairingOp :=
  [.receive samplePhone (some 5) (some [0x30, 0x00]), .asks (.initiatePairing samplePhone), .advance (seconds 1)]

def hastySettings : PairingSettings := { timeout := 400000000 }

theorem sample_material {s : PairingState} (staged : s.pendingCerts.lookup samplePhone = some [0x30, 0x00])
    (cert : s.files.lookup ownCertPath = some (.pem [0x30, 0x01, 0x00])) (key : s.files.lookup ownKeyPath = some (.text "key")) :
    KeyMaterial samplePlatform samplePublicKey s samplePhone [0x01] [0x02] :=
  ⟨⟨[0x30, 0x00], rfl, .inl staged⟩, ⟨[0x30, 0x01, 0x00], .text "key", rfl, cert, key⟩⟩

/-- Before the user asks back, the key is that of the phone's request. -/
theorem key_shown :
    (run exec (PairingHandler.getVerificationKey samplePlatform samplePublicKey samplePhone).run
        (atOp samplePlatform {} (restarted none ∅ ownFiles 0) hiddenOps 1)).1 =
      .ok (some (computeVerificationKey samplePlatform [0x01] [0x02] 5)) := by
  have shown : (atOp samplePlatform {} (restarted none ∅ ownFiles 0) hiddenOps 1).Shows samplePhone
      ⟨samplePhone, 0, seconds 25, 5⟩ := .inr ⟨by decide +kernel, by decide +kernel⟩
  have material := sample_material (s := atOp samplePlatform {} (restarted none ∅ ownFiles 0) hiddenOps 1)
    (by decide +kernel) (by decide +kernel) (by decide +kernel)
  obtain ⟨-, keyed, visible⟩ := views_agree_iff samplePlatform samplePublicKey {} none ∅ ownFiles 0 hiddenOps 1 samplePhone
  exact (keyed _ _ _ shown (by decide) material).mpr (visible (by decide) (by decide))

theorem key_hidden :
    (atOp samplePlatform hastySettings (restarted none ∅ ownFiles 0) hiddenOps 3).Shows samplePhone ⟨samplePhone, 0, seconds 25, 5⟩ ∧
      KeyMaterial samplePlatform samplePublicKey (atOp samplePlatform hastySettings (restarted none ∅ ownFiles 0) hiddenOps 3)
        samplePhone [0x01] [0x02] ∧
      (run exec (PairingHandler.getVerificationKey samplePlatform samplePublicKey samplePhone).run
        (atOp samplePlatform hastySettings (restarted none ∅ ownFiles 0) hiddenOps 3)).1 ≠
        .ok (some (computeVerificationKey samplePlatform [0x01] [0x02] 5)) := by
  refine ⟨.inr ⟨by decide +kernel, by decide +kernel⟩, sample_material (by decide +kernel) (by decide +kernel)
    (by decide +kernel), ?_⟩
  decide +kernel

end PendingHistory

end RustConnect
