import RustConnect.Pairing
import RustConnect.CertificateFiles

namespace RustConnect

open CertificateManager

namespace PairingAction

/-- The actions that change nothing. -/
def looks : PairingAction → Prop
  | ownDeviceId | now | requestGet _ _ | requestLen _ | pairedContains _ | pairedSnapshot | certGet _ | broadcast _ =>
    True
  | file (.exists _) | file (.read _) => True
  | _ => False

example (path : Path) : looks (file (.exists path)) := by simp [looks]

/-- The file operations of `save_to_disk`. -/
def saves : FileAction → Prop
  | .write path _ => path = pairedTempPath
  | .rename source target => source = pairedTempPath ∧ target = pairedPath
  | .exists _ | .read _ => True
  | .remove _ => False

/-- What `cleanup_expired` does. -/
def sweeps : PairingAction → Prop
  | requestRetain _ | certRemoveAll _ => True
  | action => action.looks

/-- The file operations of `store_peer_certificate`. -/
def stores (platform : Platform) (d : DeviceId) (certDer : Bytes) : FileAction → Prop
  | .write path content =>
    path = peerFile d ∨ path = fingerprintFile d ∧ content = .text (computeFingerprint platform certDer)
  | .exists _ | .read _ => True
  | .remove _ | .rename _ _ => False

/-- What taking the pending requests of a device out of their maps does. -/
def drops (d : DeviceId) : PairingAction → Prop
  | requestRemove _ e | certRemove e => e = d
  | action => action.looks

/-- What `accept_pairing` and `force_accept_pairing` do for a device. -/
def accepts (d : DeviceId) : PairingAction → Prop
  | requestRemove _ e | certRemove e | pairedInsert e => e = d
  | file (.write path _) => path = peerFile d ∨ path = fingerprintFile d ∨ path = pairedTempPath
  | file action => saves action
  | action => action.looks

/-- What `unpair` does for a device that is out of `paired`. -/
def forgets (d : DeviceId) : PairingAction → Prop
  | file (.remove path) => path = certFile d ∨ path = keyFile d ∨ path = peerFile d ∨ path = fingerprintFile d
  | file action => saves action
  | action => action.looks

/-- What `unpair` does for a device. -/
def unpairs (d : DeviceId) : PairingAction → Prop
  | certRemove e | pairedRemove e => e = d
  | action => action.forgets d

/-- What `initiate_pairing` does for a device. -/
def initiates (d : DeviceId) : PairingAction → Prop
  | requestInsert q e _ => q = .outgoing ∧ e = d
  | action => action.sweeps


/-- What the admission of a pair request does for a device. -/
def admits (d : DeviceId) : PairingAction → Prop
  | requestInsert q e _ => q = .incoming ∧ e = d
  | certInsert e _ => e = d
  | action => action.accepts d

/-- What a received pair request does for a device. -/
def receives (d : DeviceId) (action : PairingAction) : Prop := action.unpairs d ∨ action.sweeps ∨ action.admits d

variable {a : PairingAction} {d : DeviceId}

theorem looks_accepts (d : DeviceId) (looking : a.looks) : a.accepts d := by
  cases a with
  | file action => cases action <;> simp_all [accepts, saves, looks]
  | _ => simp_all [accepts, looks]

theorem accepts_admits (inside : a.accepts d) : a.admits d := by
  cases a <;> simp_all [admits, accepts, looks]

theorem looks_receives (d : DeviceId) (looking : a.looks) : a.receives d :=
  .inr (.inr (accepts_admits (looks_accepts d looking)))

theorem accepts_receives (inside : a.accepts d) : a.receives d := .inr (.inr (accepts_admits inside))

theorem sweeps_initiates (d : DeviceId) (inside : a.sweeps) : a.initiates d := by
  cases a <;> simp_all [initiates, sweeps, looks]

theorem initiates_cases (inside : a.initiates d) : (∃ request, a = requestInsert .outgoing d request) ∨ a.sweeps := by
  cases a with
  | requestInsert q e request =>
    obtain ⟨rfl, rfl⟩ := inside
    exact .inl ⟨request, rfl⟩
  | _ => exact .inr inside

theorem unpairs_receives (inside : a.unpairs d) : a.receives d := .inl inside

theorem drops_accepts (inside : a.drops d) : a.accepts d := by
  cases a with
  | file action => cases action <;> simp_all [drops, accepts, saves, looks]
  | _ => simp_all [drops, accepts, looks]

theorem forgets_unpairs (inside : a.forgets d) : a.unpairs d := by
  cases a <;> simp_all [unpairs, forgets, looks]

end PairingAction

namespace PairingHandler

open Program PairingAction

variable (platform : Platform) (settings : PairingSettings)

theorem only_onFiles {α : Type} {P : FileAction → Prop} {P' : PairingAction → Prop} {Q : α → Prop}
    {program : FileProgram α} (only : program.Only P Q) (kept : ∀ action, P action → P' (file action)) :
    (onFiles program).Only P' Q :=
  only.hoist fun action within => by simpa using kept action within

theorem only_isOwnDeviceId (d : DeviceId) : (isOwnDeviceId d).Only looks fun _ => True := ⟨trivial, fun _ => trivial⟩

theorem only_cleanupExpired : cleanupExpired.Only sweeps fun _ => True := by
  simp [cleanupExpired, sweeps, looks]

theorem only_saveToDisk {P : PairingAction → Prop} (snapshot : P pairedSnapshot)
    (save : ∀ action, saves action → P (file action)) :
    (saveToDisk settings).Only P fun _ => True := by
  have write (paired : Table DeviceId Time) :
      (onFiles (FileProgram.write pairedTempPath (.paired paired))).Only P fun _ => True :=
    only_onFiles (P := saves) (by simp [FileProgram.write, saves]) save
  have rename : (onFiles (FileProgram.rename pairedTempPath pairedPath)).Only P fun _ => True :=
    only_onFiles (P := saves) (by simp [FileProgram.rename, saves]) save
  simpa [saveToDisk, snapshot, rename] using fun _ answer => write answer

theorem only_removePendingRequest (d : DeviceId) : Only (removePendingRequest d).run (drops d) fun _ => True := by
  have timeout (request : PairingRequest) :
      Only (do
        if ← isExpired request then
          let _ ← perform (certRemove d)
          throw (.pairingTimeout d)
        return true : ExceptT Error PairingProgram Bool).run (drops d) fun _ => True := by
    simp [isExpired, drops, looks]
  simp only [removePendingRequest, perform, only_except_bind, only_except_lift, only_call, drops, true_and]
  rintro (_ | request)
  · simp only [only_except_bind, only_except_lift, only_call, drops, true_and]
    rintro (_ | request)
    · trivial
    · exact timeout request
  · exact timeout request

theorem only_hasPeerFingerprint (d : DeviceId) {P : PairingAction → Prop} (known : ∀ path, P (file (.exists path))) :
    (hasPeerFingerprint platform d).Only P fun _ => True := by
  unfold hasPeerFingerprint CertificateManager.hasPeerFingerprint
  cases fingerprintPath platform d with
  | ok path => exact only_onFiles (P := (· = .exists path)) ⟨rfl, fun _ => trivial⟩ (by rintro _ rfl; exact known path)
  | error e => trivial

theorem only_storePeerCertificate (d : DeviceId) (certDer : Bytes) :
    Only (storePeerCertificate platform d certDer).run (stores platform d certDer) fun _ => True := by
  cases valid : validateDeviceId platform d with
  | ok =>
    have checks : Only (verifyPeerFingerprint platform d certDer).run (stores platform d certDer) fun _ => True :=
      CertificateManager.only_verifyPeerFingerprint (fun _ => trivial) (fun _ => trivial) certDer
    have writesCertificate : stores platform d certDer (.write (peerFile d) (.pem certDer)) := .inl rfl
    have writesFingerprint : stores platform d certDer (.write (fingerprintFile d) (.text (computeFingerprint platform certDer))) :=
      .inr ⟨rfl, rfl⟩
    refine (CertificateManager.only_hasPeerFingerprint fun _ => trivial).except_lift.except_bind fun pinned => ?_
    have paths : peerCertPath platform d = .ok (peerFile d) := peerCertPath_eq valid
    cases pinned with
    | true =>
      refine checks.except_bind fun _ => ?_
      rw [paths]
      exact ⟨writesCertificate, fun _ => trivial⟩
    | false =>
      rw [paths]
      refine ⟨writesCertificate, fun _ => ?_⟩
      simp only [storePeerFingerprint, fingerprintPath_eq valid]
      exact ⟨writesFingerprint, fun _ => trivial⟩
  | error e =>
    simp [storePeerCertificate, CertificateManager.hasPeerFingerprint, fingerprintPath, peerCertPath, deviceFile, valid]

theorem only_recordPairing (d : DeviceId) : (recordPairing settings d).Only (accepts d) fun _ => True := by
  have save : (saveToDisk settings).Only (accepts d) fun _ => True := by
    refine only_saveToDisk settings trivial fun action saving => ?_
    cases action <;> simp_all [accepts, saves]
  simpa [recordPairing] using ⟨rfl, save.followedBy fun _ => trivial⟩

theorem only_settleAnchor (refusal : String) (d : DeviceId) (pendingCert : Option Bytes) :
    Only (settleAnchor platform refusal d pendingCert).run (accepts d) fun _ => True := by
  cases pendingCert with
  | none => simpa [settleAnchor] using only_hasPeerFingerprint platform d (P := accepts d) fun _ => trivial
  | some certDer =>
    refine only_onFiles (only_storePeerCertificate platform d certDer) fun action inside => ?_
    cases action <;> simp_all [stores, accepts, saves]
    exact inside.imp id fun pinned => .inl pinned.1

theorem only_completePairing (refusal : String) (d : DeviceId) :
    Only (completePairing platform settings refusal d).run (accepts d) fun _ => True := by
  simp only [completePairing, perform, only_except_bind, only_except_lift, only_call]
  refine ⟨rfl, fun pendingCert => (only_settleAnchor platform refusal d pendingCert).followedBy fun result => ?_⟩
  cases result with
  | ok => exact only_recordPairing settings d
  | error e => trivial

theorem only_acceptPairing (d : DeviceId) :
    Only (acceptPairing platform settings d).run (accepts d) fun _ => True := by
  simp only [acceptPairing, only_except_bind]
  refine ((only_removePendingRequest d).weaken (fun _ => drops_accepts) fun _ => id).followedBy fun result => ?_
  cases result with
  | ok hadRequest => simpa using fun _ => only_completePairing platform settings _ d
  | error e => trivial

theorem only_forceAcceptPairing (d : DeviceId) :
    Only (forceAcceptPairing platform settings d).run (accepts d) fun _ => True := by
  have complete (refusal : String) := only_completePairing platform settings refusal d
  have request := ((only_removePendingRequest d).weaken (fun _ => drops_accepts) fun _ => id).followedBy fun _ =>
    complete "Refusing force-accept of pairing with"
  simpa [forceAcceptPairing, isOwnDeviceId, accepts, looks] using fun _ _ => request

theorem only_deleteCertificate (d : DeviceId) {P : PairingAction → Prop} (known : ∀ path, P (file (.exists path)))
    (cert : P (file (.remove (certFile d)))) (key : P (file (.remove (keyFile d)))) :
    (ignoreResult (deleteCertificate platform d)).Only P fun _ => True := by
  refine only_onFiles (P := fun action => P (file action)) ?_ fun _ same => same
  cases valid : validateDeviceId platform d with
  | ok =>
    simp [deleteCertificate, certPath_eq valid, keyPath_eq valid, FileProgram.removeIfExists, FileProgram.pathExists,
      FileProgram.removeFile, known, cert, key]
  | error e => simp [deleteCertificate, certPath, deviceFile, valid]

theorem only_deletePeerCertificate (d : DeviceId) :
    (ignoreResult (deletePeerCertificate platform d)).Only (forgets d) fun _ => True := by
  refine only_onFiles (P := fun action => forgets d (file action)) ?_ fun _ same => same
  cases valid : validateDeviceId platform d with
  | ok =>
    simp [deletePeerCertificate, peerCertPath_eq valid, fingerprintPath_eq valid, FileProgram.removeIfExists,
      FileProgram.pathExists, FileProgram.removeFile, forgets, saves]
  | error e => simp [deletePeerCertificate, peerCertPath, deviceFile, valid]

theorem only_forgetDevice (d : DeviceId) : (forgetDevice platform settings d).Only (forgets d) fun _ => True := by
  have save : (saveToDisk settings).Only (forgets d) fun _ => True := by
    refine only_saveToDisk settings trivial fun action saving => ?_
    cases action <;> simp_all [forgets, saves]
  have finish := save.followedBy (Q := fun _ => forgets d (broadcast (.unpaired d))) fun _ => trivial
  have delete := (only_deleteCertificate platform d (P := forgets d) (fun _ => trivial) (.inl rfl)
    (.inr (.inl rfl))).followedBy fun _ =>
    (only_deletePeerCertificate platform d).followedBy fun _ => finish
  simpa [forgetDevice] using delete

theorem only_unpair (d : DeviceId) : Only (unpair platform settings d).run (unpairs d) fun _ => True := by
  have forget := (only_forgetDevice platform settings d).weaken (fun _ => forgets_unpairs) fun _ => id
  simpa [unpair] using ⟨rfl, rfl, forget⟩

theorem only_initiatePairing (d : DeviceId) : Only (initiatePairing settings d).run (initiates d) fun _ => True := by
  have sweep : cleanupExpired.Only (initiates d) fun _ => True :=
    only_cleanupExpired.weaken (fun _ => sweeps_initiates d) fun _ _ => trivial
  simpa [initiatePairing, isOwnDeviceId, isPaired, initiates, sweeps, looks] using fun _ _ => sweep

theorem only_rejectPairing (d : DeviceId) : Only (rejectPairing d).run (drops d) fun _ => True := by
  simp [rejectPairing, drops]

theorem only_pairState (d : DeviceId) : (pairState d).Only looks fun _ => True := by
  simp only [pairState, isPaired, perform, only_bind, only_call, only_ite, looks, true_and]
  intro paired
  refine ⟨fun _ => trivial, fun _ => ?_⟩
  rintro (_ | outgoing) <;> simp [looks, isExpired]
  · rintro (_ | incoming) <;> simp [looks]
  · intro now _
    rintro (_ | incoming) <;> simp [looks]

theorem only_admitPairRequest (d : DeviceId) (stamp : Option Int) (certDer : Option Bytes) :
    Only (admitPairRequest platform settings d stamp certDer).run (admits d) fun _ => True := by
  have accept : Only (acceptPairing platform settings d).run (admits d) fun _ => True :=
    (only_acceptPairing platform settings d).weaken (fun _ => accepts_admits) fun _ _ => trivial
  cases certDer with
  | none => simp [admitPairRequest, admits, accepts, looks, accept]
  | some certDer => simp [admitPairRequest, setPendingPeerCert, admits, accepts, looks, accept]

theorem only_receivePairRequest (d : DeviceId) (stamp : Option Int) (certDer : Option Bytes) :
    Only (receivePairRequestWithCert platform settings d stamp certDer).run (receives d) fun _ => True := by
  have look (action : PairingAction) (looking : action.looks) : action.receives d := looks_receives d looking
  have unpair : Only (unpair platform settings d).run (receives d) fun _ => True :=
    (only_unpair platform settings d).weaken (fun _ => Or.inl) fun _ _ => trivial
  have sweep : cleanupExpired.Only (receives d) fun _ => True :=
    only_cleanupExpired.weaken (fun _ inside => .inr (.inl inside)) fun _ _ => trivial
  have rest : Only (admitPairRequest platform settings d stamp certDer).run (receives d) fun _ => True :=
    (only_admitPairRequest platform settings d stamp certDer).weaken (fun _ inside => .inr (.inr inside)) fun _ => id
  have fresh := sweep.followedBy fun _ => rest
  simpa [receivePairRequestWithCert, isOwnDeviceId, isPaired, look ownDeviceId trivial, look (pairedContains d) trivial] using
    fun _ _ => And.intro fresh (unpair.followedBy fun _ => fresh)

end PairingHandler

end RustConnect
