import RustConnect.PairingReceive
import RustConnect.TrustAnchor

namespace RustConnect

open Program PairingAction CertificateManager

namespace PairingAction

/-- The action writes a file at the path. -/
def writesTo (path : Path) : PairingAction → Prop
  | file (.write target _) | file (.rename _ target) => target = path
  | _ => False

/-- The action takes away the file at the path. -/
def removesFrom (path : Path) : PairingAction → Prop
  | file (.remove target) | file (.rename target _) => target = path
  | _ => False

/-- The action writes one of the two files the store keeps for a device. -/
def writesPeerFile (d : DeviceId) (action : PairingAction) : Prop :=
  action.writesTo (peerFile d) ∨ action.writesTo (fingerprintFile d)

variable {action : PairingAction} {d e : DeviceId}

theorem looks_writes_nothing (looking : action.looks) : ¬action.writesPeerFile d := by
  cases action with
  | file action => cases action <;> simp_all [looks, writesPeerFile, writesTo]
  | _ => exact fun writes => writes.elim id id

theorem saves_elsewhere {action : FileAction} (saving : saves action) : ¬(file action).writesPeerFile d := by
  rintro (same | same) <;> cases action <;>
    simp_all [saves, writesTo, peerFile, fingerprintFile, pairedTempPath, pairedPath]

theorem sweeps_writes_nothing (inside : action.sweeps) : ¬action.writesPeerFile d := by
  cases action with
  | requestRetain q => exact fun writes => writes.elim id id
  | certRemoveAll ids => exact fun writes => writes.elim id id
  | _ => exact looks_writes_nothing inside

theorem drops_writes_nothing (inside : action.drops e) : ¬action.writesPeerFile d := by
  cases action with
  | requestRemove q e => exact fun writes => writes.elim id id
  | certRemove e => exact fun writes => writes.elim id id
  | _ => exact looks_writes_nothing inside

theorem unpairs_writes_nothing (inside : action.unpairs e) : ¬action.writesPeerFile d := by
  cases action with
  | certRemove e => exact fun writes => writes.elim id id
  | pairedRemove e => exact fun writes => writes.elim id id
  | file action =>
    cases action with
    | remove path => exact fun writes => writes.elim id id
    | _ => exact saves_elsewhere inside
  | _ => exact looks_writes_nothing inside

theorem accepts_writes (inside : action.accepts e) (writes : action.writesPeerFile d) : e = d := by
  cases action with
  | requestRemove q e => exact (writes.elim id id).elim
  | certRemove e => exact (writes.elim id id).elim
  | pairedInsert e => exact (writes.elim id id).elim
  | file action =>
    cases action with
    | write path content =>
      rcases inside with rfl | rfl | rfl <;> rcases writes with same | same
      · exact peerFile_injective same
      · exact absurd same.symm (fingerprintFile_ne_peerFile d e)
      · exact absurd same (fingerprintFile_ne_peerFile e d)
      · exact fingerprintFile_injective same
      · cases same
      · cases same
    | _ => exact absurd writes (saves_elsewhere inside)
  | _ => exact absurd writes (looks_writes_nothing inside)

/-- Of all the operations only the forgetting of a device takes its fingerprint away. -/
theorem unpairs_removes (inside : action.unpairs e) (removes : action.removesFrom (fingerprintFile d)) : e = d := by
  cases action with
  | file action =>
    cases action with
    | remove path =>
      rcases inside with rfl | rfl | rfl | rfl
      · exact absurd removes.symm (fingerprintFile_ne_certFile d e)
      · exact absurd removes.symm (fingerprintFile_ne_keyFile d e)
      · exact absurd removes.symm (fingerprintFile_ne_peerFile d e)
      · exact fingerprintFile_injective removes
    | rename source target =>
      obtain ⟨rfl, rfl⟩ := inside
      cases removes
    | _ => exact removes.elim
  | _ => exact removes.elim

theorem accepts_removes_nothing (inside : action.accepts e) : ¬action.removesFrom (fingerprintFile d) := by
  intro removes
  cases action with
  | file action =>
    cases action with
    | remove path => exact inside.elim
    | rename source target =>
      obtain ⟨rfl, rfl⟩ := inside
      cases removes
    | _ => exact removes.elim
  | _ => exact removes.elim

theorem admits_removes_nothing (inside : action.admits e) : ¬action.removesFrom (fingerprintFile d) := by
  cases action with
  | requestInsert q e request => exact id
  | certInsert e certDer => exact id
  | _ => exact accepts_removes_nothing (e := e) inside

theorem sweeps_removes_nothing (inside : action.sweeps) (path : Path) : ¬action.removesFrom path := by
  intro removes
  cases action with
  | file action => cases action <;> first | exact removes.elim | exact inside.elim
  | _ => exact removes.elim

end PairingAction

namespace PairingHandler

variable (platform : Platform) (settings : PairingSettings) (d : DeviceId)

theorem only_verifyPeerFingerprint (certDer : Bytes) :
    Only (verifyPeerFingerprint platform d certDer).run (fun action => (file action).looks) fun _ => True := by
  cases valid : validateDeviceId platform d with
  | error e => simp [verifyPeerFingerprint, loadPeerFingerprint, fingerprintPath, deviceFile, valid]
  | ok =>
    simp [verifyPeerFingerprint, loadPeerFingerprint, fingerprintPath_eq valid, FileProgram.pathExists, FileProgram.read,
      looks]
    rintro (_ | content)
    · trivial
    · cases content <;> simp

/-- The store fails before it has written anything, or not at all. -/
theorem commits_storePeerCertificate (certDer : Bytes) :
    Commits (storePeerCertificate platform d certDer).run
      (fun action => ∃ e, (file action).writesPeerFile e) fun result => ∃ value, result = .ok value := by
  cases valid : validateDeviceId platform d with
  | error e =>
    simp [storePeerCertificate, CertificateManager.hasPeerFingerprint, fingerprintPath, peerCertPath, deviceFile, valid]
    trivial
  | ok =>
    have looking (action : FileAction) (inside : (file action).looks) : ¬∃ e, (file action).writesPeerFile e := by
      rintro ⟨_, writes⟩
      exact looks_writes_nothing inside writes
    simp only [storePeerCertificate, peerCertPath_eq valid]
    refine Only.commits_except_bind ?_
    simp only [CertificateManager.hasPeerFingerprint, fingerprintPath_eq valid, FileProgram.pathExists, only_except_lift,
      only_call]
    refine ⟨looking _ trivial, fun known => ?_⟩
    cases known with
    | false =>
      refine Only.commits_result ?_
      simp [storePeerFingerprint, fingerprintPath_eq valid, FileProgram.write]
    | true =>
      refine Only.commits_except_bind ((only_verifyPeerFingerprint platform d certDer).weaken looking fun result _ => ?_)
      cases result with
      | error e => trivial
      | ok =>
        refine Only.commits_result ?_
        simp [FileProgram.write]

theorem commits_completePairing (refusal : String) :
    Commits (completePairing platform settings refusal d).run (fun action => ∃ e, action.writesPeerFile e)
      fun result => ∃ value, result = .ok value := by
  refine Only.commits_except_bind ((only_except_lift _ _).mpr ⟨fun ⟨_, writes⟩ => writes.elim id id, fun pendingCert => ?_⟩)
  refine Commits.except_bind ?_ fun _ => (only_except_lift _ _).mpr ((only_trivial _).followedBy fun _ => ⟨_, rfl⟩)
  cases pendingCert with
  | none =>
    have known := only_hasPeerFingerprint platform d (P := fun action => ¬∃ e, action.writesPeerFile e)
      fun _ ⟨_, writes⟩ => writes.elim id id
    exact Only.commits (by simpa [settleAnchor] using known)
  | some certDer =>
    exact (commits_storePeerCertificate platform d certDer).hoist fun action => ⟨id, fun _ => trivial⟩

theorem commits_acceptPairing :
    Commits (acceptPairing platform settings d).run (fun action => ∃ e, action.writesPeerFile e)
      fun result => ∃ value, result = .ok value := by
  refine Only.commits_except_bind ((only_removePendingRequest d).weaken
    (fun _ inside ⟨_, writes⟩ => drops_writes_nothing inside writes) fun result _ => ?_)
  cases result with
  | error e => trivial
  | ok hadRequest =>
    cases hadRequest with
    | false => trivial
    | true => exact commits_completePairing platform settings d _

theorem commits_forceAcceptPairing :
    Commits (forceAcceptPairing platform settings d).run (fun action => ∃ e, action.writesPeerFile e)
      fun result => ∃ value, result = .ok value := by
  refine Only.commits_except_bind ((only_except_lift _ _).mpr ((only_isOwnDeviceId d).weaken
    (fun _ looking ⟨_, writes⟩ => looks_writes_nothing looking writes) fun own _ => ?_))
  cases own with
  | true => trivial
  | false =>
    refine Only.commits_except_bind ((only_except_lift _ _).mpr ((only_attempt _ _).mpr ?_))
    refine (only_removePendingRequest d).weaken (fun _ inside ⟨_, writes⟩ => drops_writes_nothing inside writes) fun _ _ => ?_
    exact commits_completePairing platform settings d _

end PairingHandler

namespace PairingOp

variable (platform : Platform) (settings : PairingSettings)

/-- The operation is an accept of the device, or an incoming request for it that comes to call `accept_pairing`. -/
def Accepts (d : DeviceId) (s : PairingState) : PairingOp → Prop
  | asks (.acceptPairing e) | asks (.forceAcceptPairing e) => e = d
  | receive e _ _ => e = d ∧ ((PairingHandler.admissionState platform settings d s).outgoing.lookup d).isSome
  | _ => False

/-- The operation is an unpair of the device, or an incoming request for it while it is paired. -/
def Unpairs (d : DeviceId) (s : PairingState) : PairingOp → Prop
  | asks (.unpair e) => e = d
  | receive e _ _ => e = d ∧ (s.paired.lookup d).isSome
  | _ => False

variable {platform settings} {op : PairingOp} {s : PairingState} {d : DeviceId} {action : PairingAction}

theorem receive_writes {e : DeviceId} {stamp : Option Int} {certDer : Option Bytes}
    (performed : action ∈ (receive e stamp certDer).performed platform settings s) (writes : action.writesPeerFile d) :
    (receive e stamp certDer).Accepts platform settings d s ∧
      (receive e stamp certDer).result platform settings s = .ok () := by
  have noSweep : ¬action.sweeps := fun inside => sweeps_writes_nothing inside writes
  obtain ⟨other, admitted⟩ := PairingHandler.mem_receive performed (fun inside => unpairs_writes_nothing inside writes) noSweep
  obtain ⟨present, accepted⟩ := PairingHandler.mem_admit admitted noSweep
    (fun _ same => by subst same; exact writes.elim id id) fun _ same => by subst same; exact writes.elim id id
  obtain rfl := accepts_writes ((PairingHandler.only_acceptPairing platform settings e).of_mem_actions accepted) writes
  refine ⟨⟨rfl, present⟩, ?_⟩
  obtain ⟨value, done⟩ := (PairingHandler.commits_acceptPairing platform settings e).result accepted ⟨e, writes⟩
  unfold result program
  rw [PairingHandler.run_receivePairRequest platform settings other, PairingHandler.run_admit_auto platform settings present]
  exact done

theorem accepts_of_write (performed : action ∈ op.performed platform settings s) (writes : action.writesPeerFile d) :
    op.Accepts platform settings d s ∧ op.result platform settings s = .ok () := by
  cases op with
  | receive e stamp certDer => exact receive_writes performed writes
  | advance duration => exact absurd performed List.not_mem_nil
  | asks asked =>
    have inside := (asked.only_footprint platform settings).of_mem_actions performed
    cases asked with
    | initiatePairing e =>
      rcases initiates_cases inside with ⟨request, rfl⟩ | sweeping
      · exact (writes.elim id id).elim
      · exact absurd writes (sweeps_writes_nothing sweeping)
    | setPendingPeerCert e certDer =>
      subst inside
      exact (writes.elim id id).elim
    | acceptPairing e =>
      obtain ⟨value, done⟩ := (PairingHandler.commits_acceptPairing platform settings e).result performed ⟨d, writes⟩
      exact ⟨accepts_writes inside writes, done⟩
    | forceAcceptPairing e =>
      obtain ⟨value, done⟩ := (PairingHandler.commits_forceAcceptPairing platform settings e).result performed ⟨d, writes⟩
      exact ⟨accepts_writes inside writes, done⟩
    | rejectPairing e => exact absurd writes (drops_writes_nothing inside)
    | unpair e => exact absurd writes (unpairs_writes_nothing inside)
    | cleanupExpired => exact absurd writes (sweeps_writes_nothing inside)

/-- An incoming request takes a fingerprint away only from a device it found paired. -/
theorem receive_unpairs {e : DeviceId} {stamp : Option Int} {certDer : Option Bytes}
    (member : action ∈ (receive e stamp certDer).performed platform settings s)
    (removes : action.removesFrom (fingerprintFile d)) : (s.paired.lookup e).isSome := by
  by_contra unpaired
  have noOwn : action ≠ ownDeviceId := fun same => by subst same; exact removes
  have noContains : action ≠ pairedContains e := fun same => by subst same; exact removes
  have sweeping : action ∉ actions exec PairingHandler.cleanupExpired s :=
    fun inside => sweeps_removes_nothing (PairingHandler.only_cleanupExpired.of_mem_actions inside) _ removes
  have admitting : action ∉ actions exec (PairingHandler.admitPairRequest platform settings e stamp certDer).run s.sweep :=
    fun inside => admits_removes_nothing
      ((PairingHandler.only_admitPairRequest platform settings e stamp certDer).of_mem_actions inside) removes
  by_cases own : s.ownDeviceId = some e <;>
    simp [PairingOp.performed, program, PairingHandler.receivePairRequestWithCert, PairingHandler.isOwnDeviceId,
      PairingHandler.isPaired, exec, own, unpaired, PairingHandler.run_cleanupExpired, noOwn, noContains, sweeping,
      admitting] at member

theorem unpairs_of_remove (performed : action ∈ op.performed platform settings s)
    (removes : action.removesFrom (fingerprintFile d)) : op.Unpairs d s := by
  cases op with
  | receive e stamp certDer =>
    by_cases unpairing : action.unpairs e
    · obtain rfl := unpairs_removes unpairing removes
      exact ⟨rfl, receive_unpairs performed removes⟩
    · have noSweep : ¬action.sweeps := fun inside => sweeps_removes_nothing inside _ removes
      obtain ⟨-, admitted⟩ := PairingHandler.mem_receive performed unpairing noSweep
      have inside := (PairingHandler.only_admitPairRequest platform settings e stamp certDer).of_mem_actions admitted
      exact absurd removes (admits_removes_nothing inside)
  | advance duration => exact absurd performed List.not_mem_nil
  | asks asked =>
    have inside := (asked.only_footprint platform settings).of_mem_actions performed
    cases asked with
    | initiatePairing e =>
      rcases initiates_cases inside with ⟨request, rfl⟩ | sweeping
      · exact removes.elim
      · exact absurd removes (sweeps_removes_nothing sweeping _)
    | setPendingPeerCert e certDer =>
      subst inside
      exact removes.elim
    | acceptPairing e => exact absurd removes (accepts_removes_nothing inside)
    | forceAcceptPairing e => exact absurd removes (accepts_removes_nothing inside)
    | rejectPairing e => exact absurd removes (accepts_removes_nothing (drops_accepts inside))
    | unpair e => exact unpairs_removes inside removes
    | cleanupExpired => exact absurd removes (sweeps_removes_nothing inside _)

theorem step_trusted {journal : Journal} (op : PairingOp) (trusted : Trusted platform journal.past journal.state) :
    Trusted platform (op.step platform settings journal).past (op.step platform settings journal).state := by
  obtain ⟨staged, pinned, anchored⟩ := throughout_end (op.keeps_trust settings _ _ trusted)
  exact ⟨staged, pinned, anchored⟩

end PairingOp

namespace TrustHistory

open History

variable (platform : Platform) (settings : PairingSettings) (own : Option DeviceId) (now : Time) (ops : List PairingOp)

/-- The state after the first `k` operations on empty maps and an empty store, with the actions behind it. -/
def atOp (k : Nat) : Journal :=
  stateAt (PairingOp.step platform settings) ⟨[], { ownDeviceId := own, now := now }⟩ ops k

theorem atOp_trusted (k : Nat) :
    Trusted platform (atOp platform settings own now ops k).past (atOp platform settings own now ops k).state := by
  refine invariant (I := fun journal : Journal => Trusted platform journal.past journal.state) ?_
    (fun op _ journal trusted => op.step_trusted trusted) k
  exact ⟨by simp, by simp, by simp⟩

/-- The trust anchor. Every paired device has a pinned fingerprint, the digest
of a certificate that was staged for it before; nothing but a successful accept
of a device writes its stored certificate or fingerprint; and nothing but an
unpair of a device removes its fingerprint. -/
theorem paired_has_anchor :
    (∀ k d, ((atOp platform settings own now ops k).state.paired.lookup d).isSome →
      (run FileAction.exec (hasPeerFingerprint platform d) (atOp platform settings own now ops k).state.files).1 = true ∧
      ∃ certDer, (atOp platform settings own now ops k).state.files.lookup (fingerprintFile d) =
          some (.text (computeFingerprint platform certDer)) ∧
        StagedThenPinned platform (atOp platform settings own now ops k).past d certDer) ∧
    (∀ (k : Nat) (op : PairingOp) (d : DeviceId) (action : PairingAction), ops[k]? = some op →
      action ∈ op.performed platform settings (atOp platform settings own now ops k).state →
      (action.writesTo (peerFile d) ∨ action.writesTo (fingerprintFile d)) →
      op.Accepts platform settings d (atOp platform settings own now ops k).state ∧
        op.result platform settings (atOp platform settings own now ops k).state = .ok ()) ∧
    (∀ (k : Nat) (op : PairingOp) (d : DeviceId) (action : PairingAction), ops[k]? = some op →
      action ∈ op.performed platform settings (atOp platform settings own now ops k).state →
      action.removesFrom (fingerprintFile d) → op.Unpairs d (atOp platform settings own now ops k).state) := by
  refine ⟨fun k d paired => ?_, fun _ _ _ _ _ => PairingOp.accepts_of_write, fun _ _ _ _ _ => PairingOp.unpairs_of_remove⟩
  have trusted := atOp_trusted platform settings own now ops k
  have anchor := trusted.anchored d paired
  obtain ⟨content, found⟩ := Option.isSome_iff_exists.mp anchor.2
  obtain ⟨certDer, rfl, origin⟩ := trusted.pinned d content found
  exact ⟨run_hasPeerFingerprint_iff.mpr anchor, certDer, found, origin⟩

end TrustHistory

end RustConnect
