import RustConnect.PairingFootprint

namespace RustConnect

namespace PairingState

/-- The state `cleanup_expired` leaves behind. -/
def sweep (s : PairingState) : PairingState :=
  { s with
    outgoing := s.live .outgoing
    incoming := s.live .incoming
    pendingCerts := (s.expiredIds .outgoing ++ s.expiredIds .incoming).foldl
      (fun certs d => certs.erase d) s.pendingCerts }

/-- The files after `save_to_disk` has written and renamed its temporary file. -/
def savedFiles (settings : PairingSettings) (paired : Table DeviceId Time) (files : Files) : Files :=
  if settings.persistent then
    ((files.insert pairedTempPath (.paired paired)).erase pairedTempPath).insert pairedPath (.paired paired)
  else
    files

/-- What `pair_state` answers. -/
def pairStateOf (s : PairingState) (d : DeviceId) : PairState :=
  if (s.paired.lookup d).isSome then .paired
  else if (s.outgoing.lookup d).any (!·.expiredAt s.now) then .requested
  else if (s.incoming.lookup d).any (!·.expiredAt s.now) then .requestedByPeer
  else .notPaired

end PairingState

namespace PairingHandler

open Program PairingAction PairingState CertificateManager

variable {platform : Platform} {settings : PairingSettings}

@[simp] theorem run_onFiles {α : Type} (program : FileProgram α) (s : PairingState) :
    run exec (onFiles program) s =
      ((run FileAction.exec program s.files).1, { s with files := (run FileAction.exec program s.files).2 }) :=
  run_hoist PairingState.files (fun s files => { s with files := files }) (fun _ _ => rfl) (fun _ => rfl)
    (fun _ _ _ => rfl) (fun _ _ => rfl) program s

theorem onFiles_bind {α β : Type} (program : FileProgram α) (f : α → FileProgram β) :
    onFiles (program >>= f) = onFiles program >>= fun value => onFiles (f value) :=
  hoist_bind _ program f

theorem onFiles_removeIfExists (path : Path) :
    onFiles (FileProgram.removeIfExists path) =
      perform (file (.exists path)) >>= fun found => if found then perform (file (.remove path)) else pure () := by
  unfold FileProgram.removeIfExists
  rw [onFiles_bind]
  refine congrArg (perform (file (.exists path)) >>= ·) (funext fun found => ?_)
  cases found <;> rfl

theorem ignoreResult_deletePeerCertificate {d : DeviceId} (valid : validateDeviceId platform d = .ok ()) :
    ignoreResult (deletePeerCertificate platform d) =
      onFiles (FileProgram.removeIfExists (peerFile d)) >>= fun _ =>
        onFiles (FileProgram.removeIfExists (fingerprintFile d)) := by
  unfold ignoreResult deletePeerCertificate
  rw [peerCertPath_eq valid, fingerprintPath_eq valid, ← onFiles_bind]
  refine congrArg onFiles ((attempt_lift_bind _ _).trans ?_)
  exact congrArg (FileProgram.removeIfExists (peerFile d) >>= ·) (funext fun _ => attempt_lift _)

@[simp] theorem run_isOwnDeviceId (deviceId : DeviceId) (s : PairingState) :
    run exec (isOwnDeviceId deviceId) s = (s.ownDeviceId == some deviceId, s) := (rfl)

@[simp] theorem run_isExpired (request : PairingRequest) (s : PairingState) :
    run exec (isExpired request) s = (request.expiredAt s.now, s) := (rfl)

@[simp] theorem run_isPaired (deviceId : DeviceId) (s : PairingState) :
    run exec (isPaired deviceId) s = ((s.paired.lookup deviceId).isSome, s) := (rfl)

@[simp] theorem run_setPendingPeerCert (deviceId : DeviceId) (certDer : Bytes) (s : PairingState) :
    run exec (setPendingPeerCert deviceId certDer) s =
      ((), { s with pendingCerts := s.pendingCerts.insert deviceId certDer }) := (rfl)

theorem expiredIds_eq_nil {s : PairingState} {q : Queue} (same : (s.live q).len = (s.queue q).len) :
    s.expiredIds q = [] := by
  have kept := (Table.len_retain_eq _ _).mp same
  unfold expiredIds
  rw [List.map_eq_nil_iff, List.filter_eq_nil_iff]
  intro e member expired
  have alive := kept e member
  simp [expired] at alive

theorem run_cleanupExpired (s : PairingState) : (run exec cleanupExpired s).2 = s.sweep := by
  have outgoing : (s.live .outgoing).len ≤ s.outgoing.len := Table.len_retain_le _ _
  have incoming : (s.live .incoming).len ≤ s.incoming.len := Table.len_retain_le _ _
  have run_eq : (run exec cleanupExpired s).2 =
      if (s.outgoing.len : Int) - (s.live .outgoing).len + (s.incoming.len - (s.live .incoming).len) = 0 then
        { s with outgoing := s.live .outgoing, incoming := s.live .incoming }
      else s.sweep := by
    unfold cleanupExpired
    simp only [perform, run_bind, run_call, exec, queue, setQueue, ite_not, run_ite, run_pure]
    split
    · rename_i quiet
      exact (if_pos quiet).symm
    · rename_i removed
      exact (if_neg removed).symm
  rw [run_eq]
  split
  · have none : s.expiredIds .outgoing = [] := expiredIds_eq_nil (by simp only [queue]; omega)
    have none' : s.expiredIds .incoming = [] := expiredIds_eq_nil (by simp only [queue]; omega)
    simp only [sweep, none, none', List.append_nil, List.foldl_nil]
  · rfl

@[simp] theorem run_saveToDisk (s : PairingState) :
    run exec (saveToDisk settings) s = ((), { s with files := savedFiles settings s.paired s.files }) := by
  unfold saveToDisk savedFiles
  cases settings.persistent with
  | false => rfl
  | true => simp [exec, FileProgram.rename, FileAction.exec]

theorem run_pairState (d : DeviceId) (s : PairingState) : run exec (pairState d) s = (s.pairStateOf d, s) := by
  by_cases paired : (s.paired.lookup d).isSome
  · simp [pairState, pairStateOf, paired]
  · cases outgoing : s.outgoing.lookup d <;> cases incoming : s.incoming.lookup d <;>
      simp [pairState, pairStateOf, paired, exec, queue, outgoing, incoming, run_ite, apply_ite (Prod.mk · s)]

theorem requested_live {s : PairingState} {d : DeviceId} (requested : s.pairStateOf d = .requested) :
    ∃ request, s.outgoing.lookup d = some request ∧ request.expiredAt s.now = false := by
  unfold pairStateOf at requested
  by_cases paired : (s.paired.lookup d).isSome
  · simp [paired] at requested
  · cases outgoing : s.outgoing.lookup d with
    | none =>
      rw [if_neg paired, outgoing] at requested
      simp only [Option.any_none, Bool.false_eq_true, ↓reduceIte] at requested
      split at requested <;> cases requested
    | some request =>
      refine ⟨request, rfl, ?_⟩
      rw [if_neg paired, outgoing] at requested
      simp only [Option.any_some, Bool.not_eq_true'] at requested
      split at requested
      · assumption
      · split at requested <;> cases requested

/-- A certificate that was stored has its fingerprint beside it. -/
theorem storePeerCertificate_stored {d : DeviceId} {certDer : Bytes} {files : Files}
    (stored : (run FileAction.exec (storePeerCertificate platform d certDer).run files).1 = .ok ()) :
    validateDeviceId platform d = .ok () ∧
      ((run FileAction.exec (storePeerCertificate platform d certDer).run files).2.lookup (fingerprintFile d)).isSome := by
  cases valid : validateDeviceId platform d with
  | error e =>
    obtain ⟨e', run_eq⟩ := run_storePeerCertificate_refused valid certDer files
    rw [run_eq] at stored
    cases stored
  | ok =>
    refine ⟨rfl, ?_⟩
    cases found : files.lookup (fingerprintFile d) with
    | none =>
      rw [run_storePeerCertificate_first valid certDer found]
      simp
    | some content =>
      refine (only_storePeerCertificate platform d certDer).invariant
        (I := fun files : Files => (files.lookup (fingerprintFile d)).isSome) (fun action files inside present => ?_)
        (by simp [found])
      cases action with
      | write path content =>
        simp only [FileAction.exec, Table.lookup_insert_of]
        split
        · rfl
        · exact present
      | remove path => exact inside.elim
      | rename source target => exact inside.elim
      | _ => exact present

theorem looks_exec {action : PairingAction} (looking : action.looks) (s : PairingState) : (action.exec s).2 = s := by
  cases action with
  | file action => cases action <;> first | rfl | exact looking.elim
  | _ => first | rfl | exact looking.elim

/-- A settled anchor is a fingerprint on file. -/
theorem settleAnchor_ok {refusal : String} {d : DeviceId} {pendingCert : Option Bytes} {s : PairingState}
    (settled : (run exec (settleAnchor platform refusal d pendingCert).run s).1 = .ok ()) :
    validateDeviceId platform d = .ok () ∧
      ((run exec (settleAnchor platform refusal d pendingCert).run s).2.files.lookup (fingerprintFile d)).isSome := by
  cases pendingCert with
  | some certDer =>
    simp only [settleAnchor, ExceptT.run_mk, run_onFiles] at settled ⊢
    exact storePeerCertificate_stored settled
  | none =>
    have unchanged : (run exec (hasPeerFingerprint platform d) s).2 = s :=
      (only_hasPeerFingerprint platform d (P := looks) fun _ => trivial).invariant (I := (· = s))
        (fun _ t looking same => (looks_exec looking t).trans same) rfl
    cases found : (run exec (hasPeerFingerprint platform d) s).1 with
    | false => simp [settleAnchor, found] at settled
    | true =>
      have anchor : validateDeviceId platform d = .ok () ∧ (s.files.lookup (fingerprintFile d)).isSome := by
        simp only [hasPeerFingerprint, run_onFiles] at found
        exact run_hasPeerFingerprint_iff.mp found
      simpa [settleAnchor, found, unchanged] using anchor

/-- The pending request of a device is taken out of its map; an expired one takes the staged certificate with it. -/
theorem run_removePendingRequest (d : DeviceId) (s : PairingState) :
    run exec (removePendingRequest d).run s =
      match s.outgoing.lookup d with
      | some request =>
        if request.expiredAt s.now then
          (.error (.pairingTimeout d), { s with outgoing := s.outgoing.erase d, pendingCerts := s.pendingCerts.erase d })
        else
          (.ok true, { s with outgoing := s.outgoing.erase d })
      | none =>
        match s.incoming.lookup d with
        | some request =>
          if request.expiredAt s.now then
            (.error (.pairingTimeout d), { s with incoming := s.incoming.erase d, pendingCerts := s.pendingCerts.erase d })
          else
            (.ok true, { s with incoming := s.incoming.erase d })
        | none => (.ok false, s) := by
  cases outgoing : s.outgoing.lookup d with
  | some request =>
    cases expired : request.expiredAt s.now <;> simp [removePendingRequest, exec, queue, setQueue, outgoing, expired]
  | none =>
    have untouched := Table.erase_of_absent outgoing
    cases incoming : s.incoming.lookup d with
    | some request =>
      cases expired : request.expiredAt s.now <;>
        simp [removePendingRequest, exec, queue, setQueue, outgoing, untouched, incoming, expired]
    | none =>
      simp [removePendingRequest, exec, queue, setQueue, outgoing, untouched, incoming, Table.erase_of_absent incoming]

/-- Whatever is done to a request, only `initiate_pairing` puts one among the outgoing ones. -/
theorem outgoing_kept {d : DeviceId} {action : PairingAction} (other : ∀ request, action ≠ requestInsert .outgoing d request)
    (s : PairingState) :
    (action.exec s).2.outgoing.lookup d = none ∨ (action.exec s).2.outgoing.lookup d = s.outgoing.lookup d := by
  cases action with
  | requestInsert q e request =>
    cases q with
    | incoming => exact .inr rfl
    | outgoing =>
      have apart : d ≠ e := fun same => other request (same ▸ rfl)
      simp [exec, setQueue, queue, apart]
  | requestRemove q e =>
    cases q with
    | incoming => exact .inr rfl
    | outgoing =>
      simp only [exec, setQueue, queue, Table.lookup_erase_of]
      split <;> simp
  | requestRetain q =>
    cases q with
    | incoming => exact .inr rfl
    | outgoing =>
      simp only [exec, setQueue, live, queue, Table.lookup_retain]
      cases s.outgoing.lookup d with
      | none => simp
      | some request => cases expired : request.expiredAt s.now <;> simp [Option.filter_some, expired]
  | _ => exact .inr rfl

/-- Only an insertion of the device itself makes it paired. -/
theorem paired_absent_kept {d : DeviceId} {action : PairingAction} (other : action ≠ pairedInsert d) {s : PairingState}
    (absent : s.paired.lookup d = none) : (action.exec s).2.paired.lookup d = none := by
  cases action with
  | pairedInsert e =>
    have apart : d ≠ e := fun same => other (same ▸ rfl)
    simpa [exec, apart] using absent
  | pairedRemove e =>
    simp only [exec, Table.lookup_erase_of, absent]
    split <;> rfl
  | requestInsert q e request => cases q <;> exact absent
  | requestRemove q e => cases q <;> exact absent
  | requestRetain q => cases q <;> exact absent
  | _ => exact absent

theorem outgoing_absent_kept {α : Type} {Q : α → Prop} {program : PairingProgram α} {d : DeviceId}
    (only : program.Only (fun action => ∀ request, action ≠ requestInsert .outgoing d request) Q)
    {s : PairingState} (absent : s.outgoing.lookup d = none) : (run exec program s).2.outgoing.lookup d = none :=
  only.invariant (I := fun s => s.outgoing.lookup d = none) (fun _ s other absent =>
    (outgoing_kept other s).elim id fun same => same.trans absent) absent

end PairingHandler

end RustConnect
