import RustConnect.Base.Trail
import RustConnect.PairAccept
import RustConnect.PairingFootprint

namespace RustConnect

open Program PairingAction CertificateManager

namespace TrustRace

/-- The operations that change what is trusted about a device. -/
inductive TrustCall
  | unpair
  | accept
  | forceAccept
  deriving DecidableEq, Repr

variable (platform : Platform) (settings : PairingSettings) (d : DeviceId)

def TrustCall.program : TrustCall → PairingProgram Unit
  | .unpair => attempt (PairingHandler.unpair platform settings d)
  | .accept => attempt (PairingHandler.acceptPairing platform settings d)
  | .forceAccept => attempt (PairingHandler.forceAcceptPairing platform settings d)

def atTurn (start : PairingState) (turns : List (Turn TrustCall)) (k : Nat) : Pool PairingAction PairingAction.Answer PairingState :=
  Pool.after PairingAction.exec (TrustCall.program platform settings d) start turns k

/-- A file whose path is refused is not there. -/
def present (files : Files) : Except Error Path → Bool
  | .ok path => (files.lookup path).isSome
  | .error _ => false

/-- A paired device has its certificate and its fingerprint, and one that is not paired has neither. -/
def Unmixed (s : PairingState) : Prop :=
  present s.files (peerCertPath platform d) = (s.paired.lookup d).isSome ∧
    present s.files (fingerprintPath platform d) = (s.paired.lookup d).isSome

/-- How far an operation has come. An accepting one has taken the staged
certificate, or has found none, and has to settle the anchor; from `absent` on
it cannot fail any more and is bound to pair the device. From `removing` on an
unpairing one is bound to delete both files. -/
inductive Stage
  | outside
  | staged (certDer : Bytes)
  | unstaged
  | pinned (certDer : Bytes)
  | reading (certDer : Bytes)
  | absent
  | half
  | verified
  | ready
  | removing
  | foundCert
  | certGone
  | foundPin
  deriving DecidableEq, Repr

namespace Stage

/-- The device is going to be paired. -/
def committed : Stage → Bool
  | absent | half | verified | ready => true
  | _ => false

/-- The device is no longer paired, and its files are going to be deleted. -/
def unpairing : Stage → Bool
  | removing | foundCert | certGone | foundPin => true
  | _ => false

/-- A call may end here. -/
def final : Stage → Prop
  | outside | staged _ | unstaged => True
  | _ => False

end Stage

/-- The path is neither that of the peer certificate nor that of the fingerprint. -/
def elsewhere (path : Path) : Bool := path ≠ peerFile d && path ≠ fingerprintFile d

/-- The action has nothing to do with what is trusted about the device. -/
def aside : PairingAction → Bool
  | pairedInsert _ | pairedRemove _ | certRemove _ => false
  | file (.exists path) | file (.read path) | file (.write path _) | file (.remove path) => elsewhere d path
  | file (.rename source target) => elsewhere d source && elsewhere d target
  | _ => true

def advance : Stage → (Σ action : PairingAction, action.Answer) → Option Stage
  | .outside, ⟨certRemove _, cert⟩ | .staged _, ⟨certRemove _, cert⟩ | .unstaged, ⟨certRemove _, cert⟩ =>
    some (cert.elim .unstaged .staged)
  | .staged certDer, ⟨file (.exists path), known⟩ =>
    if path = fingerprintFile d then some (if known then .pinned certDer else .absent) else none
  | .pinned certDer, ⟨file (.exists path), known⟩ =>
    if path = fingerprintFile d then some (if known then .reading certDer else .outside) else none
  | .reading certDer, ⟨file (.read path), content⟩ =>
    if path = fingerprintFile d then some (if PairAccept.fits platform certDer content then .verified else .outside) else none
  | .unstaged, ⟨file (.exists path), known⟩ =>
    if path = fingerprintFile d then some (if known then .ready else .outside) else none
  | .absent, ⟨file (.write path _), _⟩ => if path = peerFile d then some .half else none
  | .half, ⟨file (.write path _), _⟩ => if path = fingerprintFile d then some .ready else none
  | .verified, ⟨file (.write path _), _⟩ => if path = peerFile d then some .ready else none
  | .ready, ⟨pairedInsert e, _⟩ => if e = d then some .outside else none
  | .staged _, ⟨pairedRemove e, known⟩ | .unstaged, ⟨pairedRemove e, known⟩ =>
    if e = d then some (if known then .removing else .outside) else none
  | .removing, ⟨file (.exists path), known⟩ =>
    if path = peerFile d then some (if known then .foundCert else .certGone) else none
  | .foundCert, ⟨file (.remove path), _⟩ => if path = peerFile d then some .certGone else none
  | .certGone, ⟨file (.exists path), known⟩ =>
    if path = fingerprintFile d then some (if known then .foundPin else .outside) else none
  | .foundPin, ⟨file (.remove path), _⟩ => if path = fingerprintFile d then some .outside else none
  | _, _ => none

example : advance platform d .unstaged ⟨file (.exists (fingerprintFile d)), false⟩ = some .outside := by simp [advance]

def move (stage : Stage) (action : PairingAction) (answer : action.Answer) : Option Stage :=
  if aside d action then some stage else advance platform d stage ⟨action, answer⟩

/-- The stage of a task. -/
def stageOf (pool : Pool PairingAction PairingAction.Answer PairingState) : Nat → Stage :=
  Pool.reached (move platform d) .outside pool.trace

/-- No task gets past its last check for a pairing while another one deletes
the files, and none takes the device out of `paired` while another one is bound
to pair it. -/
def Exclusive (pool : Pool PairingAction PairingAction.Answer PairingState) : Turn TrustCall → Prop
  | .spawn _ => True
  | .take task => ∀ action later, pool.next task = some action →
    move platform d (stageOf platform d pool task) action (action.exec pool.shared).1 = some later →
    (later.committed → ∀ other, (stageOf platform d pool other).unpairing = false) ∧
      (later.unpairing → ∀ other, (stageOf platform d pool other).committed = false)

section Calls

open PairingHandler

variable {platform settings d} {α : Type}

def fileMove (platform : Platform) (d : DeviceId) (stage : Stage) (action : FileAction) (answer : action.Answer) : Option Stage :=
  move platform d stage (file action) answer

theorem elsewhere_certFile : elsewhere d (certFile d) = true := by
  have apart : certFile d ≠ peerFile d := by
    intro same
    have chars := congrArg String.toList (Path.cert.inj same)
    rw [String.toList_append, String.toList_append, List.append_cancel_left_eq] at chars
    exact absurd chars (by decide)
  simp [elsewhere, apart, (fingerprintFile_ne_certFile d d).symm]

theorem elsewhere_keyFile : elsewhere d (keyFile d) = true := by
  have apart : keyFile d ≠ peerFile d := fun same => append_ne_append d d (by decide) (Path.cert.inj same)
  simp [elsewhere, apart, (fingerprintFile_ne_keyFile d d).symm]

@[simp] theorem elsewhere_peerFile : elsewhere d (peerFile d) = false := by simp [elsewhere]

@[simp] theorem elsewhere_fingerprintFile : elsewhere d (fingerprintFile d) = false := by simp [elsewhere]

/-- The file operation leaves the call bound to pair the device, or fails. -/
def Settles {ε : Type} (later : Stage) : Except ε Unit → Prop
  | .ok () => later = .ready
  | .error _ => later = .outside

theorem follows_onFiles {stage : Stage} {program : FileProgram α} {Q : Stage → α → Prop}
    (follows : Follows (fileMove platform d) stage program Q) : Follows (move platform d) stage (onFiles program) Q :=
  follows.hoist fun _ _ defined answer => ⟨_, (Option.some_get (defined answer)).symm, (Option.some_get (defined answer)).symm⟩

/-- The stored fingerprint is the one of the certificate, or the task falls outside. -/
theorem follows_loadPeerFingerprint (valid : validateDeviceId platform d = .ok ()) (certDer : Bytes) :
    Follows (fileMove platform d) (.pinned certDer) (loadPeerFingerprint platform d).run fun later result =>
      match result with
      | .ok stored => later = if stored = computeFingerprint platform certDer then .verified else .outside
      | .error _ => later = .outside := by
  unfold loadPeerFingerprint
  rw [fingerprintPath_eq valid]
  intro known
  cases known with
  | false => exact ⟨.outside, by simp [fileMove, move, aside, advance], rfl⟩
  | true =>
    refine ⟨.reading certDer, by simp [fileMove, move, aside, advance], fun content => ?_⟩
    refine ⟨if PairAccept.fits platform certDer content then .verified else .outside, by simp [fileMove, move, aside, advance], ?_⟩
    rcases content with _ | (der | content | devices)
    · exact rfl
    · exact rfl
    · by_cases same : trim content = computeFingerprint platform certDer
      · exact (if_pos (by simp [PairAccept.fits, same])).trans (if_pos same).symm
      · exact (if_neg (by simp [PairAccept.fits, same])).trans (if_neg same).symm
    · exact rfl

theorem follows_verifyPeerFingerprint (valid : validateDeviceId platform d = .ok ()) (certDer : Bytes) :
    Follows (fileMove platform d) (.pinned certDer) (verifyPeerFingerprint platform d certDer).run fun later result =>
      later = if result = .ok () then .verified else .outside := by
  unfold verifyPeerFingerprint
  refine (follows_except_bind _ _ _).mpr ((follows_loadPeerFingerprint valid certDer).weaken fun later result came => ?_)
  cases result with
  | error e => exact came
  | ok stored =>
    dsimp only at came ⊢
    by_cases same : stored = computeFingerprint platform certDer
    · rw [if_pos same] at came
      rw [if_neg (not_not.mpr same)]
      exact came
    · rw [if_neg same] at came
      rw [if_pos same]
      exact came

theorem follows_storePeerCertificate (valid : validateDeviceId platform d = .ok ()) (certDer : Bytes) :
    Follows (fileMove platform d) (.staged certDer) (storePeerCertificate platform d certDer).run Settles := by
  have looks : CertificateManager.hasPeerFingerprint platform d = FileProgram.pathExists (fingerprintFile d) := by
    simp only [CertificateManager.hasPeerFingerprint, fingerprintPath_eq valid]
  unfold storePeerCertificate
  rw [looks, peerCertPath_eq valid]
  intro known
  cases known with
  | false =>
    unfold storePeerFingerprint
    rw [fingerprintPath_eq valid]
    refine ⟨.absent, by simp [fileMove, move, aside, advance], fun _ => ⟨.half, by simp [fileMove, move, aside, advance], fun _ => ?_⟩⟩
    exact ⟨.ready, by simp [fileMove, move, aside, advance], rfl⟩
  | true =>
    refine ⟨.pinned certDer, by simp [fileMove, move, aside, advance], ?_⟩
    refine (follows_except_bind _ _ _).mpr ((follows_verifyPeerFingerprint valid certDer).weaken fun later result came => ?_)
    cases result with
    | error e => exact came
    | ok =>
      obtain rfl : later = .verified := came
      exact fun _ => ⟨.ready, by simp [fileMove, move, aside, advance], rfl⟩

theorem follows_settleAnchor (valid : validateDeviceId platform d = .ok ()) (refusal : String) (pendingCert : Option Bytes) :
    Follows (move platform d) (pendingCert.elim .unstaged .staged) (settleAnchor platform refusal d pendingCert).run Settles := by
  cases pendingCert with
  | some certDer => exact follows_onFiles (follows_storePeerCertificate valid certDer)
  | none =>
    unfold settleAnchor PairingHandler.hasPeerFingerprint CertificateManager.hasPeerFingerprint
    rw [fingerprintPath_eq valid]
    intro known
    cases known with
    | false => exact ⟨.outside, by simp [move, aside, advance], rfl⟩
    | true => exact ⟨.ready, by simp [move, aside, advance], rfl⟩

/-- What has nothing to do with the device's trust leaves the call where it is. -/
theorem follows_aside {stage : Stage} {program : PairingProgram α} {T : α → Prop}
    (only : program.Only (fun action => aside d action = true) T) :
    Follows (move platform d) stage program fun later value => later = stage ∧ T value :=
  only.follows fun action apart _ => by rw [move, if_pos apart]

theorem aside_saveToDisk : (saveToDisk settings).Only (fun action => aside d action = true) fun _ => True := by
  unfold saveToDisk
  by_cases persistent : settings.persistent = true
  · rw [if_pos persistent]
    exact ⟨rfl, fun _ => ⟨rfl, fun _ => ⟨rfl, fun _ => trivial⟩⟩⟩
  · rw [if_neg persistent]
    trivial

theorem follows_recordPairing : Follows (move platform d) .ready (recordPairing settings d) fun later _ => later = .outside := by
  refine fun _ => ⟨.outside, by simp [move, aside, advance], ?_⟩
  refine (follows_bind (saveToDisk settings) _ _).mpr ((follows_aside aside_saveToDisk).weaken ?_)
  rintro later _ ⟨rfl, -⟩
  exact fun _ => ⟨.outside, rfl, rfl⟩

theorem follows_completePairing (valid : validateDeviceId platform d = .ok ()) {stage : Stage} (final : stage.final) (refusal : String) :
    Follows (move platform d) stage (completePairing platform settings refusal d).run fun later _ => later.final := by
  intro pendingCert
  refine ⟨pendingCert.elim .unstaged .staged, ?_, ?_⟩
  · cases stage <;> first | exact final.elim | rfl
  refine (follows_except_bind _ _ _).mpr ((follows_settleAnchor valid refusal pendingCert).weaken fun later result came => ?_)
  cases result with
  | error e =>
    obtain rfl : later = .outside := came
    trivial
  | ok =>
    obtain rfl : later = .ready := came
    refine (follows_except_lift _ _).mpr (follows_recordPairing.weaken ?_)
    rintro later _ rfl
    trivial

/-- Taking the requests out changes nothing that is trusted. -/
theorem follows_removePendingRequest :
    Follows (move platform d) .outside (removePendingRequest d).run fun later _ => later.final := by
  have checks (request : PairingRequest) : Follows (move platform d) .outside (ExceptT.run (do
      if ← isExpired request then
        let _ ← PairingHandler.perform (.certRemove d)
        throw (.pairingTimeout d)
      return true : ExceptT Error PairingProgram Bool)) fun later _ => later.final := by
    intro moment
    refine ⟨.outside, rfl, ?_⟩
    show Follows (move platform d) _ (ExceptT.run (if request.expiredAt moment = true then _ else pure true)) _
    cases request.expiredAt moment with
    | false => trivial
    | true => exact fun cert => ⟨cert.elim .unstaged .staged, rfl, by cases cert <;> trivial⟩
  intro outgoing
  refine ⟨.outside, rfl, ?_⟩
  cases outgoing with
  | some request => exact checks request
  | none =>
    intro incoming
    refine ⟨.outside, rfl, ?_⟩
    cases incoming with
    | some request => exact checks request
    | none => trivial

theorem follows_removeIfExists_aside {stage : Stage} {path : Path} (apart : elsewhere d path = true) :
    Follows (fileMove platform d) stage (FileProgram.removeIfExists path) fun later _ => later = stage := by
  intro known
  refine ⟨stage, by simp [fileMove, move, aside, apart], ?_⟩
  cases known with
  | false => rfl
  | true => exact fun _ => ⟨stage, by simp [fileMove, move, aside, apart], rfl⟩

theorem follows_deleteCertificate (valid : validateDeviceId platform d = .ok ()) (stage : Stage) :
    Follows (fileMove platform d) stage (deleteCertificate platform d).run fun later _ => later = stage := by
  unfold deleteCertificate
  rw [certPath_eq valid, keyPath_eq valid]
  refine (follows_except_bind (liftM (FileProgram.removeIfExists (certFile d))) _ _).mpr ((follows_except_lift _ _).mpr ?_)
  refine (follows_removeIfExists_aside elsewhere_certFile).weaken ?_
  rintro later _ rfl
  exact (follows_except_lift _ _).mpr (follows_removeIfExists_aside elsewhere_keyFile)

theorem follows_deletePeerCertificate (valid : validateDeviceId platform d = .ok ()) :
    Follows (fileMove platform d) .removing (deletePeerCertificate platform d).run fun later _ => later = .outside := by
  have pin : Follows (fileMove platform d) .certGone (FileProgram.removeIfExists (fingerprintFile d)) fun later _ => later = .outside := by
    intro known
    cases known with
    | false => exact ⟨.outside, by simp [fileMove, move, aside, advance], rfl⟩
    | true =>
      exact ⟨.foundPin, by simp [fileMove, move, aside, advance], fun _ => ⟨.outside, by simp [fileMove, move, aside, advance], rfl⟩⟩
  unfold deletePeerCertificate
  rw [peerCertPath_eq valid, fingerprintPath_eq valid]
  intro known
  cases known with
  | false => exact ⟨.certGone, by simp [fileMove, move, aside, advance], (follows_except_lift _ _).mpr pin⟩
  | true =>
    refine ⟨.foundCert, by simp [fileMove, move, aside, advance], fun _ => ⟨.certGone, by simp [fileMove, move, aside, advance], ?_⟩⟩
    exact (follows_except_lift _ _).mpr pin

theorem follows_forgetDevice (valid : validateDeviceId platform d = .ok ()) :
    Follows (move platform d) .removing (forgetDevice platform settings d) fun later _ => later = .outside := by
  unfold forgetDevice ignoreResult
  refine (follows_bind _ _ _).mpr ((follows_onFiles ((follows_attempt _ fun later _ => later = .removing).mpr (follows_deleteCertificate valid _))).weaken ?_)
  rintro later _ rfl
  refine (follows_bind _ _ _).mpr ((follows_onFiles ((follows_attempt _ fun later _ => later = .outside).mpr (follows_deletePeerCertificate valid))).weaken ?_)
  rintro later _ rfl
  refine (follows_bind _ _ _).mpr ((follows_aside aside_saveToDisk).weaken ?_)
  rintro later _ ⟨rfl, -⟩
  exact fun _ => ⟨.outside, rfl, rfl⟩

theorem follows_unpair (valid : validateDeviceId platform d = .ok ()) :
    Follows (move platform d) .outside (unpair platform settings d).run fun later _ => later.final := by
  intro pendingCert
  refine ⟨pendingCert.elim .unstaged .staged, rfl, fun known => ⟨if known then .removing else .outside, ?_, ?_⟩⟩
  · cases pendingCert <;> simp [move, aside, advance]
  · cases known with
    | false => trivial
    | true =>
      refine (follows_except_lift _ _).mpr ((follows_forgetDevice valid).weaken ?_)
      rintro later _ rfl
      trivial

theorem follows_call (valid : validateDeviceId platform d = .ok ()) (call : TrustCall) :
    Follows (move platform d) .outside (call.program platform settings d) fun later _ => later.final := by
  cases call with
  | unpair => exact (follows_attempt _ _).mpr (follows_unpair valid)
  | accept =>
    refine (follows_attempt _ _).mpr ((follows_except_bind _ _ _).mpr (follows_removePendingRequest.weaken fun later result final => ?_))
    rcases result with e | _ | _
    · exact final
    · exact final
    · exact follows_completePairing valid final _
  | forceAccept =>
    refine (follows_attempt _ _).mpr fun own => ⟨.outside, rfl, ?_⟩
    refine (follows_except_ite _ _ _ _).mpr ⟨fun _ => trivial, fun _ => ?_⟩
    refine (follows_except_bind _ _ _).mpr ((follows_except_lift _ _).mpr ((follows_attempt _ _).mpr ?_))
    refine follows_removePendingRequest.weaken fun later _ final => ?_
    exact follows_completePairing valid final _

end Calls

/-- What is kept about one device: whether it is paired, and which of its files there are. -/
structure Trust where
  paired : Bool
  certificate : Bool
  pin : Bool

def trustOf (d : DeviceId) (s : PairingState) : Trust where
  paired := (s.paired.lookup d).isSome
  certificate := (s.files.lookup (peerFile d)).isSome
  pin := (s.files.lookup (fingerprintFile d)).isSome

namespace Trust

/-- What an operation that is bound to pair or to delete can rely on. -/
def Supports (trust : Trust) : Stage → Prop
  | .half => trust.certificate
  | .verified | .ready => trust.certificate ∧ trust.pin
  | .removing | .foundCert => trust.paired = false
  | .certGone | .foundPin => trust.paired = false ∧ trust.certificate = false
  | _ => True

/-- A paired device has both files, a fingerprint comes with its certificate
unless they are being deleted, and no file is there without a pairing that has
been made, is to be made or is being undone. -/
structure Safe (trust : Trust) (stages : Nat → Stage) : Prop where
  anchored : trust.paired → trust.certificate ∧ trust.pin
  whole : (∀ task, (stages task).unpairing = false) → trust.pin → trust.certificate
  owned : trust.certificate ∨ trust.pin → trust.paired ∨ ∃ task, (stages task).committed ∨ (stages task).unpairing
  apart : ∀ task other, (stages task).committed → (stages other).unpairing = false
  supported : ∀ task, trust.Supports (stages task)

variable {trust trust' : Trust} {stages : Nat → Stage} {task : Nat} {later : Stage}

/-- A task goes on and changes nothing. -/
theorem Safe.keep (safe : Safe trust stages) (committed : later.committed = (stages task).committed)
    (unpairing : later.unpairing = (stages task).unpairing) (supports : trust.Supports later) :
    Safe trust (Function.update stages task later) := by
  have same (flag : Stage → Bool) (kept : flag later = flag (stages task)) (other : Nat) :
      flag (Function.update stages task later other) = flag (stages other) := by
    by_cases here : other = task
    · subst here
      rw [Function.update_self, kept]
    · rw [Function.update_of_ne here]
  refine ⟨safe.anchored, fun none => ?_, fun there => ?_, fun one other => ?_, ?_⟩
  · exact safe.whole fun other => (same Stage.unpairing unpairing other).symm.trans (none other)
  · simpa only [same Stage.committed committed, same Stage.unpairing unpairing] using safe.owned there
  · rw [same Stage.committed committed, same Stage.unpairing unpairing]
    exact safe.apart one other
  · exact (Function.forall_update_iff stages fun _ => trust.Supports).mpr ⟨supports, fun other _ => safe.supported other⟩

/-- What is added takes nothing from those who do not delete. -/
theorem Supports.mono {stage : Stage} (supports : trust.Supports stage) (idle : stage.unpairing = false)
    (certificate : trust.certificate → trust'.certificate) (pin : trust.pin → trust'.pin) : trust'.Supports stage := by
  cases stage with
  | half => exact certificate supports
  | verified => exact ⟨certificate supports.1, pin supports.2⟩
  | ready => exact ⟨certificate supports.1, pin supports.2⟩
  | removing => cases idle
  | foundCert => cases idle
  | certGone => cases idle
  | foundPin => cases idle
  | _ => trivial

/-- A task that is bound to pair the device adds what is missing, when no files are being deleted. -/
theorem Safe.add (safe : Safe trust stages) (alone : ∀ other, (stages other).unpairing = false) (committed : later.committed)
    (paired : trust'.paired = trust.paired) (certificate : trust.certificate → trust'.certificate) (pin : trust.pin → trust'.pin)
    (whole : trust'.pin → trust'.certificate) (supports : trust'.Supports later) :
    Safe trust' (Function.update stages task later) := by
  have idle : later.unpairing = false := by cases later <;> first | rfl | cases committed
  have none : ∀ other, (Function.update stages task later other).unpairing = false :=
    (Function.forall_update_iff stages fun _ stage => stage.unpairing = false).mpr ⟨idle, fun other _ => alone other⟩
  refine ⟨fun is => ?_, fun _ => whole, fun _ => .inr ⟨task, .inl (by rwa [Function.update_self])⟩, fun _ other _ => none other, ?_⟩
  · obtain ⟨first, second⟩ := safe.anchored (paired ▸ is)
    exact ⟨certificate first, pin second⟩
  · exact (Function.forall_update_iff stages fun _ => trust'.Supports).mpr
      ⟨supports, fun other _ => (safe.supported other).mono (alone other) certificate pin⟩

/-- A task that is bound to pair the device pairs it. -/
theorem Safe.pair (safe : Safe trust stages) (ready : stages task = .ready) :
    Safe { trust with paired := true } (Function.update stages task .outside) := by
  have both : trust.certificate ∧ trust.pin := by
    have held := safe.supported task
    rwa [ready] at held
  have alone (other : Nat) : (stages other).unpairing = false := safe.apart task other (by rw [ready]; rfl)
  have none : ∀ other, (Function.update stages task .outside other).unpairing = false :=
    (Function.forall_update_iff stages fun _ stage => stage.unpairing = false).mpr ⟨rfl, fun other _ => alone other⟩
  refine ⟨fun _ => both, fun _ _ => both.1, fun _ => .inl rfl, fun _ other _ => none other, ?_⟩
  exact (Function.forall_update_iff stages fun _ => Supports _).mpr
    ⟨trivial, fun other _ => (safe.supported other).mono (alone other) id id⟩

/-- A task that is bound to delete the files takes away what is there: the
device is not paired, and nobody is bound to pair it. -/
theorem Safe.take (safe : Safe trust stages) (alone : ∀ other, (stages other).committed = false) (committed : later.committed = false)
    (paired : trust'.paired = false) (certificate : trust'.certificate → trust.certificate)
    (bound : later.unpairing = true ∨ trust'.certificate = false ∧ trust'.pin = false) (supports : trust'.Supports later) :
    Safe trust' (Function.update stages task later) := by
  have none : ∀ other, (Function.update stages task later other).committed = false :=
    (Function.forall_update_iff stages fun _ stage => stage.committed = false).mpr ⟨committed, fun other _ => alone other⟩
  have supported (other : Nat) : trust'.Supports (stages other) := by
    have before := safe.supported other
    have idle := alone other
    cases stage : stages other with
    | half | verified | ready =>
      rw [stage] at idle
      cases idle
    | certGone | foundPin =>
      rw [stage] at before
      exact ⟨paired, Bool.eq_false_iff.mpr fun there => Bool.eq_false_iff.mp before.2 (certificate there)⟩
    | removing | foundCert => exact paired
    | _ => trivial
  refine ⟨fun is => absurd is (by simp [paired]), fun idle is => ?_, fun there => ?_, fun one other is => absurd is (by simp [none one]), ?_⟩
  · rcases bound with busy | ⟨-, gone⟩
    · have rests := idle task
      rw [Function.update_self, busy] at rests
      cases rests
    · exact absurd is (by simp [gone])
  · rcases bound with busy | ⟨gone, gone'⟩
    · exact .inr ⟨task, .inr (by rwa [Function.update_self])⟩
    · simp [gone, gone'] at there
  · exact (Function.forall_update_iff stages fun _ => trust'.Supports).mpr ⟨supports, fun other _ => supported other⟩

/-- What one action of an operation can do to the trust in the device. -/
inductive Step (trust : Trust) (before : Stage) : Trust → Stage → Prop
  | look {later : Stage} (committed : later.committed = before.committed) (unpairing : later.unpairing = before.unpairing)
      (supports : trust.Supports before → trust.Supports later) : Step trust before trust later
  | commit {later : Stage} (committed : later.committed) (supports : (trust.pin → trust.certificate) → trust.Supports later) :
      Step trust before trust later
  | certify {later : Stage} (bound : before.committed) (committed : later.committed)
      (supports : trust.Supports before → Supports { trust with certificate := true } later) :
      Step trust before { trust with certificate := true } later
  | pin (half : before = .half) : Step trust before { trust with pin := true } .ready
  | pair (ready : before = .ready) : Step trust before { trust with paired := true } .outside
  | unpair : Step trust before { trust with paired := false } .removing
  | dropCertificate (found : before = .foundCert) : Step trust before { trust with certificate := false } .certGone
  | dropPin (found : before = .foundPin) : Step trust before { trust with pin := false } .outside
  | clear (gone : before = .certGone) (none : trust.pin = false) : Step trust before trust .outside

theorem Safe.step (safe : Safe trust stages) (step : Step trust (stages task) trust' later)
    (commits : later.committed → ∀ other, (stages other).unpairing = false)
    (unpairs : later.unpairing → ∀ other, (stages other).committed = false) : Safe trust' (Function.update stages task later) := by
  have held := safe.supported task
  have uncommitted (unpairing : (stages task).unpairing = true) (other : Nat) : (stages other).committed = false :=
    Bool.eq_false_iff.mpr fun committed => Bool.eq_false_iff.mp (safe.apart other task committed) unpairing
  cases step with
  | look committed unpairing supports => exact safe.keep committed unpairing (supports held)
  | commit committed supports =>
    have whole := safe.whole (commits committed)
    exact safe.add (commits committed) committed rfl id id whole (supports whole)
  | certify bound committed supports =>
    exact safe.add (commits committed) committed rfl (fun _ => rfl) id (fun _ => rfl) (supports held)
  | pin half =>
    rw [half] at held
    exact safe.add (commits rfl) rfl rfl id (fun _ => rfl) (fun _ => held) ⟨held, rfl⟩
  | pair ready => exact safe.pair ready
  | unpair => exact safe.take (unpairs rfl) rfl rfl id (.inl rfl) rfl
  | dropCertificate found =>
    rw [found] at held
    exact safe.take (unpairs rfl) rfl held (fun there => nomatch there) (.inl rfl) ⟨held, rfl⟩
  | dropPin found =>
    rw [found] at held uncommitted
    exact safe.take (uncommitted rfl) rfl held.1 id (.inr ⟨held.2, rfl⟩) trivial
  | clear gone none =>
    rw [gone] at held uncommitted
    exact safe.take (uncommitted rfl) rfl held.1 id (.inr ⟨held.2, none⟩) trivial

/-- When nobody is bound to anything, nothing is mixed. -/
theorem Safe.unmixed (safe : Safe trust stages) (rests : ∀ task, (stages task).final) :
    trust.certificate = trust.paired ∧ trust.pin = trust.paired := by
  have free (task : Nat) : (stages task).committed = false ∧ (stages task).unpairing = false := by
    have rests := rests task
    cases stage : stages task <;> rw [stage] at rests <;> first | exact ⟨rfl, rfl⟩ | exact rests.elim
  cases paired : trust.paired with
  | true => exact safe.anchored paired
  | false =>
    have nothing : ¬(trust.certificate = true ∨ trust.pin = true) := by
      intro there
      rcases safe.owned there with is | ⟨task, busy⟩
      · rw [paired] at is
        cases is
      · simp [free task] at busy
    obtain ⟨first, second⟩ := not_or.mp nothing
    exact ⟨Bool.eq_false_iff.mpr first, Bool.eq_false_iff.mpr second⟩

end Trust

variable {platform settings d} {s : PairingState} {stages : Nat → Stage} {task : Nat} {later : Stage}

theorem lookup_of_elsewhere {path : Path} (apart : elsewhere d path = true) : path ≠ peerFile d ∧ path ≠ fingerprintFile d := by
  simpa [elsewhere] using apart

theorem trustOf_aside {action : PairingAction} (apart : aside d action = true) (s : PairingState) :
    trustOf d (action.exec s).2 = trustOf d s := by
  cases action with
  | requestInsert q e request => cases q <;> rfl
  | requestRemove q e => cases q <;> rfl
  | requestRetain q => cases q <;> rfl
  | pairedInsert e => cases apart
  | pairedRemove e => cases apart
  | certRemove e => cases apart
  | file action =>
    cases action with
    | «exists» path => rfl
    | read path => rfl
    | write path content =>
      obtain ⟨peer, pin⟩ := lookup_of_elsewhere apart
      simp [trustOf, PairingAction.exec, FileAction.exec, peer.symm, pin.symm]
    | remove path =>
      obtain ⟨peer, pin⟩ := lookup_of_elsewhere apart
      simp [trustOf, PairingAction.exec, FileAction.exec, peer.symm, pin.symm]
    | rename source target =>
      simp only [aside, Bool.and_eq_true] at apart
      obtain ⟨peer, pin⟩ := lookup_of_elsewhere apart.1
      obtain ⟨peer', pin'⟩ := lookup_of_elsewhere apart.2
      cases found : s.files.lookup source <;>
        simp [trustOf, PairingAction.exec, FileAction.exec, found, peer.symm, pin.symm, peer'.symm, pin'.symm]
  | _ => rfl

section Effects

variable (d) (s) (content : FileContent)

theorem trustOf_writeCert : trustOf d ((file (.write (peerFile d) content)).exec s).2 = { trustOf d s with certificate := true } := by
  simp [trustOf, PairingAction.exec, FileAction.exec, fingerprintFile_ne_peerFile]

theorem trustOf_writePin : trustOf d ((file (.write (fingerprintFile d) content)).exec s).2 = { trustOf d s with pin := true } := by
  simp [trustOf, PairingAction.exec, FileAction.exec, (fingerprintFile_ne_peerFile d d).symm]

theorem trustOf_removeCert : trustOf d ((file (.remove (peerFile d))).exec s).2 = { trustOf d s with certificate := false } := by
  simp [trustOf, PairingAction.exec, FileAction.exec, fingerprintFile_ne_peerFile]

theorem trustOf_removePin : trustOf d ((file (.remove (fingerprintFile d))).exec s).2 = { trustOf d s with pin := false } := by
  simp [trustOf, PairingAction.exec, FileAction.exec, (fingerprintFile_ne_peerFile d d).symm]

theorem trustOf_pairedInsert : trustOf d ((pairedInsert d).exec s).2 = { trustOf d s with paired := true } := by
  simp [trustOf, PairingAction.exec]

theorem trustOf_pairedRemove : trustOf d ((pairedRemove d).exec s).2 = { trustOf d s with paired := false } := by
  simp [trustOf, PairingAction.exec]

end Effects

theorem pin_of_fits {certDer : Bytes} (fits : PairAccept.fits platform certDer (s.files.lookup (fingerprintFile d)) = true) :
    (trustOf d s).pin = true := by
  cases found : s.files.lookup (fingerprintFile d) with
  | none =>
    rw [found] at fits
    cases fits
  | some content => simp [trustOf, found]

theorem Trust.Step.ite {trust trust' : Trust} {before yes no : Stage} {known : Bool} (there : known = true → Step trust before trust' yes)
    (absent : known = false → Step trust before trust' no) : Step trust before trust' (if known = true then yes else no) := by
  cases known with
  | true => exact there rfl
  | false => exact absent rfl

/-- Every action of an operation is one of the steps. -/
theorem step_of_move {before : Stage} {action : PairingAction}
    (moved : move platform d before action (action.exec s).1 = some later) :
    Trust.Step (trustOf d s) before (trustOf d (action.exec s).2) later := by
  unfold move at moved
  by_cases apart : aside d action = true
  · rw [if_pos apart] at moved
    obtain rfl := Option.some.inj moved
    rw [trustOf_aside apart]
    exact .look rfl rfl id
  rw [if_neg apart] at moved
  unfold advance at moved
  split at moved
  case h_18 => cases moved
  case h_1 cert same | h_2 cert same | h_3 cert same =>
    obtain ⟨rfl, -⟩ := Sigma.mk.inj_iff.mp same
    obtain rfl := Option.some.inj moved
    cases cert <;> exact .look rfl rfl id
  all_goals (split at moved; swap; · cases moved)
  all_goals obtain rfl := Option.some.inj moved
  case h_4 same here =>
    cases same
    subst here
    exact .ite (fun _ => .look rfl rfl id) fun _ => .commit rfl fun _ => trivial
  case h_5 same here =>
    cases same
    subst here
    exact .ite (fun _ => .look rfl rfl id) fun _ => .look rfl rfl id
  case h_6 same here =>
    cases same
    subst here
    exact .ite (fun fits => .commit rfl fun whole => ⟨whole (pin_of_fits fits), pin_of_fits fits⟩) fun _ => .look rfl rfl id
  case h_7 same here =>
    cases same
    subst here
    exact .ite (fun known => .commit rfl fun whole => ⟨whole known, known⟩) fun _ => .look rfl rfl id
  case h_8 same here =>
    cases same
    subst here
    rw [trustOf_writeCert]
    exact .certify rfl rfl fun _ => rfl
  case h_9 same here =>
    cases same
    subst here
    rw [trustOf_writePin]
    exact .pin rfl
  case h_10 same here =>
    cases same
    subst here
    rw [trustOf_writeCert]
    exact .certify rfl rfl fun held => ⟨rfl, held.2⟩
  case h_11 same here =>
    cases same
    subst here
    rw [trustOf_pairedInsert]
    exact .pair rfl
  case h_12 same here | h_13 same here =>
    cases same
    subst here
    rw [trustOf_pairedRemove]
    refine .ite (fun _ => .unpair) fun unpaired => ?_
    have kept : { trustOf _ s with paired := false } = trustOf _ s := congrArg (fun paired => { trustOf _ s with paired }) unpaired.symm
    rw [kept]
    exact .look rfl rfl id
  case h_14 same here =>
    cases same
    subst here
    exact .ite (fun _ => .look rfl rfl id) fun absent => .look rfl rfl fun unpaired => ⟨unpaired, absent⟩
  case h_15 same here =>
    cases same
    subst here
    rw [trustOf_removeCert]
    exact .dropCertificate rfl
  case h_16 same here =>
    cases same
    subst here
    exact .ite (fun _ => .look rfl rfl id) fun absent => .clear rfl absent
  case h_17 same here =>
    cases same
    subst here
    rw [trustOf_removePin]
    exact .dropPin rfl

section Refused

open PairingHandler

variable {e : Error} (refused : validateDeviceId platform d = .error e)

include refused

theorem settleAnchor_refused (refusal : String) (pendingCert : Option Bytes) :
    ∃ error, (settleAnchor platform refusal d pendingCert).run = .done (.error error) := by
  cases pendingCert with
  | some certDer =>
    unfold settleAnchor storePeerCertificate CertificateManager.hasPeerFingerprint fingerprintPath peerCertPath deviceFile
    rw [refused]
    exact ⟨_, rfl⟩
  | none =>
    unfold settleAnchor PairingHandler.hasPeerFingerprint CertificateManager.hasPeerFingerprint fingerprintPath deviceFile
    rw [refused]
    exact ⟨_, rfl⟩

/-- A device whose id is refused is never paired. -/
theorem only_completePairing_refused (refusal : String) :
    Only (completePairing platform settings refusal d).run (fun action => action ≠ pairedInsert d) fun _ => True := by
  refine ⟨by simp, fun pendingCert => ?_⟩
  obtain ⟨error, failed⟩ := settleAnchor_refused refused refusal pendingCert
  refine (only_except_bind _ _ _).mpr ?_
  rw [failed]
  trivial

theorem only_call_refused (call : TrustCall) :
    (call.program platform settings d).Only (fun action => action ≠ pairedInsert d) fun _ => True := by
  have requests : Only (removePendingRequest d).run (fun action => action ≠ pairedInsert d) fun _ => True :=
    (only_removePendingRequest d).weaken (fun action drops => by rintro rfl; exact drops) fun _ _ => trivial
  cases call with
  | unpair =>
    refine (only_attempt _ _).mpr ((only_unpair platform settings d).weaken (fun action unpairs => ?_) fun _ _ => trivial)
    rintro rfl
    exact unpairs
  | accept =>
    refine (only_attempt _ _).mpr (requests.except_bind fun hadRequest => ?_)
    cases hadRequest with
    | false => trivial
    | true => exact only_completePairing_refused refused _
  | forceAccept =>
    refine (only_attempt _ _).mpr ⟨by simp, fun own => ?_⟩
    have rest : Only (do
        liftM (attempt (removePendingRequest d))
        completePairing platform settings "Refusing force-accept of pairing with" d : ExceptT Error PairingProgram Unit).run
        (fun action => action ≠ pairedInsert d) fun _ => True :=
      (Only.except_lift ((only_attempt _ _).mpr requests)).except_bind fun _ => only_completePairing_refused refused _
    by_cases same : (own == some d) = true
    · exact (only_ite _ _ _ _).mpr ⟨fun _ => trivial, fun apart => absurd same apart⟩
    · exact (only_ite _ _ _ _).mpr ⟨fun here => absurd here same, fun _ => rest⟩

end Refused

theorem unmixed_iff (valid : validateDeviceId platform d = .ok ()) :
    Unmixed platform d s ↔ (trustOf d s).certificate = (trustOf d s).paired ∧ (trustOf d s).pin = (trustOf d s).paired := by
  rw [Unmixed, peerCertPath_eq valid, fingerprintPath_eq valid]
  rfl

theorem unmixed_iff_refused {e : Error} (refused : validateDeviceId platform d = .error e) :
    Unmixed platform d s ↔ s.paired.lookup d = none := by
  rw [Unmixed, peerCertPath, fingerprintPath, deviceFile, deviceFile, refused]
  cases s.paired.lookup d <;> simp [present]

theorem safe_start (unmixed : (trustOf d s).certificate = (trustOf d s).paired ∧ (trustOf d s).pin = (trustOf d s).paired) :
    Trust.Safe (trustOf d s) fun _ => .outside where
  anchored paired := ⟨unmixed.1.trans paired, unmixed.2.trans paired⟩
  whole _ pin := unmixed.1.trans (unmixed.2.symm.trans pin)
  owned there := .inl (there.elim (unmixed.1.symm.trans ·) (unmixed.2.symm.trans ·))
  apart _ _ _ := rfl
  supported _ := trivial

/-- Once all operations have returned, nothing is mixed, when no task was bound
to pair the device while another was bound to delete its files. -/
theorem trust_never_mixed (platform : Platform) (settings : PairingSettings) (d : DeviceId) (start : PairingState)
    (turns : List (Turn TrustCall)) (unmixed : Unmixed platform d start)
    (exclusive : ∀ k turn, turns[k]? = some turn → Exclusive platform d (atTurn platform settings d start turns k) turn) (k : Nat)
    (idle : (atTurn platform settings d start turns k).Idle) : Unmixed platform d (atTurn platform settings d start turns k).shared := by
  cases valid : validateDeviceId platform d with
  | error e =>
    rw [unmixed_iff_refused valid] at unmixed ⊢
    refine Pool.kept_within (I := fun s : PairingState => s.paired.lookup d = none) (only_call_refused valid) (fun action s apart none => ?_) unmixed k
    cases action with
    | pairedInsert other =>
      have different : d ≠ other := by
        rintro rfl
        exact apart rfl
      exact (AList.lookup_insert_ne different).trans none
    | pairedRemove other =>
      show (s.paired.erase other).lookup d = Option.none
      rw [Table.lookup_erase_of, none, ite_self]
    | requestInsert q e request => cases q <;> exact none
    | requestRemove q e => cases q <;> exact none
    | requestRetain q => cases q <;> exact none
    | _ => exact none
  | ok =>
    have invariant : Pool.Invariant (move platform d) .outside Stage.final PairingAction.exec (TrustCall.program platform settings d)
        (Exclusive platform d) fun s stages trace =>
          (∀ task, Pool.reached (move platform d) .outside trace task = stages task) ∧ Trust.Safe (trustOf d s) stages := by
      refine ⟨follows_call valid, fun pool stages task action later holds next allowed moved => ?_⟩
      obtain ⟨same, safe⟩ := holds
      obtain ⟨commits, unpairs⟩ := allowed action later next (by rw [stageOf, same]; exact moved)
      simp only [stageOf, same] at commits unpairs
      exact ⟨Pool.reached_append same moved, safe.step (step_of_move moved) commits unpairs⟩
    rw [unmixed_iff valid] at unmixed ⊢
    obtain ⟨stages, phased, -, safe⟩ := invariant.run ⟨fun _ => rfl, safe_start unmixed⟩ exclusive k
    refine safe.unmixed fun task => ?_
    rcases phased.idle idle task with first | rests
    · rw [first]
      trivial
    · exact rests

section Sample

/-- A phone that is paired. -/
def pairedPhone (pendingCerts : Table DeviceId Bytes) : PairingState where
  paired := AList.insert samplePhone 0 ∅
  pendingCerts
  files := AList.insert (peerFile samplePhone) (.pem [0x30, 0x00])
    (AList.insert (fingerprintFile samplePhone) (.text (computeFingerprint samplePlatform [0x30, 0x00])) ∅)

/-- The phone is unpaired between the turns of `force_accept_pairing` in which
it takes the staged certificate and looks for the fingerprint. -/
def beforeChecks : List (Turn TrustCall) :=
  (.spawn .forceAccept :: List.replicate 4 (.take 0) : List (Turn TrustCall)) ++
  (.spawn .unpair :: List.replicate 16 (.take 1) : List (Turn TrustCall)) ++ List.replicate 8 (Turn.take 0)

/-- The phone is unpaired after `force_accept_pairing` has seen its fingerprint. -/
def afterChecks : List (Turn TrustCall) :=
  (.spawn .forceAccept :: List.replicate 5 (.take 0) : List (Turn TrustCall)) ++
  (.spawn .unpair :: List.replicate 16 (.take 1) : List (Turn TrustCall)) ++ List.replicate 5 (Turn.take 0)

/-- The turn keeps the two operations apart, for the tasks that there are. -/
def keepsApart (pool : Pool PairingAction PairingAction.Answer PairingState) : Turn TrustCall → Bool
  | .spawn _ => true
  | .take task => pool.trace.all (fun entry => entry.1 < 2) && (pool.next task).all fun action =>
    (move samplePlatform samplePhone (stageOf samplePlatform samplePhone pool task) action (action.exec pool.shared).1).all fun later =>
      (!later.committed || (List.range 2).all fun other => !(stageOf samplePlatform samplePhone pool other).unpairing) &&
        (!later.unpairing || (List.range 2).all fun other => !(stageOf samplePlatform samplePhone pool other).committed)

theorem exclusive_of_keepsApart {pool : Pool PairingAction PairingAction.Answer PairingState} {turn : Turn TrustCall}
    (apart : keepsApart pool turn = true) : Exclusive samplePlatform samplePhone pool turn := by
  cases turn with
  | spawn call => trivial
  | take task =>
    intro action later next moved
    simp only [keepsApart, next, moved, Option.all_some, Bool.and_eq_true, List.all_eq_true, Bool.or_eq_true, Bool.not_eq_true',
      List.mem_range, decide_eq_true_eq] at apart
    obtain ⟨tasks, unpairing, committed⟩ := apart
    have outside (other : Nat) (beyond : ¬other < 2) : stageOf samplePlatform samplePhone pool other = .outside :=
      Pool.reached_absent fun entry member same => beyond (same ▸ tasks entry member)
    refine ⟨fun commits other => ?_, fun unpairs other => ?_⟩
    · by_cases inside : other < 2
      · exact (unpairing.resolve_left (by simp [commits])) other inside
      · rw [outside other inside]
        rfl
    · by_cases inside : other < 2
      · exact (committed.resolve_left (by simp [unpairs])) other inside
      · rw [outside other inside]
        rfl

/-- Both operations have returned and the phone is paired. -/
def bothReturned (pool : Pool PairingAction PairingAction.Answer PairingState) : Bool :=
  (List.range pool.tasks.length).all (fun task => (pool.next task).isNone) && (pool.shared.paired.lookup samplePhone).isSome

theorem idle_of_bothReturned {pool : Pool PairingAction PairingAction.Answer PairingState} (returned : bothReturned pool = true) :
    pool.Idle ∧ (pool.shared.paired.lookup samplePhone).isSome := by
  simp only [bothReturned, Bool.and_eq_true, List.all_eq_true, List.mem_range] at returned
  exact ⟨Pool.idle_of_ended returned.1, returned.2⟩

/-- The certificate of the phone is staged again. -/
def stagedAgain : PairingState := pairedPhone (AList.insert samplePhone [0x30, 0x00] ∅)

theorem later_accept_wins :
    ((atTurn samplePlatform {} samplePhone stagedAgain beforeChecks beforeChecks.length).shared.paired.lookup samplePhone).isSome ∧
      Unmixed samplePlatform samplePhone (atTurn samplePlatform {} samplePhone stagedAgain beforeChecks beforeChecks.length).shared := by
  have unmixed : Unmixed samplePlatform samplePhone stagedAgain := by
    unfold Unmixed
    decide +kernel
  have passes : Pool.along PairingAction.exec (TrustCall.program samplePlatform {} samplePhone) keepsApart bothReturned
      (Pool.start stagedAgain) beforeChecks = true := by decide +kernel
  obtain ⟨apart, final⟩ : (∀ k turn, beforeChecks[k]? = some turn →
      keepsApart (atTurn samplePlatform {} samplePhone stagedAgain beforeChecks k) turn = true) ∧
      bothReturned (atTurn samplePlatform {} samplePhone stagedAgain beforeChecks beforeChecks.length) = true := Pool.along_after passes
  obtain ⟨idle, paired⟩ := idle_of_bothReturned final
  exact ⟨paired, trust_never_mixed samplePlatform {} samplePhone stagedAgain beforeChecks unmixed
    (fun k turn here => exclusive_of_keepsApart (apart k turn here)) beforeChecks.length idle⟩

/-- The phone is paired and its certificate is not there. -/
def unanchored (pool : Pool PairingAction PairingAction.Answer PairingState) : Bool :=
  bothReturned pool && !present pool.shared.files (peerCertPath samplePlatform samplePhone)

theorem mixed_of_unanchored {pool : Pool PairingAction PairingAction.Answer PairingState} (lost : unanchored pool = true) :
    pool.Idle ∧ ¬Unmixed samplePlatform samplePhone pool.shared := by
  rw [unanchored, Bool.and_eq_true, Bool.not_eq_true'] at lost
  obtain ⟨idle, paired⟩ := idle_of_bothReturned lost.1
  exact ⟨idle, fun unmixed => Bool.eq_false_iff.mp lost.2 (unmixed.1.trans paired)⟩

theorem accept_outruns_unpair :
    ¬∀ (platform : Platform) (settings : PairingSettings) (d : DeviceId) (start : PairingState) (turns : List (Turn TrustCall)) (k : Nat),
      Unmixed platform d start → (atTurn platform settings d start turns k).Idle →
        Unmixed platform d (atTurn platform settings d start turns k).shared := by
  have first : Unmixed samplePlatform samplePhone (pairedPhone ∅) := by
    unfold Unmixed
    decide +kernel
  have passes : Pool.along PairingAction.exec (TrustCall.program samplePlatform {} samplePhone) (fun _ _ => true) unanchored
      (Pool.start (pairedPhone ∅)) afterChecks = true := by decide +kernel
  have lost : unanchored (atTurn samplePlatform {} samplePhone (pairedPhone ∅) afterChecks afterChecks.length) = true :=
    (Pool.along_after passes).2
  obtain ⟨idle, mixed⟩ := mixed_of_unanchored lost
  exact fun never => mixed (never samplePlatform {} samplePhone (pairedPhone ∅) afterChecks afterChecks.length first idle)

end Sample

end TrustRace

end RustConnect
