import RustConnect.PairingViews
import RustConnect.RefusedAttempts

namespace RustConnect

open Program CertificateManager

/-- What changes the certificate store for one device. -/
inductive CertificateOp
  | storePeerCertificate (certDer : Bytes)
  | deletePeerCertificate
  | deleteCertificate
  | unpair
  deriving DecidableEq, Repr

namespace CertificateOp

variable (platform : Platform) (settings : PairingSettings)

def program (d : DeviceId) : CertificateOp → PairingProgram Unit
  | storePeerCertificate certDer => PairingHandler.ignoreResult (CertificateManager.storePeerCertificate platform d certDer)
  | deletePeerCertificate => PairingHandler.ignoreResult (CertificateManager.deletePeerCertificate platform d)
  | deleteCertificate => PairingHandler.ignoreResult (CertificateManager.deleteCertificate platform d)
  | unpair => attempt (PairingHandler.unpair platform settings d)

/-- The files that the operation leaves behind. -/
def filesAfter (op : CertificateOp) (d : DeviceId) (s : PairingState) : Files :=
  (run PairingAction.exec (op.program platform settings d) s).2.files

/-- Whether `<d>.crt` and `<d>.key` are deleted. -/
def deletesOwn (op : CertificateOp) (d : DeviceId) (s : PairingState) : Bool :=
  match op with
  | deleteCertificate => true
  | unpair => (s.paired.lookup d).isSome
  | _ => false

end CertificateOp

/-- The peer certificate and the fingerprint of the device, and our own certificate and key, are as they were. -/
structure Spares (e : DeviceId) (before after : Files) : Prop where
  peer : after.lookup (peerFile e) = before.lookup (peerFile e)
  fingerprint : after.lookup (fingerprintFile e) = before.lookup (fingerprintFile e)
  ownCert : after.lookup ownCertPath = before.lookup ownCertPath
  ownKey : after.lookup ownKeyPath = before.lookup ownKeyPath

namespace CertificateManager

theorem peerFile_ne_keyFile (d e : DeviceId) : peerFile d ≠ keyFile e :=
  fun same => append_ne_append d e (by decide) (Path.cert.inj same)

/-- The one way in which the files of two devices can be the same: one id ends in `_peer`. -/
theorem peerFile_eq_certFile_iff (d e : DeviceId) : peerFile e = certFile d ↔ d = e ++ "_peer" := by
  have suffix : "_peer.crt" = "_peer" ++ ".crt" := by decide
  unfold peerFile certFile
  rw [Path.cert.injEq, suffix, ← String.append_assoc]
  exact ⟨fun same => (append_right_cancel same).symm, fun same => by rw [same]⟩

theorem long_of_valid {platform : Platform} {d : DeviceId} (valid : validateDeviceId platform d = .ok ()) :
    32 ≤ d.utf8ByteSize := by
  unfold validateDeviceId at valid
  split at valid
  · cases valid
  · rename_i sized
    by_contra short
    exact sized (by simp [minDeviceIdLen, Nat.lt_of_not_le short])

/-- Our own files have names too short for a device id. -/
theorem own_ne {platform : Platform} {d : DeviceId} (valid : validateDeviceId platform d = .ok ()) (suffix : String) {own : String}
    (short : own.utf8ByteSize < 32) : Path.cert own ≠ .cert (d ++ suffix) := by
  intro same
  have long := long_of_valid valid
  have sizes := congrArg String.utf8ByteSize (Path.cert.inj same)
  rw [String.utf8ByteSize_append] at sizes
  omega

end CertificateManager

namespace CertificateOp

variable {platform : Platform} {settings : PairingSettings} {d e : DeviceId} {s : PairingState}

variable (settings) in
theorem filesAfter_unpair (valid : validateDeviceId platform d = .ok ()) (paired : (s.paired.lookup d).isSome) :
    unpair.filesAfter platform settings d s =
      PairingState.savedFiles settings (s.paired.erase d)
        ((((s.files.erase (certFile d)).erase (keyFile d)).erase (peerFile d)).erase (fingerprintFile d)) := by
  simp [filesAfter, program, PairingHandler.unpair, PairingHandler.forgetDevice, PairingHandler.ignoreResult, PairingAction.exec,
    paired, run_deleteCertificate valid, run_deletePeerCertificate valid]

theorem lookup_savedFiles (settings : PairingSettings) (paired : Table DeviceId Time) (files : Files) (name : String) :
    (PairingState.savedFiles settings paired files).lookup (.cert name) = files.lookup (.cert name) := by
  unfold PairingState.savedFiles
  split
  · simp [pairedPath, pairedTempPath]
  · rfl

variable (settings s) in
/-- What is left of a file in the certificate directory that is neither the
peer certificate nor the fingerprint of the device. -/
theorem lookup_filesAfter (valid : validateDeviceId platform d = .ok ()) (op : CertificateOp) (name : String)
    (other : .cert name ≠ peerFile d) (unpinned : .cert name ≠ fingerprintFile d) :
    (op.filesAfter platform settings d s).lookup (.cert name) =
      if op.deletesOwn d s ∧ (.cert name = certFile d ∨ .cert name = keyFile d) then none else s.files.lookup (.cert name) := by
  cases op with
  | storePeerCertificate certDer =>
    have kept : (run FileAction.exec (CertificateManager.storePeerCertificate platform d certDer).run s.files).2.lookup
        (.cert name) = s.files.lookup (.cert name) := by
      refine (PairingHandler.only_storePeerCertificate platform d certDer).invariant
        (I := fun files : Files => files.lookup (.cert name) = s.files.lookup (.cert name)) (fun action files stores same => ?_) rfl
      cases action with
      | write path content =>
        have apart : .cert name ≠ path := by
          rcases stores with rfl | ⟨rfl, -⟩
          · exact other
          · exact unpinned
        exact (AList.lookup_insert_ne apart).trans same
      | «exists» path => exact same
      | read path => exact same
      | remove path => exact stores.elim
      | rename source target => exact stores.elim
    simpa [filesAfter, program, PairingHandler.ignoreResult, deletesOwn] using kept
  | deletePeerCertificate =>
    simp [filesAfter, program, PairingHandler.ignoreResult, deletesOwn, run_deletePeerCertificate valid, other, unpinned]
  | deleteCertificate =>
    simp only [filesAfter, program, PairingHandler.ignoreResult, deletesOwn, PairingHandler.run_onFiles, run_attempt,
      run_deleteCertificate valid, Table.lookup_erase_of, true_and]
    by_cases key : .cert name = keyFile d
    · simp [key]
    · simp [key]
  | unpair =>
    cases paired : (s.paired.lookup d).isSome with
    | false =>
      simp [filesAfter, program, PairingHandler.unpair, PairingAction.exec, paired, deletesOwn]
    | true =>
      rw [filesAfter_unpair settings valid paired, lookup_savedFiles]
      simp only [Table.lookup_erase_of, other, unpinned, if_false, deletesOwn, paired, true_and]
      by_cases key : .cert name = keyFile d
      · simp [key]
      · simp [key]

/-- Whatever is done for one device leaves the files of every other device and
our own alone, unless `<d>.crt` is deleted for an id that is the other one
followed by `_peer`: that file is the other device's peer certificate. -/
theorem spares_other_device_iff (platform : Platform) (settings : PairingSettings) (op : CertificateOp) (d e : DeviceId)
    (s : PairingState) (valid : validateDeviceId platform d = .ok ()) (apart : e ≠ d) :
    Spares e s.files (op.filesAfter platform settings d s) ↔
      ¬(op.deletesOwn d s ∧ d = e ++ "_peer" ∧ (s.files.lookup (peerFile e)).isSome) := by
  have peer : (op.filesAfter platform settings d s).lookup (peerFile e) =
      if op.deletesOwn d s ∧ (peerFile e = certFile d ∨ peerFile e = keyFile d) then none else s.files.lookup (peerFile e) :=
    lookup_filesAfter settings s valid op (e ++ "_peer.crt") (fun same => apart (peerFile_injective same))
      fun same => fingerprintFile_ne_peerFile d e same.symm
  have fingerprint := lookup_filesAfter settings s valid op (e ++ "_fingerprint.txt") (fingerprintFile_ne_peerFile e d)
    fun same => apart (fingerprintFile_injective same)
  have cert := lookup_filesAfter settings s valid op "own.crt" (own_ne valid _ (by decide)) (own_ne valid _ (by decide))
  have key := lookup_filesAfter settings s valid op "own.key" (own_ne valid _ (by decide)) (own_ne valid _ (by decide))
  simp only [peerFile_eq_certFile_iff, peerFile_ne_keyFile, or_false] at peer
  rw [if_neg fun touched => touched.2.elim (fingerprintFile_ne_certFile e d) (fingerprintFile_ne_keyFile e d)] at fingerprint
  rw [if_neg fun touched => touched.2.elim (own_ne valid _ (by decide)) (own_ne valid _ (by decide))] at cert key
  constructor
  · rintro spares ⟨deletes, collides, there⟩
    have kept := spares.peer
    rw [peer, if_pos ⟨deletes, collides⟩] at kept
    rw [← kept] at there
    cases there
  · intro clear
    refine ⟨?_, fingerprint, cert, key⟩
    rw [peer]
    split
    · rename_i collides
      have absent : ¬(s.files.lookup (peerFile e)).isSome := fun there => clear ⟨collides.1, collides.2, there⟩
      exact (Option.not_isSome_iff_eq_none.mp absent).symm
    · rfl

/-- Unpairing a device deletes its own files. -/
theorem unpair_spares_other_phone :
    validateDeviceId samplePlatform samplePhone = .ok () ∧
      Spares RefusedAttempts.phoneId (AList.insert (peerFile RefusedAttempts.phoneId) (.pem [0x30, 0x00]) ∅)
        (unpair.filesAfter samplePlatform {} samplePhone
          { paired := AList.insert samplePhone 0 ∅, files := AList.insert (peerFile RefusedAttempts.phoneId) (.pem [0x30, 0x00]) ∅ }) :=
  ⟨by decide +kernel, (spares_other_device_iff samplePlatform {} unpair samplePhone RefusedAttempts.phoneId
    { paired := AList.insert samplePhone 0 ∅, files := AList.insert (peerFile RefusedAttempts.phoneId) (.pem [0x30, 0x00]) ∅ }
    (by decide +kernel) (by decide +kernel)).mpr fun collides => absurd collides.2.1 (by decide +kernel)⟩

/-- Unpairing the device `<id>_peer` deletes the certificate of the device `<id>`. -/
theorem unpair_deletes_other_certificate :
    ¬(∀ (op : CertificateOp) (d e : DeviceId) (s : PairingState), validateDeviceId samplePlatform d = .ok () →
      validateDeviceId samplePlatform e = .ok () → e ≠ d → Spares e s.files (op.filesAfter samplePlatform {} d s)) := by
  intro spares
  have kept := (spares unpair (samplePhone ++ "_peer") samplePhone
    { paired := AList.insert (samplePhone ++ "_peer") 0 ∅, files := AList.insert (peerFile samplePhone) (.pem [0x30, 0x00]) ∅ }
    (by decide +kernel) (by decide +kernel) (by decide +kernel)).peer
  exact absurd kept (by decide +kernel)

end CertificateOp

end RustConnect
