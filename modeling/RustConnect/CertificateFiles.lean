import RustConnect.CertificateManager

namespace RustConnect

/-- Two names that end differently are different, whatever they start with. -/
theorem append_ne_append {first second : String} (x y : String)
    (apart : ¬first.toList <:+ second.toList ∧ ¬second.toList <:+ first.toList) : x ++ first ≠ y ++ second := by
  intro same
  have chars : x.toList ++ first.toList = y.toList ++ second.toList := by
    simpa only [String.toList_append] using congrArg String.toList same
  have left : first.toList <:+ y.toList ++ second.toList := chars ▸ List.suffix_append ..
  rcases List.suffix_or_suffix_of_suffix left (List.suffix_append ..) with one | other
  · exact apart.1 one
  · exact apart.2 other

theorem append_right_cancel {x y suffix : String} (same : x ++ suffix = y ++ suffix) : x = y := by
  have chars : x.toList ++ suffix.toList = y.toList ++ suffix.toList := by
    simpa only [String.toList_append] using congrArg String.toList same
  exact String.toList_injective (List.append_cancel_right chars)

namespace CertificateManager

open Program

def certFile (deviceId : DeviceId) : Path := .cert (deviceId ++ ".crt")

def keyFile (deviceId : DeviceId) : Path := .cert (deviceId ++ ".key")

def peerFile (deviceId : DeviceId) : Path := .cert (deviceId ++ "_peer.crt")

def fingerprintFile (deviceId : DeviceId) : Path := .cert (deviceId ++ "_fingerprint.txt")

theorem fingerprintFile_injective : Function.Injective fingerprintFile :=
  fun _ _ same => append_right_cancel (Path.cert.inj same)

theorem peerFile_injective : Function.Injective peerFile :=
  fun _ _ same => append_right_cancel (Path.cert.inj same)

theorem fingerprintFile_ne_certFile (d e : DeviceId) : fingerprintFile d ≠ certFile e :=
  fun same => append_ne_append d e (by decide) (Path.cert.inj same)

theorem fingerprintFile_ne_keyFile (d e : DeviceId) : fingerprintFile d ≠ keyFile e :=
  fun same => append_ne_append d e (by decide) (Path.cert.inj same)

theorem fingerprintFile_ne_peerFile (d e : DeviceId) : fingerprintFile d ≠ peerFile e :=
  fun same => append_ne_append d e (by decide) (Path.cert.inj same)

variable {platform : Platform} {deviceId : DeviceId}

section Actions

variable {P : FileAction → Prop} (looks : ∀ path, P (.exists path)) (reads : ∀ path, P (.read path))

include looks

theorem only_hasPeerFingerprint : (hasPeerFingerprint platform deviceId).Only P fun _ => True := by
  unfold hasPeerFingerprint
  cases fingerprintPath platform deviceId with
  | ok path => exact ⟨looks path, fun _ => trivial⟩
  | error e => trivial

include reads

theorem only_loadPeerFingerprint : Only (loadPeerFingerprint platform deviceId).run P fun _ => True := by
  unfold loadPeerFingerprint
  cases fingerprintPath platform deviceId with
  | ok path =>
    refine ⟨looks path, fun found => ?_⟩
    cases found with
    | false => trivial
    | true =>
      refine ⟨reads path, fun content => ?_⟩
      rcases content with _ | _ | _ | _ <;> trivial
  | error e => trivial

theorem only_verifyPeerFingerprint (certDer : Bytes) :
    Only (verifyPeerFingerprint platform deviceId certDer).run P fun _ => True := by
  refine (only_loadPeerFingerprint looks reads).except_bind fun stored => ?_
  by_cases same : stored = computeFingerprint platform certDer
  · simp only [same, ne_eq, not_true_eq_false, if_false]
    trivial
  · simp only [ne_eq, same, not_false_eq_true, if_true]
    trivial

theorem only_verifyPeerCertificate (certDer : Bytes) :
    Only (verifyPeerCertificate platform deviceId certDer).run P fun _ => True := by
  refine (only_hasPeerFingerprint looks).except_lift.except_bind fun pinned => ?_
  cases pinned with
  | true => exact only_verifyPeerFingerprint looks reads certDer
  | false => trivial

end Actions

section Paths

variable (valid : validateDeviceId platform deviceId = .ok ())

include valid

theorem certPath_eq : certPath platform deviceId = .ok (certFile deviceId) := by
  simp only [certPath, deviceFile, valid, certFile]

theorem keyPath_eq : keyPath platform deviceId = .ok (keyFile deviceId) := by
  simp only [keyPath, deviceFile, valid, keyFile]

theorem peerCertPath_eq : peerCertPath platform deviceId = .ok (peerFile deviceId) := by
  simp only [peerCertPath, deviceFile, valid, peerFile]

theorem fingerprintPath_eq : fingerprintPath platform deviceId = .ok (fingerprintFile deviceId) := by
  simp only [fingerprintPath, deviceFile, valid, fingerprintFile]

theorem run_hasPeerFingerprint (files : Files) :
    run FileAction.exec (hasPeerFingerprint platform deviceId) files =
      ((files.lookup (fingerprintFile deviceId)).isSome, files) := by
  simp only [hasPeerFingerprint, fingerprintPath_eq valid, FileProgram.run_pathExists]

theorem run_loadPeerFingerprint (files : Files) :
    run FileAction.exec (loadPeerFingerprint platform deviceId).run files =
      (match files.lookup (fingerprintFile deviceId) with
        | none => .error (.notFound s!"No stored fingerprint for device: {deviceId}")
        | some (.text content) => .ok (trim content)
        | some _ => .error (.internal "Failed to read peer fingerprint"), files) := by
  unfold loadPeerFingerprint
  rw [fingerprintPath_eq valid]
  cases found : files.lookup (fingerprintFile deviceId) with
  | none => simp [found]
  | some content => cases content <;> simp [found]

theorem run_verifyPeerFingerprint (certDer : Bytes) {files : Files} {stored : String}
    (pinned : files.lookup (fingerprintFile deviceId) = some (.text stored)) :
    run FileAction.exec (verifyPeerFingerprint platform deviceId certDer).run files =
      (if trim stored = computeFingerprint platform certDer then .ok ()
        else .error (.certificateError
          s!"Certificate fingerprint mismatch for device {deviceId}: expected {trim stored}, got {computeFingerprint platform certDer}"),
        files) := by
  unfold verifyPeerFingerprint
  by_cases same : trim stored = computeFingerprint platform certDer
  · simp [run_loadPeerFingerprint valid, pinned, same]
  · simp [run_loadPeerFingerprint valid, pinned, same]

/-- A pinned device's certificate passes only when its digest is the pinned one. -/
theorem run_verifyPeerCertificate (certDer : Bytes) {files : Files} {pinned : Bytes}
    (found : files.lookup (fingerprintFile deviceId) = some (.text (computeFingerprint platform pinned))) :
    (run FileAction.exec (verifyPeerCertificate platform deviceId certDer).run files).1 = .ok () ↔
      computeFingerprint platform certDer = computeFingerprint platform pinned := by
  have clean : trim (computeFingerprint platform pinned) = computeFingerprint platform pinned := trim_hexEncode _
  unfold verifyPeerCertificate
  by_cases same : computeFingerprint platform certDer = computeFingerprint platform pinned
  · simp [run_hasPeerFingerprint valid, found, run_verifyPeerFingerprint valid certDer found, clean, same]
  · simp [run_hasPeerFingerprint valid, found, run_verifyPeerFingerprint valid certDer found, clean, same,
      Ne.symm same]

/-- A first certificate is stored with its fingerprint. -/
theorem run_storePeerCertificate_first (certDer : Bytes) {files : Files}
    (unpinned : files.lookup (fingerprintFile deviceId) = none) :
    run FileAction.exec (storePeerCertificate platform deviceId certDer).run files =
      (.ok (), (files.insert (peerFile deviceId) (.pem certDer)).insert (fingerprintFile deviceId)
        (.text (computeFingerprint platform certDer))) := by
  unfold storePeerCertificate storePeerFingerprint
  simp [run_hasPeerFingerprint valid, unpinned, peerCertPath_eq valid, fingerprintPath_eq valid]

/-- A pinned device's certificate is replaced only by one with the pinned fingerprint. -/
theorem run_storePeerCertificate_pinned (certDer : Bytes) {files : Files} {stored : String}
    (pinned : files.lookup (fingerprintFile deviceId) = some (.text stored)) :
    run FileAction.exec (storePeerCertificate platform deviceId certDer).run files =
      if trim stored = computeFingerprint platform certDer then
        (.ok (), files.insert (peerFile deviceId) (.pem certDer))
      else
        (.error (.certificateError
          s!"Certificate fingerprint mismatch for device {deviceId}: expected {trim stored}, got {computeFingerprint platform certDer}"),
          files) := by
  unfold storePeerCertificate
  by_cases same : trim stored = computeFingerprint platform certDer
  · simp [run_hasPeerFingerprint valid, pinned, run_verifyPeerFingerprint valid certDer pinned, same,
      peerCertPath_eq valid]
  · simp [run_hasPeerFingerprint valid, pinned, run_verifyPeerFingerprint valid certDer pinned, same]

theorem run_deleteCertificate (files : Files) :
    run FileAction.exec (deleteCertificate platform deviceId).run files =
      (.ok (), (files.erase (certFile deviceId)).erase (keyFile deviceId)) := by
  unfold deleteCertificate
  simp [certPath_eq valid, keyPath_eq valid]

theorem run_deletePeerCertificate (files : Files) :
    run FileAction.exec (deletePeerCertificate platform deviceId).run files =
      (.ok (), (files.erase (peerFile deviceId)).erase (fingerprintFile deviceId)) := by
  unfold deletePeerCertificate
  simp [peerCertPath_eq valid, fingerprintPath_eq valid]

end Paths

section Refused

variable {e : Error} (refused : validateDeviceId platform deviceId = .error e)

include refused

theorem run_hasPeerFingerprint_refused (files : Files) :
    run FileAction.exec (hasPeerFingerprint platform deviceId) files = (false, files) := by
  simp [hasPeerFingerprint, fingerprintPath, deviceFile, refused]

theorem run_storePeerCertificate_refused (certDer : Bytes) (files : Files) :
    ∃ e', run FileAction.exec (storePeerCertificate platform deviceId certDer).run files = (.error e', files) := by
  unfold storePeerCertificate
  simp [run_hasPeerFingerprint_refused refused, peerCertPath, deviceFile, refused]

theorem run_deletePeerCertificate_refused (files : Files) :
    ∃ e', run FileAction.exec (deletePeerCertificate platform deviceId).run files = (.error e', files) := by
  unfold deletePeerCertificate
  simp [peerCertPath, deviceFile, refused]

end Refused

/-- A fingerprint is only ever found for an id that passes the check. -/
theorem run_hasPeerFingerprint_iff {files : Files} :
    (run FileAction.exec (hasPeerFingerprint platform deviceId) files).1 = true ↔
      validateDeviceId platform deviceId = .ok () ∧ (files.lookup (fingerprintFile deviceId)).isSome := by
  cases valid : validateDeviceId platform deviceId with
  | ok => simp [run_hasPeerFingerprint valid]
  | error e => simp [run_hasPeerFingerprint_refused valid]

end CertificateManager

/-- A platform whose digest is right for the two-byte certificate `30 00`. -/
def samplePlatform : Platform where
  sha256 certDer :=
    if certDer = [0x30, 0x00] then
      [228, 246, 13, 10, 166, 215, 243, 211, 182, 166, 73, 75, 28, 134, 27, 153,
        246, 73, 198, 249, 236, 81, 171, 175, 32, 27, 32, 242, 151, 50, 124, 149]
    else []
  commonName _ := .ok none
  alphanumericBeyondAscii _ := false

def samplePhone : DeviceId := "0123456789abcdef0123456789abcdef"

end RustConnect
