import RustConnect.CertificateFiles
import RustConnect.Pem

namespace RustConnect

open Program CertificateManager

/-- The text in a file, as it was written. The saved pairings are in no certificate file. -/
def FileContent.text? : FileContent → Option String
  | .pem der => some (Pem.derToPemText der)
  | .text content => some content
  | .paired _ => none

def FileAction.Reads : FileAction → Prop
  | .exists _ => True
  | .read _ => True
  | _ => False

/-- A call that stores, verifies or forgets the certificate of one device. -/
inductive TrustOp
  | storePeerCertificate (certDer : Bytes)
  | verifyPeerCertificate (certDer : Bytes)
  | deletePeerCertificate
  deriving DecidableEq, Repr

namespace TrustOp

variable (platform : Platform) (d : DeviceId)

def program : TrustOp → ExceptT Error FileProgram Unit
  | storePeerCertificate certDer => CertificateManager.storePeerCertificate platform d certDer
  | verifyPeerCertificate certDer => CertificateManager.verifyPeerCertificate platform d certDer
  | deletePeerCertificate => CertificateManager.deletePeerCertificate platform d

/-- The certificate that is presented. -/
def presented : TrustOp → Option Bytes
  | storePeerCertificate certDer => some certDer
  | verifyPeerCertificate certDer => some certDer
  | deletePeerCertificate => none

def exec (op : TrustOp) (files : Files) : Except Error Unit × Files := run FileAction.exec (op.program platform d).run files

/-- The files after some calls, one after the other. -/
def filesAfter (ops : List TrustOp) (start : Files) : Files := ops.foldl (fun files op => (op.exec platform d files).2) start

end TrustOp

/-- The fingerprint that is stored for the device, as `load_peer_fingerprint` reads it. -/
def storedFingerprint (platform : Platform) (d : DeviceId) (files : Files) : Option String :=
  (run FileAction.exec (loadPeerFingerprint platform d).run files).1.toOption

/-- When the device has both files, the fingerprint is the digest of the certificate in the other one. -/
def Matching (platform : Platform) (errors : PemErrors) (d : DeviceId) (files : Files) : Prop :=
  ∀ certificate fingerprint, files.lookup (peerFile d) = some certificate → files.lookup (fingerprintFile d) = some fingerprint →
    ∃ pem stored der, certificate.text? = some pem ∧ Pem.pemToDer errors (toUtf8 pem) = .ok der ∧
      fingerprint = .text stored ∧ trim stored = computeFingerprint platform der

namespace TrustOp

variable {platform : Platform} {errors : PemErrors} {d : DeviceId} {files : Files}

theorem storedFingerprint_eq_some {fp : String} :
    storedFingerprint platform d files = some fp ↔
      validateDeviceId platform d = .ok () ∧ ∃ stored, files.lookup (fingerprintFile d) = some (.text stored) ∧ trim stored = fp := by
  unfold storedFingerprint
  cases valid : validateDeviceId platform d with
  | error e => simp [loadPeerFingerprint, fingerprintPath, deviceFile, valid, Except.toOption]
  | ok =>
    rw [run_loadPeerFingerprint valid]
    cases found : files.lookup (fingerprintFile d) with
    | none => simp [Except.toOption]
    | some content => cases content <;> simp [Except.toOption]

variable (platform d) in
/-- A call to store fails and changes nothing, or pins a first certificate, or
replaces a certificate by one with the pinned fingerprint. -/
theorem exec_storePeerCertificate (certDer : Bytes) (files : Files) :
    (∃ e, (storePeerCertificate certDer).exec platform d files = (.error e, files)) ∨
      (files.lookup (fingerprintFile d) = none ∧ (storePeerCertificate certDer).exec platform d files =
        (.ok (), (files.insert (peerFile d) (.pem certDer)).insert (fingerprintFile d) (.text (computeFingerprint platform certDer)))) ∨
      ∃ stored, files.lookup (fingerprintFile d) = some (.text stored) ∧ trim stored = computeFingerprint platform certDer ∧
        (storePeerCertificate certDer).exec platform d files = (.ok (), files.insert (peerFile d) (.pem certDer)) := by
  unfold exec program
  cases valid : validateDeviceId platform d with
  | error e => exact .inl (run_storePeerCertificate_refused valid certDer files)
  | ok =>
    cases found : files.lookup (fingerprintFile d) with
    | none => exact .inr (.inl ⟨rfl, run_storePeerCertificate_first valid certDer found⟩)
    | some content =>
      by_cases text : ∃ stored, content = .text stored
      · obtain ⟨stored, rfl⟩ := text
        rw [run_storePeerCertificate_pinned valid certDer found]
        split
        · exact .inr (.inr ⟨stored, rfl, ‹_›, rfl⟩)
        · exact .inl ⟨_, rfl⟩
      · left
        have unread : run FileAction.exec (loadPeerFingerprint platform d).run files =
            (.error (.internal "Failed to read peer fingerprint"), files) := by
          rw [run_loadPeerFingerprint valid, found]
          cases content with
          | text stored => exact absurd ⟨stored, rfl⟩ text
          | pem der => rfl
          | paired devices => rfl
        simp [CertificateManager.storePeerCertificate, verifyPeerFingerprint, run_hasPeerFingerprint valid, found, unread]

theorem exec_verifyPeerCertificate (certDer : Bytes) (files : Files) :
    ((verifyPeerCertificate certDer).exec platform d files).2 = files := by
  refine (only_verifyPeerCertificate (P := FileAction.Reads) (fun _ => trivial) (fun _ => trivial) certDer).invariant (I := fun after : Files => after = files) (fun action after reads same => ?_) rfl
  cases action with
  | «exists» path => exact same
  | read path => exact same
  | write path content => exact reads.elim
  | remove path => exact reads.elim
  | rename source target => exact reads.elim

variable (platform d) in
theorem exec_deletePeerCertificate (files : Files) :
    (deletePeerCertificate.exec platform d files).2 = files ∨
      (deletePeerCertificate.exec platform d files).2 = (files.erase (peerFile d)).erase (fingerprintFile d) := by
  unfold exec program
  cases valid : validateDeviceId platform d with
  | ok => exact .inr (by rw [run_deletePeerCertificate valid])
  | error e =>
    obtain ⟨e', ran⟩ := run_deletePeerCertificate_refused valid files
    exact .inl (by rw [ran])

/-- A certificate with another fingerprint than the stored one is refused, and nothing is written. -/
theorem exec_mismatch {op : TrustOp} {certDer : Bytes} {fp : String} (presents : op.presented = some certDer)
    (stored : storedFingerprint platform d files = some fp) (other : fp ≠ computeFingerprint platform certDer) :
    (∃ e, (op.exec platform d files).1 = .error e) ∧ (op.exec platform d files).2 = files := by
  obtain ⟨valid, content, found, trimmed⟩ := storedFingerprint_eq_some.mp stored
  rw [← trimmed] at other
  cases op with
  | storePeerCertificate der =>
    obtain rfl : der = certDer := Option.some.inj presents
    simp [exec, program, run_storePeerCertificate_pinned valid der found, other]
  | verifyPeerCertificate der =>
    obtain rfl : der = certDer := Option.some.inj presents
    simp [exec, program, CertificateManager.verifyPeerCertificate, run_hasPeerFingerprint valid, found,
      run_verifyPeerFingerprint valid der found, other]
  | deletePeerCertificate => cases presents

/-- One call other than a deletion keeps the stored fingerprint. -/
theorem storedFingerprint_exec {op : TrustOp} {fp : String} (stored : storedFingerprint platform d files = some fp)
    (keeps : op ≠ deletePeerCertificate) : storedFingerprint platform d (op.exec platform d files).2 = some fp := by
  obtain ⟨valid, content, found, trimmed⟩ := storedFingerprint_eq_some.mp stored
  cases op with
  | storePeerCertificate certDer =>
    rcases exec_storePeerCertificate platform d certDer files with ⟨e, failed⟩ | ⟨unpinned, -⟩ | ⟨-, -, -, replaced⟩
    · rwa [failed]
    · rw [unpinned] at found
      cases found
    · rw [replaced]
      refine storedFingerprint_eq_some.mpr ⟨valid, content, ?_, trimmed⟩
      rw [AList.lookup_insert_ne (fingerprintFile_ne_peerFile d d)]
      exact found
  | verifyPeerCertificate certDer => rwa [exec_verifyPeerCertificate]
  | deletePeerCertificate => exact absurd rfl keeps

theorem storedFingerprint_filesAfter {ops : List TrustOp} {fp : String} (stored : storedFingerprint platform d files = some fp)
    (keeps : deletePeerCertificate ∉ ops) : storedFingerprint platform d (filesAfter platform d ops files) = some fp := by
  induction ops generalizing files with
  | nil => exact stored
  | cons op ops ih =>
    obtain ⟨other, later⟩ := not_or.mp (List.mem_cons.not.mp keeps)
    exact ih (storedFingerprint_exec stored (Ne.symm other)) later

theorem recovered (errors : PemErrors) (certDer : Bytes) : Pem.pemToDer errors (toUtf8 (Pem.derToPemText certDer)) = .ok certDer :=
  Pem.pemToDer_derToPem errors certDer

theorem matching_exec (op : TrustOp) (before : Matching platform errors d files) :
    Matching platform errors d (op.exec platform d files).2 := by
  cases op with
  | storePeerCertificate certDer =>
    rcases exec_storePeerCertificate platform d certDer files with ⟨e, failed⟩ | ⟨-, pinned⟩ | ⟨content, found, same, replaced⟩
    · rwa [failed]
    · rw [pinned]
      intro certificate fingerprint peer print
      rw [AList.lookup_insert_ne (fingerprintFile_ne_peerFile d d).symm, AList.lookup_insert] at peer
      rw [AList.lookup_insert] at print
      obtain rfl := Option.some.inj peer
      obtain rfl := Option.some.inj print
      exact ⟨_, _, certDer, rfl, recovered errors certDer, rfl, trim_hexEncode _⟩
    · rw [replaced]
      intro certificate fingerprint peer print
      rw [AList.lookup_insert] at peer
      rw [AList.lookup_insert_ne (fingerprintFile_ne_peerFile d d), found] at print
      obtain rfl := Option.some.inj peer
      obtain rfl := Option.some.inj print
      exact ⟨_, content, certDer, rfl, recovered errors certDer, rfl, same⟩
  | verifyPeerCertificate certDer => rwa [exec_verifyPeerCertificate]
  | deletePeerCertificate =>
    rcases exec_deletePeerCertificate platform d files with same | gone
    · rwa [same]
    · rw [gone]
      intro certificate fingerprint _ print
      rw [AList.lookup_erase] at print
      cases print

theorem matching_filesAfter (ops : List TrustOp) (before : Matching platform errors d files) :
    Matching platform errors d (filesAfter platform d ops files) := by
  induction ops generalizing files with
  | nil => exact before
  | cons op ops ih => exact ih (matching_exec op before)

/-- Trust on first use: in every sequence of calls, the stored fingerprint
stays until it is deleted, another certificate is refused without a trace,
verifying writes nothing, and the two files agree. -/
theorem trust_on_first_use (platform : Platform) (errors : PemErrors) (d : DeviceId) (start : Files)
    (matching : Matching platform errors d start) (ops : List TrustOp) :
    (∀ fp later, storedFingerprint platform d (filesAfter platform d ops start) = some fp → deletePeerCertificate ∉ later →
      storedFingerprint platform d (filesAfter platform d (ops ++ later) start) = some fp) ∧
    (∀ (op : TrustOp) certDer fp, op.presented = some certDer → storedFingerprint platform d (filesAfter platform d ops start) = some fp →
      fp ≠ computeFingerprint platform certDer →
      (∃ e, (op.exec platform d (filesAfter platform d ops start)).1 = .error e) ∧
        (op.exec platform d (filesAfter platform d ops start)).2 = filesAfter platform d ops start) ∧
    (∀ certDer, Only ((verifyPeerCertificate certDer).program platform d).run FileAction.Reads fun _ => True) ∧
    Matching platform errors d (filesAfter platform d ops start) ∧
    ∀ certDer, (Pem.derToPem certDer >>= Pem.pemToDer errors) = .ok certDer := by
  refine ⟨fun fp later stored keeps => ?_, fun op certDer fp presents stored other => exec_mismatch presents stored other,
    fun certDer => CertificateManager.only_verifyPeerCertificate (fun _ => trivial) (fun _ => trivial) certDer, matching_filesAfter ops matching, Pem.pemToDer_derToPem errors⟩
  rw [filesAfter, List.foldl_append]
  exact storedFingerprint_filesAfter stored keeps

def sampleErrors : PemErrors where
  utf8 _ := "invalid utf-8 sequence"
  base64 _ := "Invalid padding"

/-- A phone's first certificate stays pinned when another one is presented. -/
theorem first_certificate_stays :
    Matching samplePlatform sampleErrors samplePhone ∅ ∧
      storedFingerprint samplePlatform samplePhone (filesAfter samplePlatform samplePhone [storePeerCertificate [0x30, 0x00]] ∅) =
        some "e4f60d0aa6d7f3d3b6a6494b1c861b99f649c6f9ec51abaf201b20f297327c95" ∧
      storedFingerprint samplePlatform samplePhone (filesAfter samplePlatform samplePhone
        ([storePeerCertificate [0x30, 0x00]] ++ [storePeerCertificate [0x30, 0x01], verifyPeerCertificate [0x30, 0x01]]) ∅) =
        some "e4f60d0aa6d7f3d3b6a6494b1c861b99f649c6f9ec51abaf201b20f297327c95" := by
  have matching : Matching samplePlatform sampleErrors samplePhone ∅ := fun certificate fingerprint peer _ => nomatch peer
  have stored : storedFingerprint samplePlatform samplePhone (filesAfter samplePlatform samplePhone [storePeerCertificate [0x30, 0x00]] ∅) =
      some "e4f60d0aa6d7f3d3b6a6494b1c861b99f649c6f9ec51abaf201b20f297327c95" := by decide +kernel
  exact ⟨matching, stored, (trust_on_first_use samplePlatform sampleErrors samplePhone ∅ matching [storePeerCertificate [0x30, 0x00]]).1 _ _ stored
    (by decide)⟩

end TrustOp

end RustConnect
