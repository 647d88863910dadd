import RustConnect.Files

namespace RustConnect

/-- What the daemon takes from other crates and from the Unicode tables: the
digest, the common name of a certificate (`Except.error` when the DER does not
parse, `none` when the subject has none), and `char::is_alphanumeric` beyond
ASCII. -/
structure Platform where
  sha256 : Bytes → Bytes
  commonName : Bytes → Except String (Option String)
  alphanumericBeyondAscii : Char → Bool

def minDeviceIdLen : Nat := 32

def maxDeviceIdLen : Nat := 38

def isAlphanumeric (platform : Platform) (c : Char) : Bool :=
  if c.toNat < 128 then c.isAlphanum else platform.alphanumericBeyondAscii c

/-- `validate_device_id`: the length is counted in UTF-8 bytes. -/
def validateDeviceId (platform : Platform) (id : String) : Except Error Unit :=
  if id.utf8ByteSize < minDeviceIdLen || id.utf8ByteSize > maxDeviceIdLen then
    .error (.validation s!"device_id must be {minDeviceIdLen}-{maxDeviceIdLen} characters" (some "device_id"))
  else if ['.', '.'] <:+: id.toList ∨ '/' ∈ id.toList ∨ '\\' ∈ id.toList ∨ '\x00' ∈ id.toList then
    .error (.validation "device_id contains invalid characters" (some "device_id"))
  else if !id.toList.all (fun c => isAlphanumeric platform c || c == '-' || c == '_') then
    .error (.validation "device_id must contain only alphanumeric characters, hyphens, or underscores"
      (some "device_id"))
  else
    .ok ()

namespace CertificateManager

variable (platform : Platform)

/-- The certificate directory joined with a name made from a device id, after the id is checked. -/
def deviceFile (context suffix : String) (deviceId : DeviceId) : Except Error Path :=
  match validateDeviceId platform deviceId with
  | .ok () => .ok (.cert (deviceId ++ suffix))
  | .error e => .error (.invalidRequest s!"Invalid device_id in {context}: {e.display}")

def certPath := deviceFile platform "cert_path" ".crt"

def keyPath := deviceFile platform "key_path" ".key"

def peerCertPath := deviceFile platform "peer_cert_path" "_peer.crt"

def fingerprintPath := deviceFile platform "fingerprint_path" "_fingerprint.txt"

def computeFingerprint (certDer : Bytes) : String := hexEncode (platform.sha256 certDer)

def hasPeerFingerprint (deviceId : DeviceId) : FileProgram Bool :=
  match fingerprintPath platform deviceId with
  | .ok path => FileProgram.pathExists path
  | .error _ => pure false

def storePeerFingerprint (deviceId : DeviceId) (fingerprint : String) : ExceptT Error FileProgram Unit := do
  let path ← fingerprintPath platform deviceId
  FileProgram.write path (.text fingerprint)

def loadPeerFingerprint (deviceId : DeviceId) : ExceptT Error FileProgram String := do
  let path ← fingerprintPath platform deviceId
  if !(← FileProgram.pathExists path) then
    throw (.notFound s!"No stored fingerprint for device: {deviceId}")
  match ← FileProgram.read path with
  | some (.text content) => return trim content
  | _ => throw (.internal "Failed to read peer fingerprint")

def verifyPeerFingerprint (deviceId : DeviceId) (certDer : Bytes) : ExceptT Error FileProgram Unit := do
  let storedFp ← loadPeerFingerprint platform deviceId
  let presentedFp := computeFingerprint platform certDer
  if storedFp ≠ presentedFp then
    throw (.certificateError
      s!"Certificate fingerprint mismatch for device {deviceId}: expected {storedFp}, got {presentedFp}")

def verifyPeerCertificate (deviceId : DeviceId) (certDer : Bytes) : ExceptT Error FileProgram Unit := do
  if ← hasPeerFingerprint platform deviceId then
    verifyPeerFingerprint platform deviceId certDer

/-- Verify before write: nothing reaches the disk when the presented
certificate fails the pinned fingerprint. -/
def storePeerCertificate (deviceId : DeviceId) (certDer : Bytes) : ExceptT Error FileProgram Unit := do
  let fingerprint := computeFingerprint platform certDer
  let firstUse := !(← hasPeerFingerprint platform deviceId)
  if !firstUse then
    verifyPeerFingerprint platform deviceId certDer
  let path ← peerCertPath platform deviceId
  FileProgram.write path (.pem certDer)
  if firstUse then
    storePeerFingerprint platform deviceId fingerprint

def deleteCertificate (deviceId : DeviceId) : ExceptT Error FileProgram Unit := do
  let certPath ← certPath platform deviceId
  let keyPath ← keyPath platform deviceId
  FileProgram.removeIfExists certPath
  FileProgram.removeIfExists keyPath

def deletePeerCertificate (deviceId : DeviceId) : ExceptT Error FileProgram Unit := do
  let peerPath ← peerCertPath platform deviceId
  let fpPath ← fingerprintPath platform deviceId
  FileProgram.removeIfExists peerPath
  FileProgram.removeIfExists fpPath

end CertificateManager

end RustConnect
