import RustConnect.Attempts
import RustConnect.CertificateFrame
import RustConnect.Pem

namespace RustConnect

open CertificateManager

/-- The disk at start-up: every file is whatever bytes it holds. -/
abbrev Disk := Table Path Bytes

def deviceIdPath : Path := .data "device_id"

/-- What a certificate is generated from. The key, the serial number and the
dates come from the generator and the clock. -/
structure CertificateParams where
  dnsName : String
  commonName : String
  organizationalUnit : String
  organization : String
  deriving DecidableEq, Repr

/-- What start-up takes from other crates: the parsers, the generator of keys
and certificates, and whether a certificate is in force now. -/
structure StartUp where
  platform : Platform
  errors : PemErrors
  selfSigned : CertificateParams → Except Error (Bytes × Bytes)
  inForce : Bytes → Bool

structure OwnIdentity where
  deviceId : DeviceId
  deviceName : String
  deriving DecidableEq, Repr

/-- `Identity::generate_device_id`: sixteen random bytes as the text of a version 4 UUID. -/
def generateDeviceId (random : Vector UInt8 16) : DeviceId :=
  let bytes := ((random.set 6 ((random[6] &&& 0x0F) ||| 0x40)).set 8 ((random[8] &&& 0x3F) ||| 0x80)).toList
  let group (start count : Nat) := hexEncode ((bytes.drop start).take count)
  group 0 4 ++ "-" ++ group 4 2 ++ "-" ++ group 6 2 ++ "-" ++ group 8 2 ++ "-" ++ group 10 6

namespace StartUp

variable (env : StartUp)

def generateCertificate (deviceId : DeviceId) (_deviceName : String) : Except Error (Bytes × Bytes) :=
  env.selfSigned {
    dnsName := String.ofList (deviceId.toList.map fun c => if c.isAlphanum || c == '_' then c else '_')
    commonName := deviceId
    organizationalUnit := "KDE Connect"
    organization := "KDE" }

def hasOwnCertificate (disk : Disk) : Bool := (disk.lookup ownCertPath).isSome && (disk.lookup ownKeyPath).isSome

def storeOwnCertificate (certPem keyPem : Bytes) (disk : Disk) : Disk :=
  (disk.insert ownCertPath certPem).insert ownKeyPath keyPem

def ownCertificateIsValid (disk : Disk) : Bool :=
  match disk.lookup ownCertPath with
  | none => false
  | some pemBytes =>
    match Pem.pemToDer env.errors pemBytes with
    | .error _ => false
    | .ok der =>
      match env.platform.commonName der with
      | .error _ => false
      | .ok _ => env.inForce der

def ensureOwnCertificate (deviceId : DeviceId) (deviceName : String) (disk : Disk) : Except Error Unit × Disk :=
  if hasOwnCertificate disk && env.ownCertificateIsValid disk then (.ok (), disk)
  else match env.generateCertificate deviceId deviceName with
    | .error e => (.error e, disk)
    | .ok (certPem, keyPem) => (.ok (), storeOwnCertificate certPem keyPem disk)

/-- From the bytes of a certificate file to the common name. -/
def certificateCn (pem : Bytes) : Except Error String :=
  match Pem.pemToDer env.errors pem with
  | .error e => .error (.certificateError s!"Failed to parse own certificate: {e.display}")
  | .ok der => ConnectionManager.extractCnFromDer env.platform der

def ownCertificateCn (disk : Disk) : Except Error (Option String) :=
  match disk.lookup ownCertPath with
  | none => .ok none
  | some pem => (env.certificateCn pem).map some

/-- `fs::rename`. -/
def renameFile (source target : Path) (disk : Disk) : Disk :=
  match disk.lookup source with
  | some content => (disk.erase source).insert target content
  | none => disk

def adoptLegacyOwnCertificate (deviceId : DeviceId) (disk : Disk) : Except Error Bool × Disk :=
  if hasOwnCertificate disk then (.ok false, disk)
  else match certPath env.platform deviceId, keyPath env.platform deviceId with
    | .error e, _ => (.error e, disk)
    | _, .error e => (.error e, disk)
    | .ok legacyCert, .ok legacyKey =>
      match disk.lookup legacyCert, disk.lookup legacyKey with
      | some pem, some _ =>
        if (env.certificateCn pem).toOption = some deviceId then
          (.ok true, renameFile legacyKey ownKeyPath (renameFile legacyCert ownCertPath disk))
        else (.ok false, disk)
      | _, _ => (.ok false, disk)

def writeIdFile (deviceId : DeviceId) (disk : Disk) : Disk := disk.insert deviceIdPath (toUtf8 deviceId)

def regenerate (random : Vector UInt8 16) (deviceName : String) (disk : Disk) : Except Error DeviceId × Disk :=
  let id := generateDeviceId random
  match env.generateCertificate id deviceName with
  | .error e => (.error e, disk)
  | .ok (certPem, keyPem) => (.ok id, writeIdFile id (storeOwnCertificate certPem keyPem disk))

/-- The id in the file, when it is one. -/
def idFromFile (disk : Disk) : Option DeviceId := do
  let bytes ← disk.lookup deviceIdPath
  let text ← fromUtf8 bytes
  if (validateDeviceId env.platform (trim text)).toOption.isSome then some (trim text) else none

/-- The certificate for an id that has none yet: a legacy one if its name is the id, or else a new one. -/
def adoptOrEnsure (id : DeviceId) (deviceName : String) (disk : Disk) : Except Error Unit × Disk :=
  match env.adoptLegacyOwnCertificate id disk with
  | (.error e, after) => (.error e, after)
  | (.ok true, after) => (.ok (), after)
  | (.ok false, after) => env.ensureOwnCertificate id deviceName after

def chooseDeviceId (random : Vector UInt8 16) (deviceName : String) (disk : Disk) :
    Option DeviceId → Option String → Except Error DeviceId × Disk
  | some id, some cn => if id = cn then (.ok id, disk) else env.regenerate random deviceName disk
  | some id, none =>
    match env.adoptOrEnsure id deviceName disk with
    | (.error e, after) => (.error e, after)
    | (.ok (), after) => (.ok id, after)
  | none, some cn => (.ok cn, writeIdFile cn disk)
  | none, none => env.regenerate random deviceName disk

def loadOrCreate (random : Vector UInt8 16) (deviceName : String) (disk : Disk) : Except Error OwnIdentity × Disk :=
  match env.ownCertificateCn disk with
  | .error e => (.error e, disk)
  | .ok cnFromCert =>
    match env.chooseDeviceId random deviceName disk (env.idFromFile disk) cnFromCert with
    | (.error e, after) => (.error e, after)
    | (.ok deviceId, after) => (.ok { deviceId, deviceName }, after)

end StartUp

theorem utf8ByteSize_ascii {chars : List Char} (ascii : ∀ c ∈ chars, c.toNat < 128) :
    (String.ofList chars).utf8ByteSize = chars.length := by
  induction chars with
  | nil => rfl
  | cons c chars ih =>
    have one : c.utf8Size = 1 := Char.utf8Size_eq_one_iff.mpr (Nat.lt_succ_iff.mp (ascii c List.mem_cons_self))
    rw [String.ofList_cons, String.utf8ByteSize_append, ih fun c member => ascii c (List.mem_cons_of_mem _ member)]
    simp [one]
    omega

/-- The characters of a generated id. -/
def hexOrHyphen (c : Char) : Bool := (c.isAlphanum && c.toNat < 128) || c == '-'

theorem hexOrHyphen_hexEncode {bytes : Bytes} {c : Char} (member : c ∈ (hexEncode bytes).toList) : hexOrHyphen c = true := by
  have digits : ∀ k : Fin 16, hexOrHyphen k.val.digitChar = true := by decide
  rw [hexEncode, String.toList_ofList] at member
  obtain ⟨b, -, digit⟩ := List.mem_flatMap.mp member
  have bound := b.toNat_lt
  rcases List.mem_cons.mp digit with high | rest
  · rw [high]
    exact digits ⟨b.toNat / 16, by omega⟩
  · rw [List.mem_singleton.mp rest]
    exact digits ⟨b.toNat % 16, by omega⟩

theorem length_hexEncode (bytes : Bytes) : (hexEncode bytes).toList.length = 2 * bytes.length := by
  rw [hexEncode, String.toList_ofList]
  induction bytes with
  | nil => rfl
  | cons b bytes ih =>
    rw [List.flatMap_cons, List.length_append, ih]
    simp
    omega

/-- Every text of 32 to 38 letters, digits and hyphens is a device id. -/
theorem validateDeviceId_of_hexOrHyphen (platform : Platform) {id : DeviceId} (chars : ∀ c ∈ id.toList, hexOrHyphen c = true)
    (long : 32 ≤ id.toList.length) (short : id.toList.length ≤ 38) : validateDeviceId platform id = .ok () := by
  have ascii : ∀ c ∈ id.toList, c.toNat < 128 := by
    intro c member
    have kind := chars c member
    simp only [hexOrHyphen, Bool.or_eq_true, Bool.and_eq_true, decide_eq_true_eq, beq_iff_eq] at kind
    rcases kind with letter | rfl
    · exact letter.2
    · decide
  have size : id.utf8ByteSize = id.toList.length := by
    simpa only [String.ofList_toList] using utf8ByteSize_ascii ascii
  have absent (c : Char) (other : hexOrHyphen c = false) : c ∉ id.toList := by
    intro member
    rw [chars c member] at other
    cases other
  have dots : ¬['.', '.'] <:+: id.toList := fun inside => absent '.' (by decide) (inside.subset List.mem_cons_self)
  have allowed : id.toList.all (fun c => isAlphanumeric platform c || c == '-' || c == '_') = true := by
    refine List.all_eq_true.mpr fun c member => ?_
    have kind := chars c member
    simp only [hexOrHyphen, Bool.or_eq_true, Bool.and_eq_true, decide_eq_true_eq, beq_iff_eq] at kind
    rcases kind with letter | rfl
    · simp [isAlphanumeric, letter.1, letter.2]
    · simp
  have sized : ¬(id.utf8ByteSize < minDeviceIdLen || id.utf8ByteSize > maxDeviceIdLen) = true := by
    have lower : ¬id.utf8ByteSize < 32 := by omega
    have upper : ¬38 < id.utf8ByteSize := by omega
    simp [minDeviceIdLen, maxDeviceIdLen, lower, upper]
  unfold validateDeviceId
  rw [if_neg sized, if_neg (by simp [dots, absent '/' (by decide), absent '\\' (by decide), absent '\x00' (by decide)]), if_neg]
  simp [allowed]

theorem validateDeviceId_generateDeviceId (platform : Platform) (random : Vector UInt8 16) :
    validateDeviceId platform (generateDeviceId random) = .ok () := by
  have hyphen {c : Char} (dash : c ∈ "-".toList) : hexOrHyphen c = true := by
    rw [show "-".toList = ['-'] from rfl] at dash
    rw [List.mem_singleton.mp dash]
    decide
  refine validateDeviceId_of_hexOrHyphen platform (fun c member => ?_) ?_ ?_
  · simp only [generateDeviceId, String.toList_append, List.mem_append] at member
    rcases member with ((((((((first | dash) | second) | dash) | third) | dash) | fourth) | dash) | fifth)
    · exact hexOrHyphen_hexEncode first
    · exact hyphen dash
    · exact hexOrHyphen_hexEncode second
    · exact hyphen dash
    · exact hexOrHyphen_hexEncode third
    · exact hyphen dash
    · exact hexOrHyphen_hexEncode fourth
    · exact hyphen dash
    · exact hexOrHyphen_hexEncode fifth
  · simp [generateDeviceId, length_hexEncode]
  · simp [generateDeviceId, length_hexEncode]

/-- No id that passes the check has blanks around it. -/
theorem trim_valid {platform : Platform} (visible : ∀ c, platform.alphanumericBeyondAscii c = true → isWhiteSpace c = false)
    {id : DeviceId} (valid : validateDeviceId platform id = .ok ()) : trim id = id := by
  unfold validateDeviceId at valid
  split at valid
  · cases valid
  split at valid
  · cases valid
  split at valid
  · cases valid
  rename_i allowed
  have all : id.toList.all (fun c => isAlphanumeric platform c || c == '-' || c == '_') = true := by
    by_contra other
    rw [Bool.not_eq_true] at other
    exact allowed (by rw [other]; rfl)
  refine trim_eq_self fun c member => ?_
  have kind := List.all_eq_true.mp all c member
  have ascii : ∀ k : Fin 128, (Char.ofNat k.val).isAlphanum = true → isWhiteSpace (Char.ofNat k.val) = false := by decide +kernel
  simp only [Bool.or_eq_true, beq_iff_eq] at kind
  rcases kind with (letter | rfl) | rfl
  · unfold isAlphanumeric at letter
    split at letter
    · rename_i small
      have same : Char.ofNat c.toNat = c := Char.ofNat_toNat c
      simpa only [same] using ascii ⟨c.toNat, small⟩ (by rwa [same])
    · exact visible c letter
  · decide
  · decide

/-- The id is a valid one, the file holds it, and the own certificate with that name and the own key are there. -/
structure Established (env : StartUp) (id : DeviceId) (disk : Disk) : Prop where
  valid : validateDeviceId env.platform id = .ok ()
  onFile : ∃ bytes text, disk.lookup deviceIdPath = some bytes ∧ fromUtf8 bytes = some text ∧ trim text = id
  certified : env.ownCertificateCn disk = .ok (some id)
  keyed : (disk.lookup ownKeyPath).isSome

/-- When the own certificate has a name and no other id is on file, that name is a device id and the key is there. -/
def Usable (env : StartUp) (disk : Disk) : Prop :=
  ∀ cn, env.ownCertificateCn disk = .ok (some cn) → env.idFromFile disk = none ∨ env.idFromFile disk = some cn →
    validateDeviceId env.platform cn = .ok () ∧ (disk.lookup ownKeyPath).isSome

namespace StartUp

variable {env : StartUp} {disk : Disk} {id : DeviceId}

theorem idFromFile_eq_some : env.idFromFile disk = some id ↔ validateDeviceId env.platform id = .ok () ∧
    ∃ bytes text, disk.lookup deviceIdPath = some bytes ∧ fromUtf8 bytes = some text ∧ trim text = id := by
  have passes (result : Except Error Unit) : result.toOption.isSome = true ↔ result = .ok () := by
    cases result with
    | ok => simp [Except.toOption]
    | error e => simp [Except.toOption]
  constructor
  · intro found
    simp only [idFromFile, Option.bind_eq_bind, Option.bind_eq_some_iff] at found
    obtain ⟨bytes, stored, text, decoded, chosen⟩ := found
    split at chosen
    · rename_i valid
      obtain rfl := Option.some.inj chosen
      exact ⟨(passes _).mp valid, bytes, text, stored, decoded, rfl⟩
    · cases chosen
  · rintro ⟨valid, bytes, text, stored, decoded, rfl⟩
    simp [idFromFile, stored, decoded, (passes _).mpr valid]

theorem idFromFile_writeIdFile (visible : ∀ c, env.platform.alphanumericBeyondAscii c = true → isWhiteSpace c = false)
    (valid : validateDeviceId env.platform id = .ok ()) : env.idFromFile (writeIdFile id disk) = some id := by
  refine idFromFile_eq_some.mpr ⟨valid, toUtf8 id, id, ?_, fromUtf8_toUtf8 id, trim_valid visible valid⟩
  rw [writeIdFile, AList.lookup_insert]

/-- Where the certificate and the file name one id, it is loaded and nothing is written. -/
theorem loadOrCreate_agreeing (certified : env.ownCertificateCn disk = .ok (some id)) (onFile : env.idFromFile disk = some id)
    (random : Vector UInt8 16) (deviceName : String) :
    env.loadOrCreate random deviceName disk = (.ok { deviceId := id, deviceName }, disk) := by
  simp [loadOrCreate, certified, onFile, chooseDeviceId]

/-- Once established, an identity is loaded without a change. -/
theorem loadOrCreate_established (established : Established env id disk) (random : Vector UInt8 16) (deviceName : String) :
    env.loadOrCreate random deviceName disk = (.ok { deviceId := id, deviceName }, disk) :=
  loadOrCreate_agreeing established.certified (idFromFile_eq_some.mpr ⟨established.valid, established.onFile⟩) _ _

theorem established_of_idFromFile (onFile : env.idFromFile disk = some id) (certified : env.ownCertificateCn disk = .ok (some id))
    (keyed : (disk.lookup ownKeyPath).isSome) : Established env id disk :=
  ⟨(idFromFile_eq_some.mp onFile).1, (idFromFile_eq_some.mp onFile).2, certified, keyed⟩

theorem lookup_own_writeIdFile (id : DeviceId) (disk : Disk) :
    (writeIdFile id disk).lookup ownCertPath = disk.lookup ownCertPath ∧
      (writeIdFile id disk).lookup ownKeyPath = disk.lookup ownKeyPath :=
  ⟨AList.lookup_insert_ne (by decide), AList.lookup_insert_ne (by decide)⟩

theorem ownCertificateCn_congr {after : Disk} (same : after.lookup ownCertPath = disk.lookup ownCertPath) :
    env.ownCertificateCn after = env.ownCertificateCn disk := by
  unfold ownCertificateCn
  rw [same]

theorem idFromFile_congr {after : Disk} (same : after.lookup deviceIdPath = disk.lookup deviceIdPath) :
    env.idFromFile after = env.idFromFile disk := by
  unfold idFromFile
  rw [same]

section Generated

variable (issued : ∀ params cert key, env.selfSigned params = .ok (cert, key) →
  ∃ der, Pem.pemToDer env.errors cert = .ok der ∧ env.platform.commonName der = .ok (some params.commonName))

include issued

theorem ownCertificateCn_storeOwnCertificate {deviceName : String} {cert key : Bytes}
    (generated : env.generateCertificate id deviceName = .ok (cert, key)) :
    env.ownCertificateCn (storeOwnCertificate cert key disk) = .ok (some id) := by
  obtain ⟨der, decoded, named⟩ := issued _ cert key generated
  have stored : (storeOwnCertificate cert key disk).lookup ownCertPath = some cert := by
    rw [storeOwnCertificate, AList.lookup_insert_ne (by decide), AList.lookup_insert]
  simp only [ownCertificateCn, stored, certificateCn, decoded, ConnectionManager.extractCnFromDer, named]
  rfl

theorem regenerate_established (visible : ∀ c, env.platform.alphanumericBeyondAscii c = true → isWhiteSpace c = false)
    {random : Vector UInt8 16} {deviceName : String} {after : Disk}
    (created : env.regenerate random deviceName disk = (.ok id, after)) : Established env id after := by
  unfold regenerate at created
  cases generated : env.generateCertificate (generateDeviceId random) deviceName with
  | error e => simp [generated] at created
  | ok pair =>
    obtain ⟨cert, key⟩ := pair
    simp only [generated, Prod.mk.injEq, Except.ok.injEq] at created
    obtain ⟨rfl, rfl⟩ := created
    obtain ⟨sameCert, sameKey⟩ := lookup_own_writeIdFile (generateDeviceId random) (storeOwnCertificate cert key disk)
    refine established_of_idFromFile (idFromFile_writeIdFile visible (validateDeviceId_generateDeviceId _ random)) ?_ ?_
    · rw [ownCertificateCn_congr sameCert]
      exact ownCertificateCn_storeOwnCertificate issued generated
    · rw [sameKey, storeOwnCertificate, AList.lookup_insert]
      rfl

theorem ensureOwnCertificate_established {deviceName : String} {after : Disk} (onFile : env.idFromFile disk = some id)
    (absent : disk.lookup ownCertPath = none) (ensured : env.ensureOwnCertificate id deviceName disk = (.ok (), after)) :
    Established env id after := by
  have missing : hasOwnCertificate disk = false := by simp [hasOwnCertificate, absent]
  simp only [ensureOwnCertificate, missing, Bool.false_and, Bool.false_eq_true, if_false] at ensured
  cases generated : env.generateCertificate id deviceName with
  | error e => simp [generated] at ensured
  | ok pair =>
    obtain ⟨cert, key⟩ := pair
    simp only [generated, Prod.mk.injEq, true_and] at ensured
    subst ensured
    have kept : (storeOwnCertificate cert key disk).lookup deviceIdPath = disk.lookup deviceIdPath := by
      rw [storeOwnCertificate, AList.lookup_insert_ne (by decide), AList.lookup_insert_ne (by decide)]
    refine established_of_idFromFile ?_ (ownCertificateCn_storeOwnCertificate issued generated) ?_
    · rw [idFromFile_congr kept]
      exact onFile
    · rw [storeOwnCertificate, AList.lookup_insert]
      rfl

end Generated

/-- A legacy certificate is adopted whole, or nothing is touched. -/
theorem adoptLegacyOwnCertificate_cases (onFile : env.idFromFile disk = some id) (absent : disk.lookup ownCertPath = none) :
    env.adoptLegacyOwnCertificate id disk = (.ok false, disk) ∨
      ∃ after, env.adoptLegacyOwnCertificate id disk = (.ok true, after) ∧ Established env id after := by
  have valid := (idFromFile_eq_some.mp onFile).1
  have missing : hasOwnCertificate disk = false := by simp [hasOwnCertificate, absent]
  simp only [adoptLegacyOwnCertificate, missing, Bool.false_eq_true, if_false, certPath_eq valid, keyPath_eq valid]
  cases legacyCert : disk.lookup (certFile id) with
  | none => exact .inl rfl
  | some pem =>
    cases legacyKey : disk.lookup (keyFile id) with
    | none => exact .inl rfl
    | some key =>
      by_cases named : (env.certificateCn pem).toOption = some id
      · right
        have certRenamed : renameFile (certFile id) ownCertPath disk = (disk.erase (certFile id)).insert ownCertPath pem := by
          simp only [renameFile, legacyCert]
        have apart : keyFile id ≠ certFile id := fun same => append_ne_append id id (by decide) (Path.cert.inj same)
        have ownCert : ownCertPath ≠ keyFile id := own_ne valid ".key" (by decide)
        have stillThere : ((disk.erase (certFile id)).insert ownCertPath pem).lookup (keyFile id) = some key := by
          rw [AList.lookup_insert_ne ownCert.symm, AList.lookup_erase_ne apart]
          exact legacyKey
        have cn : env.certificateCn pem = .ok id := by
          cases read : env.certificateCn pem with
          | error e => simp [read, Except.toOption] at named
          | ok cn =>
            simp only [read, Except.toOption, Option.some.injEq] at named
            rw [named]
        refine ⟨_, if_pos named, established_of_idFromFile ?_ ?_ ?_⟩
        · rw [certRenamed, renameFile, stillThere]
          refine (idFromFile_congr ?_).trans onFile
          rw [AList.lookup_insert_ne (by decide), AList.lookup_erase_ne (by simp [deviceIdPath, keyFile]),
            AList.lookup_insert_ne (by decide), AList.lookup_erase_ne (by simp [deviceIdPath, certFile])]
        · rw [certRenamed, renameFile, stillThere, ownCertificateCn, AList.lookup_insert_ne (by decide),
            AList.lookup_erase_ne ownCert, AList.lookup_insert]
          simp [cn, Except.map]
        · rw [certRenamed, renameFile, stillThere, AList.lookup_insert]
          rfl
      · exact .inl (if_neg named)

/-- The id that is chosen is established, whichever files were there. -/
theorem chooseDeviceId_established
    (issued : ∀ params cert key, env.selfSigned params = .ok (cert, key) →
      ∃ der, Pem.pemToDer env.errors cert = .ok der ∧ env.platform.commonName der = .ok (some params.commonName))
    (visible : ∀ c, env.platform.alphanumericBeyondAscii c = true → isWhiteSpace c = false)
    {random : Vector UInt8 16} {deviceName : String} {cnFromCert : Option String} {after : Disk} (usable : Usable env disk)
    (certified : env.ownCertificateCn disk = .ok cnFromCert)
    (chosen : env.chooseDeviceId random deviceName disk (env.idFromFile disk) cnFromCert = (.ok id, after)) :
    Established env id after := by
  cases onFile : env.idFromFile disk with
  | some fileId =>
    cases cnFromCert with
    | some cn =>
      simp only [chooseDeviceId, onFile] at chosen
      split at chosen
      · rename_i same
        simp only [Prod.mk.injEq, Except.ok.injEq] at chosen
        obtain ⟨rfl, rfl⟩ := chosen
        subst same
        exact established_of_idFromFile onFile certified (usable _ certified (.inr onFile)).2
      · exact regenerate_established issued visible chosen
    | none =>
      have absent : disk.lookup ownCertPath = none := by
        cases found : disk.lookup ownCertPath with
        | none => rfl
        | some pem =>
          simp only [ownCertificateCn, found] at certified
          cases read : env.certificateCn pem with
          | error e => simp [read, Except.map] at certified
          | ok cn => simp [read, Except.map] at certified
      simp only [chooseDeviceId, onFile, adoptOrEnsure] at chosen
      rcases adoptLegacyOwnCertificate_cases onFile absent with untouched | ⟨adopted, ran, established⟩
      · rw [untouched] at chosen
        cases ensured : env.ensureOwnCertificate fileId deviceName disk with
        | mk result reached =>
          cases result with
          | error e => simp [ensured] at chosen
          | ok =>
            simp only [ensured, Prod.mk.injEq, Except.ok.injEq] at chosen
            obtain ⟨rfl, rfl⟩ := chosen
            exact ensureOwnCertificate_established issued onFile absent ensured
      · simp only [ran, Prod.mk.injEq, Except.ok.injEq] at chosen
        obtain ⟨rfl, rfl⟩ := chosen
        exact established
  | none =>
    cases cnFromCert with
    | some cn =>
      simp only [chooseDeviceId, onFile, Prod.mk.injEq, Except.ok.injEq] at chosen
      obtain ⟨rfl, rfl⟩ := chosen
      obtain ⟨valid, keyed⟩ := usable cn certified (.inl onFile)
      obtain ⟨sameCert, sameKey⟩ := lookup_own_writeIdFile cn disk
      refine established_of_idFromFile (idFromFile_writeIdFile visible valid) ?_ ?_
      · rw [ownCertificateCn_congr sameCert]
        exact certified
      · rw [sameKey]
        exact keyed
    | none =>
      simp only [chooseDeviceId, onFile] at chosen
      exact regenerate_established issued visible chosen

/-- Whatever start-up finds on disk: the identity it returns is established,
and loading it again changes nothing, exactly when the own certificate it
trusts names a device id and has its key. -/
theorem loadOrCreate_established_iff (env : StartUp)
    (issued : ∀ params cert key, env.selfSigned params = .ok (cert, key) →
      ∃ der, Pem.pemToDer env.errors cert = .ok der ∧ env.platform.commonName der = .ok (some params.commonName))
    (visible : ∀ c, env.platform.alphanumericBeyondAscii c = true → isWhiteSpace c = false)
    (random : Vector UInt8 16) (deviceName : String) (disk : Disk) :
    (∀ own after, env.loadOrCreate random deviceName disk = (.ok own, after) →
      Established env own.deviceId after ∧
        ∀ again, env.loadOrCreate again deviceName after = (.ok own, after)) ↔ Usable env disk := by
  constructor
  · intro sound cn certified trusted
    rcases trusted with nothing | same
    · have loaded : env.loadOrCreate random deviceName disk = (.ok { deviceId := cn, deviceName }, writeIdFile cn disk) := by
        simp [loadOrCreate, certified, nothing, chooseDeviceId]
      have established := (sound _ _ loaded).1
      exact ⟨established.valid, (lookup_own_writeIdFile cn disk).2 ▸ established.keyed⟩
    · have loaded := loadOrCreate_agreeing certified same random deviceName
      have established := (sound _ _ loaded).1
      exact ⟨established.valid, established.keyed⟩
  · intro usable own after loaded
    unfold loadOrCreate at loaded
    cases certified : env.ownCertificateCn disk with
    | error e => simp [certified] at loaded
    | ok cnFromCert =>
      simp only [certified] at loaded
      cases chosen : env.chooseDeviceId random deviceName disk (env.idFromFile disk) cnFromCert with
      | mk result reached =>
        cases result with
        | error e => simp [chosen] at loaded
        | ok id =>
          simp only [chosen, Prod.mk.injEq, Except.ok.injEq] at loaded
          obtain ⟨rfl, rfl⟩ := loaded
          have established := chooseDeviceId_established issued visible usable certified chosen
          exact ⟨established, fun again => loadOrCreate_established established again deviceName⟩

/-- A sample of the generator and the parser: the certificate of a name is the name behind a tag. -/
def sampleStartUp : StartUp where
  platform :=
    { sha256 _ := []
      commonName certDer := match certDer with
        | 0x30 :: name => .ok (fromUtf8 name)
        | _ => .error "Failed to parse DER certificate: the tag is missing"
      alphanumericBeyondAscii _ := false }
  errors :=
    { utf8 _ := "invalid utf-8 sequence"
      base64 _ := "Invalid padding" }
  selfSigned params := .ok (toUtf8 (Pem.derToPemText (0x30 :: toUtf8 params.commonName)), toUtf8 "key")
  inForce _ := true

def phoneCertificate : Bytes := toUtf8 (Pem.derToPemText (0x30 :: toUtf8 samplePhone))

theorem sample_issued (params : CertificateParams) (cert key : Bytes) (signed : sampleStartUp.selfSigned params = .ok (cert, key)) :
    ∃ der, Pem.pemToDer sampleStartUp.errors cert = .ok der ∧
      sampleStartUp.platform.commonName der = .ok (some params.commonName) := by
  simp only [sampleStartUp, Except.ok.injEq, Prod.mk.injEq] at signed
  obtain ⟨rfl, rfl⟩ := signed
  refine ⟨0x30 :: toUtf8 params.commonName, Pem.pemToDer_derToPem _ _, ?_⟩
  simp [sampleStartUp, fromUtf8_toUtf8]

/-- On an empty disk a new identity is established, and loaded again as it is. -/
theorem loadOrCreate_empty_disk :
    ∃ own after, sampleStartUp.loadOrCreate (Vector.replicate 16 0) "Desk" ∅ = (.ok own, after) ∧
      Established sampleStartUp own.deviceId after ∧
        ∀ again, sampleStartUp.loadOrCreate again "Desk" after = (.ok own, after) := by
  have usable : Usable sampleStartUp ∅ := fun _ certified => nomatch certified
  have sound := (loadOrCreate_established_iff sampleStartUp sample_issued (fun _ never => nomatch never)
    (Vector.replicate 16 0) "Desk" ∅).mpr usable
  cases loaded : sampleStartUp.loadOrCreate (Vector.replicate 16 0) "Desk" ∅ with
  | mk result after =>
    cases result with
    | ok own => exact ⟨own, after, rfl, sound own after loaded⟩
    | error e => exact absurd loaded (by simp [loadOrCreate, ownCertificateCn, idFromFile, chooseDeviceId, regenerate,
        generateCertificate, sampleStartUp])

theorem certificateCn_issued (name : String) :
    sampleStartUp.certificateCn (toUtf8 (Pem.derToPemText (0x30 :: toUtf8 name))) = .ok name := by
  have parsed : Pem.pemToDer sampleStartUp.errors (toUtf8 (Pem.derToPemText (0x30 :: toUtf8 name))) = .ok (0x30 :: toUtf8 name) :=
    Pem.pemToDer_derToPem _ _
  rw [certificateCn, parsed]
  simp [ConnectionManager.extractCnFromDer, sampleStartUp, fromUtf8_toUtf8]

/-- A disk with the certificate and the file, but no key. -/
def keylessDisk : Disk := AList.insert ownCertPath phoneCertificate (AList.insert deviceIdPath (toUtf8 samplePhone) ∅)

theorem ownCertificateCn_keylessDisk : sampleStartUp.ownCertificateCn keylessDisk = .ok (some samplePhone) := by
  have found : keylessDisk.lookup ownCertPath = some phoneCertificate := AList.lookup_insert _
  rw [ownCertificateCn, found]
  exact congrArg (Except.map some) (certificateCn_issued samplePhone)

theorem lookup_key_keylessDisk : keylessDisk.lookup ownKeyPath = none := by
  rw [keylessDisk, AList.lookup_insert_ne (by decide), AList.lookup_insert_ne (by decide), AList.lookup_empty]

theorem idFromFile_keylessDisk : sampleStartUp.idFromFile keylessDisk = some samplePhone := by decide +kernel

/-- With the certificate and the file but no key, start-up goes on without one. -/
theorem loadOrCreate_without_key :
    ¬(∀ random deviceName disk own after, sampleStartUp.loadOrCreate random deviceName disk = (.ok own, after) →
      Established sampleStartUp own.deviceId after ∧
        ∀ again, sampleStartUp.loadOrCreate again deviceName after = (.ok own, after)) := by
  intro sound
  have loaded := loadOrCreate_agreeing ownCertificateCn_keylessDisk idFromFile_keylessDisk (Vector.replicate 16 0) "Desk"
  have keyed := (sound _ _ _ _ _ loaded).1.keyed
  rw [lookup_key_keylessDisk] at keyed
  cases keyed

end StartUp

end RustConnect
