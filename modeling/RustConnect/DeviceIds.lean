import RustConnect.IdentityNames

namespace RustConnect

/-- What the protocol asks of a device id: 32 to 38 characters of `[a-zA-Z0-9_-]`. -/
structure ProtocolId (id : String) : Prop where
  long : 32 ≤ id.length
  short : id.length ≤ 38
  letters : ∀ c ∈ id.toList, c.isAlphanum = true ∨ c = '-' ∨ c = '_'

namespace Notifications

/-- `u8::is_ascii_alphanumeric`. -/
def isAsciiAlphanumeric (byte : UInt8) : Bool :=
  (0x30 ≤ byte && byte ≤ 0x39) || (0x41 ≤ byte && byte ≤ 0x5A) || (0x61 ≤ byte && byte ≤ 0x7A)

/-- `valid_device_component`. -/
def validDeviceComponent (deviceId : String) : Bool :=
  (32 ≤ deviceId.utf8ByteSize && deviceId.utf8ByteSize ≤ 38) &&
    (toUtf8 deviceId).all fun byte => isAsciiAlphanumeric byte || byte == 0x2D || byte == 0x5F

end Notifications

variable {platform : Platform} {id : String}

theorem ascii_of_letter {c : Char} (letter : c.isAlphanum = true ∨ c = '-' ∨ c = '_') : c.toNat < 128 := by
  rcases letter with alphanumeric | rfl | rfl
  · simp only [Char.isAlphanum, Char.isAlpha, Char.isUpper, Char.isLower, Char.isDigit, Bool.or_eq_true, Bool.and_eq_true,
      decide_eq_true_eq, ge_iff_le, UInt32.le_iff_toNat_le] at alphanumeric
    have upper : 'Z'.val.toNat = 90 := rfl
    have lower : 'z'.val.toNat = 122 := rfl
    have digit : '9'.val.toNat = 57 := rfl
    show c.val.toNat < 128
    omega
  · decide
  · decide

/-- The bytes of a text without characters beyond ASCII are its characters. -/
theorem toUtf8_ascii {text : String} (ascii : ∀ c ∈ text.toList, c.toNat < 128) :
    toUtf8 text = text.toList.map fun c => c.val.toUInt8 := by
  rw [toUtf8_eq_flatMap, List.map_eq_flatMap]
  refine List.flatMap_congr fun c member => ?_
  refine String.utf8EncodeChar_eq_singleton (Char.utf8Size_eq_one_iff.mpr (UInt32.le_iff_toNat_le.mpr ?_))
  exact Nat.le_of_lt_succ (ascii c member)

theorem size_ascii {text : String} (ascii : ∀ c ∈ text.toList, c.toNat < 128) : text.utf8ByteSize = text.length := by
  have bytes : (toUtf8 text).length = text.utf8ByteSize := rfl
  rw [← bytes, toUtf8_ascii ascii, List.length_map, String.length_toList]

/-- The second check refuses nothing that the third one does not refuse. -/
theorem validateDeviceId_ok_iff :
    validateDeviceId platform id = .ok () ↔
      (32 ≤ id.utf8ByteSize ∧ id.utf8ByteSize ≤ 38) ∧
        ∀ c ∈ id.toList, isAlphanumeric platform c = true ∨ c = '-' ∨ c = '_' := by
  have letters : (!id.toList.all fun c => isAlphanumeric platform c || c == '-' || c == '_') = false ↔
      ∀ c ∈ id.toList, isAlphanumeric platform c = true ∨ c = '-' ∨ c = '_' := by
    simp [or_assoc]
  have sized : (decide (id.utf8ByteSize < minDeviceIdLen) || decide (id.utf8ByteSize > maxDeviceIdLen)) = false ↔
      32 ≤ id.utf8ByteSize ∧ id.utf8ByteSize ≤ 38 := by
    rw [Bool.or_eq_false_iff, decide_eq_false_iff_not, decide_eq_false_iff_not, not_lt, not_lt]
    rfl
  have clean (all : ∀ c ∈ id.toList, isAlphanumeric platform c = true ∨ c = '-' ∨ c = '_') {c : Char}
      (bad : isAlphanumeric platform c = false ∧ c ≠ '-' ∧ c ≠ '_') : c ∉ id.toList := fun member => by
    rcases all c member with letter | same | same
    · exact Bool.false_ne_true (bad.1.symm.trans letter)
    · exact bad.2.1 same
    · exact bad.2.2 same
  unfold validateDeviceId
  constructor
  · intro accepted
    split at accepted
    · cases accepted
    · rename_i length
      split at accepted
      · cases accepted
      · split at accepted
        · cases accepted
        · rename_i all
          exact ⟨sized.mp (Bool.eq_false_iff.mpr length), letters.mp (Bool.eq_false_iff.mpr all)⟩
  · rintro ⟨size, all⟩
    have dots : ¬['.', '.'] <:+: id.toList := fun inside =>
      clean all (c := '.') ⟨rfl, by decide, by decide⟩ (inside.subset (List.mem_cons_self ..))
    rw [if_neg (Bool.eq_false_iff.mp (sized.mpr size)), if_neg, if_neg (Bool.eq_false_iff.mp (letters.mpr all))]
    rintro (twice | slash | backslash | null)
    · exact dots twice
    · exact clean all ⟨rfl, by decide, by decide⟩ slash
    · exact clean all ⟨rfl, by decide, by decide⟩ backslash
    · exact clean all ⟨rfl, by decide, by decide⟩ null

theorem isAlphanumeric_ascii {c : Char} (ascii : c.toNat < 128) : isAlphanumeric platform c = c.isAlphanum := if_pos ascii

/-- Where no character lies beyond ASCII, the check is that of the protocol. -/
theorem validateDeviceId_ascii (ascii : ∀ c ∈ id.toList, c.toNat < 128) :
    validateDeviceId platform id = .ok () ↔ ProtocolId id := by
  rw [validateDeviceId_ok_iff, size_ascii ascii]
  constructor
  · rintro ⟨⟨long, short⟩, letters⟩
    refine ⟨long, short, fun c member => ?_⟩
    rw [← @isAlphanumeric_ascii platform c (ascii c member)]
    exact letters c member
  · rintro ⟨long, short, letters⟩
    refine ⟨⟨long, short⟩, fun c member => ?_⟩
    rw [isAlphanumeric_ascii (ascii c member)]
    exact letters c member

theorem ProtocolId.ascii (asked : ProtocolId id) : ∀ c ∈ id.toList, c.toNat < 128 :=
  fun c member => ascii_of_letter (asked.letters c member)

theorem ProtocolId.validated (asked : ProtocolId id) : validateDeviceId platform id = .ok () :=
  (validateDeviceId_ascii asked.ascii).mpr asked

theorem componentByte {c : Char} (letter : c.isAlphanum = true ∨ c = '-' ∨ c = '_') :
    (Notifications.isAsciiAlphanumeric c.val.toUInt8 || c.val.toUInt8 == 0x2D || c.val.toUInt8 == 0x5F) = true := by
  have all : ∀ n : Fin 128, ((Char.ofNat n).isAlphanum = true ∨ Char.ofNat n = '-' ∨ Char.ofNat n = '_') →
      (Notifications.isAsciiAlphanumeric (Char.ofNat n).val.toUInt8 || (Char.ofNat n).val.toUInt8 == 0x2D ||
        (Char.ofNat n).val.toUInt8 == 0x5F) = true := by
    decide +kernel
  have back := all ⟨c.toNat, ascii_of_letter letter⟩
  rw [show Char.ofNat (⟨c.toNat, ascii_of_letter letter⟩ : Fin 128) = c from Char.ofNat_toNat c] at back
  exact back letter

theorem ProtocolId.component (asked : ProtocolId id) : Notifications.validDeviceComponent id = true := by
  unfold Notifications.validDeviceComponent
  rw [toUtf8_ascii asked.ascii, size_ascii asked.ascii, Bool.and_eq_true, List.all_eq_true]
  refine ⟨by simp [asked.long, asked.short], fun byte member => ?_⟩
  obtain ⟨c, inside, rfl⟩ := List.mem_map.mp member
  exact componentByte (asked.letters c inside)

/-- The id is judged as the protocol asks for: by `validate_device_id`, by
`Identity::from_packet` in a packet with nothing else wrong, and by the icon paths. -/
structure JudgedAsAsked (platform : Platform) (id : String) : Prop where
  validated : validateDeviceId platform id = .ok () ↔ ProtocolId id
  received : ∀ (codec : JsonCodec) (packet : Packet) (raw : Identity), packet.isIdentity = true →
    Identity.decode packet.body = .ok raw → raw.deviceId = id → (sanitizeDeviceName raw.deviceName).isEmpty = false →
    raw.protocolVersion ≠ 0 → ((∃ identity, Identity.fromPacket codec platform packet = .ok identity) ↔ ProtocolId id)
  component : validateDeviceId platform id = .ok () → Notifications.validDeviceComponent id = true

/-- A packet in which nothing else is wrong is received exactly with a valid id. -/
theorem received_iff_valid {codec : JsonCodec} {packet : Packet} {raw : Identity} (announced : packet.isIdentity = true)
    (decoded : Identity.decode packet.body = .ok raw) (shown : (sanitizeDeviceName raw.deviceName).isEmpty = false)
    (version : raw.protocolVersion ≠ 0) :
    (∃ identity, Identity.fromPacket codec platform packet = .ok identity) ↔ validateDeviceId platform raw.deviceId = .ok () := by
  constructor
  · rintro ⟨identity, parsed⟩
    obtain ⟨-, other, same, received⟩ := Identity.fromPacket_ok_iff.mp parsed
    obtain rfl : raw = other := Except.ok.inj (decoded.symm.trans same)
    exact received.valid
  · intro valid
    obtain ⟨long, short⟩ := (validateDeviceId_ok_iff.mp valid).1
    refine ⟨_, Identity.fromPacket_ok_iff.mpr ⟨announced, raw, decoded, ?_, short.trans (by decide), shown, version, valid, rfl⟩⟩
    rw [Bool.eq_false_iff, ne_eq, String.isEmpty_iff]
    intro empty
    rw [empty] at long
    exact absurd long (by decide)

/-- An id is judged as the protocol asks for exactly when it has no character
beyond ASCII, or is refused for its length or for another character. -/
theorem judged_iff_plain_or_refused (platform : Platform) (id : String) :
    JudgedAsAsked platform id ↔
      (∀ c ∈ id.toList, c.toNat < 128) ∨ id.utf8ByteSize < 32 ∨ 38 < id.utf8ByteSize ∨
        ∃ c ∈ id.toList, isAlphanumeric platform c = false ∧ c ≠ '-' ∧ c ≠ '_' := by
  have judged (same : validateDeviceId platform id = .ok () ↔ ProtocolId id) : JudgedAsAsked platform id := by
    refine ⟨same, fun codec packet raw announced decoded named shown version => ?_, fun accepted => (same.mp accepted).component⟩
    rw [received_iff_valid announced decoded shown version, named]
    exact same
  constructor
  · intro asked
    by_cases accepted : validateDeviceId platform id = .ok ()
    · exact .inl (asked.validated.mp accepted).ascii
    · right
      by_contra fine
      simp only [not_or, not_lt, not_exists, not_and] at fine
      refine accepted (validateDeviceId_ok_iff.mpr ⟨⟨fine.1, fine.2.1⟩, fun c member => ?_⟩)
      by_contra other
      simp only [not_or, Bool.not_eq_true] at other
      exact fine.2.2 c member other.1 other.2.1 other.2.2
  · rintro (ascii | refused)
    · exact judged (validateDeviceId_ascii ascii)
    · refine judged ⟨fun accepted => ?_, fun asked => asked.validated⟩
      obtain ⟨⟨long, short⟩, letters⟩ := validateDeviceId_ok_iff.mp accepted
      rcases refused with tooShort | tooLong | ⟨c, member, strange, hyphen, underscore⟩
      · omega
      · omega
      · rcases letters c member with letter | same | same
        · exact absurd (strange.symm.trans letter) Bool.false_ne_true
        · exact absurd same hyphen
        · exact absurd same underscore

/-- A platform that knows the letter é. -/
def latinPlatform : Platform := { samplePlatform with alphanumericBeyondAscii := fun c => c == 'é' }

def accented : String := String.ofList (List.replicate 16 'é')

/-- Sixteen letters of two bytes each are taken for an id of 32 characters. -/
theorem accented_accepted :
    ¬∀ (platform : Platform) (id : String), (validateDeviceId platform id = .ok () ↔ ProtocolId id) ∧
      (validateDeviceId platform id = .ok () → Notifications.validDeviceComponent id = true) := by
  intro always
  have accepted : validateDeviceId latinPlatform accented = .ok () := by decide +kernel
  have asked := (always latinPlatform accented).1.mp accepted
  exact absurd asked.long (by decide +kernel)

end RustConnect
