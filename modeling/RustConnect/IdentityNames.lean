import RustConnect.CertificateFiles
import RustConnect.Identity
import RustConnect.PacketRoundTrip
import RustConnect.Trimming

namespace RustConnect

/-- The characters of a received name that count: no forbidden ones, and no blanks around them. -/
def nameChars (name : String) : List Char := trimChars (name.toList.filter fun c => !invalidNameChars.contains c)

theorem sanitizeDeviceName_toList (name : String) :
    (sanitizeDeviceName name).toList = (nameChars name).take maxDeviceNameLength := String.toList_ofList

theorem nameChars_valid (name : String) : ∀ c ∈ nameChars name, invalidNameChars.contains c = false := by
  intro c member
  have inside := (trimEnd_begins _).subset member
  have listed := (List.dropWhile_suffix _).subset inside
  simpa using (List.mem_filter.mp listed).2

theorem trimStart_nameChars (name : String) : trimStart (nameChars name) = nameChars name :=
  trimStart_of_begins (trimEnd_begins _) (trimStart_trimStart _)

theorem trimStart_sanitize (name : String) : trimStart (sanitizeDeviceName name).toList = (sanitizeDeviceName name).toList := by
  rw [sanitizeDeviceName_toList]
  exact trimStart_of_begins (List.take_prefix _ _) (trimStart_nameChars name)

/-- The white space at the end of a name is dropped. -/
def endTrimmed (name : String) : String := String.ofList (trimEnd name.toList)

theorem sanitize_sanitize (name : String) : sanitizeDeviceName (sanitizeDeviceName name) = endTrimmed (sanitizeDeviceName name) := by
  have valid : (sanitizeDeviceName name).toList.filter (fun c => !invalidNameChars.contains c) = (sanitizeDeviceName name).toList := by
    rw [sanitizeDeviceName_toList, List.filter_eq_self]
    intro c member
    rw [nameChars_valid name c (List.mem_of_mem_take member)]
    rfl
  have short : (trimEnd (sanitizeDeviceName name).toList).length ≤ maxDeviceNameLength := by
    refine (trimEnd_begins _).length_le.trans ?_
    rw [sanitizeDeviceName_toList]
    exact List.length_take_le _ _
  conv_lhs => rw [sanitizeDeviceName, valid, trimChars_eq, trimStart_sanitize, List.take_of_length_le short]
  rfl

theorem endTrimmed_eq_self {name : String} :
    endTrimmed name = name ↔ ∀ c, name.toList.getLast? = some c → isWhiteSpace c = false := by
  rw [← trimEnd_eq_self, endTrimmed, ← String.toList_inj, String.toList_ofList]

/-- A name ends in white space only when it has been cut there. -/
theorem cut_of_endTrimmed_ne {name : String} (blank : endTrimmed (sanitizeDeviceName name) ≠ sanitizeDeviceName name) :
    maxDeviceNameLength < (nameChars name).length := by
  by_contra fits
  refine blank ?_
  have whole : (sanitizeDeviceName name).toList = nameChars name := by
    rw [sanitizeDeviceName_toList, List.take_of_length_le (Nat.not_lt.mp fits)]
  have clean : trimEnd (nameChars name) = nameChars name := trimEnd_trimEnd _
  rw [endTrimmed, whole, clean, ← whole, String.ofList_toList]

/-- A name that is not blank does not vanish with the white space at its end. -/
theorem endTrimmed_isEmpty (name : String) : (endTrimmed (sanitizeDeviceName name)).isEmpty = (sanitizeDeviceName name).isEmpty := by
  have same : (endTrimmed (sanitizeDeviceName name)).toList = [] ↔ (sanitizeDeviceName name).toList = [] := by
    rw [endTrimmed, String.toList_ofList, trimEnd_eq_nil, trimStart_sanitize]
  rw [String.toList_eq_nil_iff, String.toList_eq_nil_iff] at same
  rw [Bool.eq_iff_iff, String.isEmpty_iff, String.isEmpty_iff, same]

namespace Identity

theorem decodeTexts_strings (texts : List String) : decodeTexts (.arr (texts.map .str)) = .ok texts := by
  rw [decodeTexts]
  induction texts with
  | nil => rfl
  | cons text rest ih =>
    rw [List.map_cons, List.mapM_cons, decodeText, ih]
    rfl

theorem decodeU32_toUInt64 (n : UInt32) : decodeU32 (.num (.posInt n.toUInt64)) = .ok n := by
  have small : n.toNat ≤ 4294967295 := Nat.le_of_lt_succ n.toNat_lt
  simp [decodeU32, decodeUnsigned, small, Except.map]

theorem decodeU16_toUInt64 (n : UInt16) : decodeU16 (.num (.posInt n.toUInt64)) = .ok n := by
  have small : n.toNat ≤ 65535 := Nat.le_of_lt_succ n.toNat_lt
  simp [decodeU16, decodeUnsigned, small, Except.map]

theorem decodeTargetVersion_toUInt64 (n : UInt32) : decodeTargetVersion (.num (.posInt n.toUInt64)) = .ok (some n) := by
  have small : n.toNat ≤ 4294967295 := Nat.le_of_lt_succ n.toNat_lt
  simp [decodeTargetVersion, JsonNumber.asU64, Option.filter_some, small]

/-- The body of a packet that an identity is written to reads back as that identity. -/
theorem decode_toPacket (identity : Identity) (id : Int64) : decode (identity.toPacket id).body = .ok identity := by
  obtain ⟨deviceId, deviceName, deviceType, version, incoming, outgoing, port, target, targetVersion⟩ := identity
  cases port <;> cases target <;> cases targetVersion <;>
    simp [toPacket, Packet.new, decode, required, optional, Json.get, decodeText, decodeOption, decodeTexts_strings,
      decodeU32_toUInt64, decodeU16_toUInt64, decodeTargetVersion_toUInt64, Except.map] <;> rfl

variable {codec : JsonCodec} {platform : Platform}

/-- What the checks of a received identity leave of it. -/
structure Received (platform : Platform) (raw identity : Identity) : Prop where
  known : raw.deviceId.isEmpty = false
  short : raw.deviceId.utf8ByteSize ≤ 128
  shown : (sanitizeDeviceName raw.deviceName).isEmpty = false
  version : raw.protocolVersion ≠ 0
  valid : validateDeviceId platform raw.deviceId = .ok ()
  result : identity = { raw with deviceName := sanitizeDeviceName raw.deviceName }

/-- A check that throws is passed. -/
theorem checked_ok_iff {ε α : Type} {refused : Prop} [Decidable refused] {e : ε} {rest : PUnit → Except ε α} {value : α} :
    (if refused then (throw e : Except ε PUnit) >>= rest else rest ⟨⟩) = .ok value ↔ ¬refused ∧ rest ⟨⟩ = .ok value := by
  by_cases fails : refused
  · rw [if_pos fails]
    exact ⟨nofun, fun passed => absurd fails passed.1⟩
  · rw [if_neg fails]
    exact ⟨fun done => ⟨fails, done⟩, fun passed => passed.2⟩

theorem fromPacket_ok_iff {packet : Packet} {identity : Identity} :
    fromPacket codec platform packet = .ok identity ↔
      packet.isIdentity = true ∧ ∃ raw, decode packet.body = .ok raw ∧ Received platform raw identity := by
  have decoded (raw : Identity) (explain : DecodeError → Error) :
      (decode packet.body).mapError explain = .ok raw ↔ decode packet.body = .ok raw := by
    cases decode packet.body with
    | error e => exact ⟨nofun, nofun⟩
    | ok other => exact ⟨fun same => congrArg _ (Except.ok.inj same), fun same => congrArg _ (Except.ok.inj same)⟩
  unfold fromPacket
  rw [checked_ok_iff]
  refine and_congr (by simp) (Program.except_bind_ok.trans (exists_congr fun raw => ?_))
  rw [decoded]
  refine and_congr_right fun _ => ?_
  refine checked_ok_iff.trans ((and_congr_right fun _ => checked_ok_iff.trans (and_congr_right fun _ =>
    checked_ok_iff.trans (and_congr_right fun _ => checked_ok_iff.trans (and_congr_right fun _ => Program.except_bind_ok)))).trans ?_)
  constructor
  · rintro ⟨known, short, shown, version, ⟨⟩, valid, result⟩
    exact ⟨by simpa using known, Nat.not_lt.mp short, by simpa using shown, version, valid, (Except.ok.inj result).symm⟩
  · rintro ⟨known, short, shown, version, valid, rfl⟩
    exact ⟨by simpa using known, Nat.not_lt.mpr short, by simpa using shown, version, ⟨⟩, valid, rfl⟩

/-- An identity whose name has lost the white space at its end. -/
def nameEnded (identity : Identity) : Identity := { identity with deviceName := endTrimmed identity.deviceName }

/-- An identity that has been received, with any port, is received again with its name trimmed. -/
theorem reparsed {packet : Packet} {identity : Identity} (parsed : fromPacket codec platform packet = .ok identity)
    (port : Option UInt16) (id : Int64) :
    fromPacket codec platform (toPacket { identity with tcpPort := port } id) = .ok { identity.nameEnded with tcpPort := port } := by
  obtain ⟨-, raw, -, received⟩ := fromPacket_ok_iff.mp parsed
  have name : identity.deviceName = sanitizeDeviceName raw.deviceName := by rw [received.result]
  refine fromPacket_ok_iff.mpr ⟨rfl, _, decode_toPacket _ id, ?_⟩
  have known : identity.deviceId = raw.deviceId := by rw [received.result]
  have version : identity.protocolVersion = raw.protocolVersion := by rw [received.result]
  refine ⟨?_, ?_, ?_, ?_, ?_, ?_⟩
  · show identity.deviceId.isEmpty = false
    rw [known]
    exact received.known
  · show identity.deviceId.utf8ByteSize ≤ 128
    rw [known]
    exact received.short
  · show (sanitizeDeviceName identity.deviceName).isEmpty = false
    rw [name, sanitize_sanitize, endTrimmed_isEmpty]
    exact received.shown
  · show identity.protocolVersion ≠ 0
    rw [version]
    exact received.version
  · show validateDeviceId platform identity.deviceId = .ok ()
    rw [known]
    exact received.valid
  · show { identity with deviceName := endTrimmed identity.deviceName, tcpPort := port } =
      { identity with deviceName := sanitizeDeviceName identity.deviceName, tcpPort := port }
    rw [name, sanitize_sanitize]

/-- A received identity that is sent again comes back as it was, except that the white
space at the end of a name that was cut there is gone; and so does a name that is
sanitized again. -/
theorem normal_but_for_cut_names {packet : Packet} {identity : Identity} (parsed : fromPacket codec platform packet = .ok identity)
    (id : Int64) :
    fromPacket codec platform (identity.toPacket id) = .ok identity.nameEnded ∧
      fromPacket codec platform (identity.toTcpPacket id) = .ok { identity.nameEnded with tcpPort := none } ∧
      (identity.nameEnded ≠ identity → ∃ raw, decode packet.body = .ok raw ∧
        identity.deviceName = sanitizeDeviceName raw.deviceName ∧ maxDeviceNameLength < (nameChars raw.deviceName).length ∧
        ∃ c, identity.deviceName.toList.getLast? = some c ∧ isWhiteSpace c = true) ∧
      ∀ name, sanitizeDeviceName (sanitizeDeviceName name) = endTrimmed (sanitizeDeviceName name) := by
  refine ⟨reparsed parsed identity.tcpPort id, reparsed parsed none id, fun differs => ?_, sanitize_sanitize⟩
  obtain ⟨-, raw, decoded, received⟩ := fromPacket_ok_iff.mp parsed
  have name : identity.deviceName = sanitizeDeviceName raw.deviceName := by rw [received.result]
  have blank : endTrimmed identity.deviceName ≠ identity.deviceName := fun same => differs (by rw [nameEnded, same])
  refine ⟨raw, decoded, name, cut_of_endTrimmed_ne (by rwa [name] at blank), ?_⟩
  by_contra dark
  refine blank (endTrimmed_eq_self.mpr fun c last => ?_)
  by_contra white
  exact dark ⟨c, last, by simpa using white⟩

def plainCodec : JsonCodec := PacketSerializer.sampleCodec "null" .null

def television (name : String) : Identity :=
  ⟨samplePhone, name, "tv", 8, ["kdeconnect.ping"], [], some 1716, none, none⟩

def announced : Packet := (television "Television in the living room 2 (left)").toPacket 1

theorem announced_parsed : fromPacket plainCodec samplePlatform announced = .ok (television "Television in the living room 2 ") := by
  have valid : validateDeviceId samplePlatform samplePhone = .ok () := by decide +kernel
  refine fromPacket_ok_iff.mpr ⟨rfl, _, decode_toPacket _ 1, ?_⟩
  exact ⟨by decide +kernel, by decide +kernel, by decide +kernel, by decide +kernel, valid, by decide +kernel⟩

/-- The name is cut after a blank, and the blank is lost when the identity is read again. -/
theorem cut_name_changes :
    ¬∀ (codec : JsonCodec) (platform : Platform) (packet : Packet) (identity : Identity) (id : Int64),
      fromPacket codec platform packet = .ok identity → fromPacket codec platform (identity.toPacket id) = .ok identity := by
  intro always
  have same := always plainCodec samplePlatform announced _ 2 announced_parsed
  have ended := reparsed announced_parsed (some 1716) 2
  exact absurd (Except.ok.inj (ended.symm.trans same)) (by decide +kernel)

theorem television_reparsed :
    fromPacket plainCodec samplePlatform ((television "Television in the living room 2 ").toPacket 2) =
      .ok (television "Television in the living room 2") := by
  have name : (television "Television in the living room 2 ").nameEnded = television "Television in the living room 2" := by
    decide +kernel
  rw [(normal_but_for_cut_names announced_parsed 2).1, name]

end Identity

end RustConnect
