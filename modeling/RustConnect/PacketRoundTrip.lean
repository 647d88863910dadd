import RustConnect.Base.Lines
import RustConnect.LineReaders
import RustConnect.PacketCodec

namespace RustConnect

namespace Packet

/-- `Serialize for PayloadSize`. -/
def encodePayloadSize : PayloadSize → Json
  | .known n => .num (.posInt n)
  | .stream => .num (.negInt (-1))

/-- The `Serialize` implementation that the derive on `Packet` gives: the
fields in order, without the options that are `None`. -/
def encode (packet : Packet) : Json :=
  .obj ([("id", .ofInt packet.id.toInt), ("type", .str packet.packetType), ("body", packet.body)] ++
    (packet.payloadSize.map fun size => ("payloadSize", encodePayloadSize size)).toList ++
    (packet.payloadTransferInfo.map fun info => ("payloadTransferInfo", info)).toList)

theorem decodeId_ofInt (id : Int64) : decodeId (.ofInt id.toInt) = .ok id := by
  have low := id.le_toInt
  have high := id.toInt_lt
  have back : Int64.ofInt id.toInt = id := Int64.ofInt_toInt id
  generalize id.toInt = n at *
  by_cases negative : 0 ≤ n
  · have small : n.toNat < 2 ^ 63 := by omega
    have stored : (UInt64.ofNat n.toNat).toNat = n.toNat := UInt64.toNat_ofNat_of_lt' (by show n.toNat < 2 ^ 64; omega)
    have value : (n.toNat : Int) = n := Int.toNat_of_nonneg negative
    simp only [decodeId, Json.ofInt, if_pos negative, JsonNumber.asI64, stored, if_pos small, value, back]
  · have stored : (Int64.ofInt n).toInt = n := Int64.toInt_ofInt_of_le (by omega) (by omega)
    simp only [decodeId, Json.ofInt, if_neg negative, JsonNumber.asI64]
    rw [stored, back]

theorem decodePayloadSize_encode (size : PayloadSize) : decodePayloadSize (encodePayloadSize size) = .ok (some size) := by
  cases size with
  | stream => rfl
  | known n =>
    by_cases small : n.toNat < 2 ^ 63
    · have apart : (n.toNat : Int) ≠ -1 := by omega
      simp only [decodePayloadSize, encodePayloadSize, JsonNumber.asI64, if_pos small, if_neg apart]
      simp
    · simp only [decodePayloadSize, encodePayloadSize, JsonNumber.asI64, JsonNumber.asU64, if_neg small]
      simp

theorem decode_encode (packet : Packet) (present : packet.payloadTransferInfo ≠ some .null) :
    decode packet.encode = .ok packet := by
  obtain ⟨id, packetType, body, payloadSize, info⟩ := packet
  have infoDecodes (value : Json) (same : info = some value) : decodeTransferInfo value = some value := by
    cases value <;> first | rfl | exact absurd same present
  cases payloadSize <;> cases info <;>
    simp [decode, encode, readMember, ofFields, decodeId_ofInt, decodeType, decodePayloadSize_encode, infoDecodes] <;> rfl

end Packet

namespace PacketSerializer

variable (codec : JsonCodec) (print : Json → String)

/-- `PacketSerializer::serialize`, where `print` is the text `serde_json` gives for a value. -/
def serialize (packet : Packet) : Except Error Bytes := .ok (toUtf8 (print packet.encode) ++ [newline])

/-- What is relied on of `serde_json` for a value: its text is parsed back, is
an object between braces, and has no control character in it. -/
structure Faithful (value : Json) : Prop where
  parse : codec.parse (print value) = .ok value
  braces : ∃ inside, print value = "\x7b" ++ inside ++ "\x7d"
  escaped : ∀ c ∈ (print value).toList, 0x20 ≤ c.toNat

variable {codec print} {packet : Packet}

theorem serialize_closed (faithful : Faithful codec print packet.encode) :
    Lines.Closed newline (toUtf8 (print packet.encode) ++ [newline]) := by
  refine ⟨_, rfl, fun member => ?_⟩
  obtain ⟨c, inside, same⟩ := ascii_mem_toUtf8 (by decide) member
  have printable := faithful.escaped c inside
  rw [same] at printable
  exact absurd printable (by decide)

theorem deserialize_serialize (faithful : Faithful codec print packet.encode) (present : packet.payloadTransferInfo ≠ some .null)
    (fits : (toUtf8 (print packet.encode) ++ [newline]).length ≤ maxPacketSize) :
    deserialize codec (toUtf8 (print packet.encode) ++ [newline]) = .ok packet := by
  obtain ⟨inside, same⟩ := faithful.braces
  have whole : trim (print packet.encode) = print packet.encode := by
    rw [same]
    exact trim_braces inside
  have visible : print packet.encode ≠ "" := by
    rw [same]
    simp [← String.toList_inj]
  exact deserialize_text fits whole visible faithful.parse (Packet.decode_encode packet present)

/-- A packet, unless it has a `payloadTransferInfo` that is null, is read back
from its line as it was; the line has one newline, at its end; and so the
lines of any packets put one after the other are split and read back. -/
theorem packets_round_trip (codec : JsonCodec) (print : Json → String) :
    (∀ packet line, Faithful codec print packet.encode → packet.payloadTransferInfo ≠ some .null →
      serialize print packet = .ok line → line.length ≤ maxPacketSize → deserialize codec line = .ok packet) ∧
    (∀ packet, Faithful codec print packet.encode →
      ∃ line, serialize print packet = .ok line ∧ Lines.Closed newline line) ∧
    ∀ (packets : List Packet) (lines : List Bytes),
      (∀ packet ∈ packets, Faithful codec print packet.encode ∧ packet.payloadTransferInfo ≠ some .null) →
      packets.mapM (serialize print) = .ok lines → (∀ line ∈ lines, line.length ≤ maxPacketSize) →
      Lines.unfinished newline lines.flatten = [] ∧
        (Lines.complete newline lines.flatten).map (deserialize codec) = packets.map .ok := by
  refine ⟨fun packet line faithful present same fits => ?_, fun packet faithful => ⟨_, rfl, serialize_closed faithful⟩,
    fun packets lines faithful same fits => ?_⟩
  · cases same
    exact deserialize_serialize faithful present fits
  · obtain rfl : packets.map (fun packet => toUtf8 (print packet.encode) ++ [newline]) = lines := by
      have mapped : packets.mapM (serialize print) =
          .ok (packets.map fun packet => toUtf8 (print packet.encode) ++ [newline]) := List.mapM_pure
      exact Except.ok.inj (mapped.symm.trans same)
    have closed : ∀ line ∈ packets.map (fun packet => toUtf8 (print packet.encode) ++ [newline]), Lines.Closed newline line := by
      intro line member
      obtain ⟨packet, among, rfl⟩ := List.mem_map.mp member
      exact serialize_closed (faithful packet among).1
    have split := Lines.complete_flatten closed []
    have rest := Lines.unfinished_flatten closed []
    rw [List.append_nil] at split rest
    rw [split, rest, Lines.complete, List.append_nil, List.map_map]
    refine ⟨rfl, List.map_congr_left fun packet among => ?_⟩
    exact deserialize_serialize (faithful packet among).1 (faithful packet among).2
      (fits _ (List.mem_map_of_mem among))

section Sample

/-- `serde_json` on one value and its text. -/
def sampleCodec (text : String) (value : Json) : JsonCodec where
  parse found := if found = text then .ok value else .error "expected value at line 1 column 1"
  decodeErrorText _ _ := ""
  valueErrorText _ := ""
  utf8ErrorText _ := ""

theorem sampleCodec_parse (text : String) (value : Json) : (sampleCodec text value).parse text = .ok value := by
  simp [sampleCodec]

theorem escaped_of_all {text : String} (all : text.toList.all (fun c => 0x20 ≤ c.toNat) = true) : ∀ c ∈ text.toList, 0x20 ≤ c.toNat := by
  simpa using all

def pingText : String := "\x7b" ++ "\"id\":1,\"type\":\"kdeconnect.ping\",\"body\":\x7b\x7d" ++ "\x7d"

def pingPacket : Packet := .new 1 "kdeconnect.ping" (.obj [])

def shareText : String :=
  "\x7b" ++ ("\"id\":2,\"type\":\"kdeconnect.share.request\",\"body\":\x7b\"filename\":\"a.txt\"\x7d," ++
    "\"payloadSize\":5,\"payloadTransferInfo\":\x7b\"port\":1739\x7d") ++ "\x7d"

def sharePacket : Packet where
  id := 2
  packetType := "kdeconnect.share.request"
  body := .obj [("filename", .str "a.txt")]
  payloadSize := some (.known 5)
  payloadTransferInfo := some (.obj [("port", .num (.posInt 1739))])

/-- `serde_json` on the ping and the share. -/
def bothCodec : JsonCodec :=
  { sampleCodec shareText sharePacket.encode with
    parse := fun found => if found = pingText then .ok pingPacket.encode else (sampleCodec shareText sharePacket.encode).parse found }

def printBoth (value : Json) : String := if (value.get "payloadSize").isSome then shareText else pingText

theorem both_faithful : ∀ packet ∈ [pingPacket, sharePacket],
    Faithful bothCodec printBoth packet.encode ∧ packet.payloadTransferInfo ≠ some .null := by
  have ping : bothCodec.parse pingText = .ok pingPacket.encode := by simp [bothCodec]
  have share : bothCodec.parse shareText = .ok sharePacket.encode := by
    have apart : shareText ≠ pingText := by decide +kernel
    simp [bothCodec, apart, sampleCodec_parse]
  rw [List.forall_mem_cons, List.forall_mem_singleton]
  exact ⟨⟨⟨ping, ⟨_, rfl⟩, escaped_of_all (by decide +kernel)⟩, by simp [pingPacket, Packet.new]⟩,
    ⟨⟨share, ⟨_, rfl⟩, escaped_of_all (by decide +kernel)⟩, by simp [sharePacket]⟩⟩

/-- A share with its payload is read back, also where its line comes after that of a ping. -/
theorem share_round_trip :
    deserialize bothCodec (toUtf8 shareText ++ [newline]) = .ok sharePacket ∧
      (Lines.complete newline (toUtf8 pingText ++ [newline] ++ (toUtf8 shareText ++ [newline]))).map (deserialize bothCodec) =
        [.ok pingPacket, .ok sharePacket] := by
  have fits : ∀ line ∈ [toUtf8 pingText ++ [newline], toUtf8 shareText ++ [newline]], line.length ≤ maxPacketSize := by
    decide +kernel
  obtain ⟨one, -, all⟩ := packets_round_trip bothCodec printBoth
  have share := both_faithful sharePacket (by simp)
  exact ⟨one sharePacket _ share.1 share.2 rfl (fits _ (by simp)),
    (all [pingPacket, sharePacket] [toUtf8 pingText ++ [newline], toUtf8 shareText ++ [newline]] both_faithful rfl fits).2⟩

def nullText : String :=
  "\x7b" ++ "\"id\":1,\"type\":\"kdeconnect.ping\",\"body\":\x7b\x7d,\"payloadTransferInfo\":null" ++ "\x7d"

def nullPacket : Packet := { pingPacket with payloadTransferInfo := some .null }

/-- The null comes back as no `payloadTransferInfo` at all. -/
theorem null_info_lost :
    Faithful (sampleCodec nullText nullPacket.encode) (fun _ => nullText) nullPacket.encode ∧
      serialize (fun _ => nullText) nullPacket = .ok (toUtf8 nullText ++ [newline]) ∧
      (toUtf8 nullText ++ [newline]).length ≤ maxPacketSize ∧
      deserialize (sampleCodec nullText nullPacket.encode) (toUtf8 nullText ++ [newline]) ≠ .ok nullPacket := by
  have fits : (toUtf8 nullText ++ [newline]).length ≤ maxPacketSize := by decide +kernel
  have read : deserialize (sampleCodec nullText nullPacket.encode) (toUtf8 nullText ++ [newline]) = .ok pingPacket :=
    deserialize_text fits (trim_braces _) (by simp [nullText]) (sampleCodec_parse _ _) rfl
  refine ⟨⟨sampleCodec_parse _ _, ⟨_, rfl⟩, escaped_of_all (by decide +kernel)⟩, rfl, fits, fun same => ?_⟩
  rw [read] at same
  cases same

end Sample

end PacketSerializer

end RustConnect
