import RustConnect.Text

namespace RustConnect

/-- How reading a record out of a JSON document can fail. -/
inductive DecodeError
  | missingField (name : String)
  | duplicateField (name : String)
  | invalidType (found : Json) (expected : String)
  | invalidLength (length : Nat) (expected : String)
  | trailingElements
  | custom (message : String)
  | customGot (message : String) (found : Json)
  deriving Repr

/-- What the packet codec takes from `serde_json` and from the error texts of
the standard library: the parser, which keeps the members of an object as the
text lists them, and the texts of a decoding error, in a text and in a value,
and of a UTF-8 error. -/
structure JsonCodec where
  parse : String → Except String Json
  decodeErrorText : String → DecodeError → String
  valueErrorText : DecodeError → String
  utf8ErrorText : Bytes → String

/-- `str::from_utf8`. -/
def fromUtf8 (bytes : Bytes) : Option String := String.fromUTF8? ⟨bytes.toArray⟩

/-- The bytes of a text. -/
def toUtf8 (text : String) : Bytes := text.toByteArray.data.toList

theorem fromUtf8_toUtf8 (text : String) : fromUtf8 (toUtf8 text) = some text := by
  unfold fromUtf8 toUtf8
  rw [Array.toArray_toList]
  unfold String.fromUTF8?
  rw [dif_pos text.isValidUTF8]
  rfl

theorem toUtf8_eq_flatMap (text : String) : toUtf8 text = text.toList.flatMap String.utf8EncodeChar := by
  unfold toUtf8
  rw [← String.utf8Encode_toList, List.utf8Encode]
  simp

theorem byte_of_utf8EncodeChar {c : Char} {b : UInt8} (member : b ∈ String.utf8EncodeChar c) :
    b = c.val.toUInt8 ∧ c.val ≤ 0x7f ∨ 0x80 ≤ b := by
  have high (x : UInt8) (mark : UInt8) (large : 0x80 ≤ mark) : 0x80 ≤ x ||| mark := by
    rw [UInt8.le_iff_toNat_le] at large ⊢
    rw [UInt8.toNat_or]
    exact Nat.le_trans large Nat.right_le_or
  rcases Char.utf8Size_eq c with one | two | three | four
  · left
    rw [String.utf8EncodeChar_eq_singleton one, List.mem_singleton] at member
    exact ⟨member, Char.utf8Size_eq_one_iff.mp one⟩
  · right
    rw [String.utf8EncodeChar_eq_cons_cons two] at member
    simp only [List.mem_cons, List.not_mem_nil, or_false] at member
    rcases member with rfl | rfl <;> exact high _ _ (by decide)
  · right
    rw [String.utf8EncodeChar_eq_cons_cons_cons three] at member
    simp only [List.mem_cons, List.not_mem_nil, or_false] at member
    rcases member with rfl | rfl | rfl <;> exact high _ _ (by decide)
  · right
    rw [String.utf8EncodeChar_eq_cons_cons_cons_cons four] at member
    simp only [List.mem_cons, List.not_mem_nil, or_false] at member
    rcases member with rfl | rfl | rfl | rfl <;> exact high _ _ (by decide)

/-- A byte below 128 stands for the character with its number. -/
theorem ascii_mem_toUtf8 {text : String} {b : UInt8} (small : b < 0x80) (member : b ∈ toUtf8 text) :
    ∃ c ∈ text.toList, c.toNat = b.toNat := by
  rw [toUtf8_eq_flatMap] at member
  obtain ⟨c, inside, encoded⟩ := List.mem_flatMap.mp member
  rw [UInt8.lt_iff_toNat_lt] at small
  rcases byte_of_utf8EncodeChar encoded with ⟨rfl, ascii⟩ | large
  · refine ⟨c, inside, ?_⟩
    have bound : c.val.toNat ≤ 127 := UInt32.le_iff_toNat_le.mp ascii
    show c.val.toNat = c.val.toUInt8.toNat
    rw [UInt32.toNat_toUInt8]
    omega
  · rw [UInt8.le_iff_toNat_le] at large
    omega

/-- The value of a nonempty run of decimal digits. -/
def parseDigits : List Char → Option Nat
  | [] => none
  | digits =>
    if digits.all Char.isDigit then some (digits.foldl (fun n c => n * 10 + (c.toNat - '0'.toNat)) 0) else none

/-- `str::parse::<i64>`. -/
def parseI64 (text : String) : Option Int64 :=
  let value : Option Int := match text.toList with
    | '-' :: digits => (parseDigits digits).map fun n => -(n : Int)
    | '+' :: digits => (parseDigits digits).map Int.ofNat
    | digits => (parseDigits digits).map Int.ofNat
  (value.filter fun n => -2 ^ 63 ≤ n && n < 2 ^ 63).map Int64.ofInt

namespace Packet

/-- `deserialize_lenient_i64`. -/
def decodeId : Json → Except DecodeError Int64
  | .num n =>
    match n.asI64 with
    | some id => .ok (.ofInt id)
    | none => .error (.custom "id must be an integer")
  | .str text =>
    match parseI64 text with
    | some id => .ok id
    | none => .error (.custom "id must be numeric")
  | _ => .error (.custom "id must be a number or numeric string")

def decodeType : Json → Except DecodeError String
  | .str text => .ok text
  | other => .error (.invalidType other "a string")

/-- `Option<PayloadSize>`; the texts of its errors end with the value that was found. -/
def decodePayloadSize : Json → Except DecodeError (Option PayloadSize)
  | .null => .ok none
  | .num n =>
    match n.asI64 with
    | some i =>
      if i = -1 then .ok (some .stream)
      else if 0 ≤ i then .ok (some (.known (.ofNat i.toNat)))
      else .error (.customGot "payloadSize must be a non-negative integer or -1 (endless stream)" (.num n))
    | none =>
      match n.asU64 with
      | some u => .ok (some (.known (.ofNat u)))
      | none => .error (.customGot "payloadSize must be an integer" (.num n))
  | other => .error (.customGot "payloadSize must be a number" other)

def decodeTransferInfo : Json → Option Json
  | .null => none
  | value => some value

/-- The fields read so far. -/
structure Fields where
  id : Option Int64 := none
  packetType : Option String := none
  body : Option Json := none
  payloadSize : Option (Option PayloadSize) := none
  payloadTransferInfo : Option (Option Json) := none

/-- One member of the object: unknown names are passed over. -/
def readMember (fields : Fields) (name : String) (value : Json) : Except DecodeError Fields := do
  match name with
  | "id" =>
    if fields.id.isSome then throw (.duplicateField "id")
    return { fields with id := some (← decodeId value) }
  | "type" =>
    if fields.packetType.isSome then throw (.duplicateField "type")
    return { fields with packetType := some (← decodeType value) }
  | "body" =>
    if fields.body.isSome then throw (.duplicateField "body")
    return { fields with body := some value }
  | "payloadSize" =>
    if fields.payloadSize.isSome then throw (.duplicateField "payloadSize")
    return { fields with payloadSize := some (← decodePayloadSize value) }
  | "payloadTransferInfo" =>
    if fields.payloadTransferInfo.isSome then throw (.duplicateField "payloadTransferInfo")
    return { fields with payloadTransferInfo := some (decodeTransferInfo value) }
  | _ => return fields

def ofFields (fields : Fields) : Except DecodeError Packet := do
  let some id := fields.id | throw (.missingField "id")
  let some packetType := fields.packetType | throw (.missingField "type")
  let some body := fields.body | throw (.missingField "body")
  return ⟨id, packetType, body, fields.payloadSize.getD none, fields.payloadTransferInfo.getD none⟩

/-- The `Deserialize` implementation that the derive on `Packet` gives: from
an object, or from an array of exactly its five fields. -/
def decode : Json → Except DecodeError Packet
  | .obj members => do
    let fields ← members.foldlM (fun fields (name, value) => readMember fields name value) {}
    ofFields fields
  | .arr [id, packetType, body, payloadSize, payloadTransferInfo] => do
    return ⟨← decodeId id, ← decodeType packetType, body, ← decodePayloadSize payloadSize,
      decodeTransferInfo payloadTransferInfo⟩
  | .arr items =>
    if items.length < 5 then .error (.invalidLength items.length "struct Packet with 5 elements")
    else .error .trailingElements
  | other => .error (.invalidType other "struct Packet")

end Packet

namespace PacketSerializer

def maxPacketSize : Nat := 32 * 1024 * 1024

/-- `PacketSerializer::deserialize`. -/
def deserialize (codec : JsonCodec) (bytes : Bytes) : Except Error Packet :=
  if bytes.length > maxPacketSize then
    .error (.packetTooLarge bytes.length maxPacketSize)
  else
    let bytes := if bytes.getLast? = some 10 then bytes.dropLast else bytes
    match fromUtf8 bytes with
    | none => .error (.deserializationError s!"Invalid UTF-8: {codec.utf8ErrorText bytes}")
    | some json =>
      if (trim json).isEmpty then
        .error (.deserializationError "Empty packet")
      else
        match codec.parse (trim json) with
        | .error message => .error (.deserializationError message)
        | .ok value =>
          match Packet.decode value with
          | .ok packet => .ok packet
          | .error e => .error (.deserializationError (codec.decodeErrorText (trim json) e))

/-- On a line that holds a text without blanks around it, what is left is to parse and decode the text. -/
theorem deserialize_text {codec : JsonCodec} {text : String} {value : Json} {packet : Packet}
    (fits : (toUtf8 text ++ [10]).length ≤ maxPacketSize) (whole : trim text = text) (present : text ≠ "")
    (parsed : codec.parse text = .ok value) (decoded : Packet.decode value = .ok packet) :
    deserialize codec (toUtf8 text ++ [10]) = .ok packet := by
  have visible : text.isEmpty = false := by simpa using present
  unfold deserialize
  rw [if_neg (by omega), List.getLast?_concat, if_pos rfl, List.dropLast_concat]
  simp only [fromUtf8_toUtf8, whole, visible, parsed, decoded, Bool.false_eq_true, ↓reduceIte]

/-- A line that cannot be read is never mistaken for a timeout. -/
theorem deserialize_not_timeout {codec : JsonCodec} {bytes : Bytes} {e : Error} (failed : deserialize codec bytes = .error e)
    (message : String) : e ≠ .connectionTimeout message := by
  rintro rfl
  unfold deserialize at failed
  split at failed
  · cases failed
  · dsimp only at failed
    split at failed
    · cases failed
    · split at failed
      · cases failed
      · split at failed
        · cases failed
        · split at failed <;> cases failed

end PacketSerializer

end RustConnect
