import RustConnect.PinEnforcement
import RustConnect.Delivery
import RustConnect.Framing

namespace RustConnect

open Program ManagerAction ConnectionManager

variable (codec : JsonCodec) (platform : Platform) (d : DeviceId) (generation : UInt64) (goesOn : List Packet → Bool)

/-- The read half of the device's link. -/
def ManagerState.linkStream (s : ManagerState) (d : DeviceId) : BufReader :=
  match s.connections.lookup d with
  | some link => (s.streams.lookup link.id).getD (.new [])
  | none => .new []

/-- The link of the device has this generation. -/
def ManagerState.Holds (s : ManagerState) (d : DeviceId) (generation : UInt64) (link : Link) : Prop :=
  s.connections.lookup d = some link ∧ link.generation = generation

section Current

variable {codec d generation} {s : ManagerState} {link : Link}

theorem linkStream_insert (holds : s.Holds d generation link) (reader : BufReader) :
    ManagerState.linkStream { s with streams := s.streams.insert link.id reader } d = reader := by
  simp [ManagerState.linkStream, holds.1]

theorem recvPacketCurrent_run (holds : s.Holds d generation link) :
    run (exec codec) (recvPacketCurrent d generation).run s =
      ((receivePacket codec d (s.linkStream d)).1,
        { s with streams := s.streams.insert link.id (receivePacket codec d (s.linkStream d)).2 }) := by
  obtain ⟨slot, same⟩ := holds
  have found : run (exec codec) (perform (getConnection d)) s = (some link, s) := by simp [exec, slot]
  have stream : s.linkStream d = (s.streams.lookup link.id).getD (.new []) := by simp [ManagerState.linkStream, slot]
  unfold recvPacketCurrent
  rw [run_except_bind, run_except_lift, found, stream]
  simp only [same, ne_eq, not_true_eq_false, ↓reduceIte]
  rfl

variable (codec) in
theorem recvPacketCurrent_stale (stale : ∀ link, ¬s.Holds d generation link) :
    ∃ message, run (exec codec) (recvPacketCurrent d generation).run s = (.error (.connectionError message), s) := by
  have found : run (exec codec) (perform (getConnection d)) s = (s.connections.lookup d, s) := by simp [exec]
  unfold recvPacketCurrent
  rw [run_except_bind, run_except_lift, found]
  cases slot : s.connections.lookup d with
  | none => exact ⟨_, rfl⟩
  | some link =>
    have other : link.generation ≠ generation := fun same => stale link ⟨slot, same⟩
    simp only [other, ne_eq, not_false_eq_true, ↓reduceIte]
    exact ⟨_, rfl⟩

end Current

variable {goesOn} in
/-- Whether the loop goes on does not depend on the state that the call left. -/
theorem onward_cases {σ τ : Type} (got : List Packet) (answer : Except Error Packet) (first : σ) (second : τ) :
    (∃ more, onward goesOn got (answer, first) = .inl (more, first) ∧ onward goesOn got (answer, second) = .inl (more, second)) ∨
      ∃ value, onward goesOn got (answer, first) = .inr value ∧ onward goesOn got (answer, second) = .inr value := by
  rcases answer with e | packet
  · cases e with
    | connectionTimeout message => exact .inl ⟨got, rfl, rfl⟩
    | _ => exact .inr ⟨got, rfl, rfl⟩
  · by_cases more : goesOn (got ++ [packet])
    · exact .inl ⟨got ++ [packet], by simp [onward, more], by simp [onward, more]⟩
    · exact .inr ⟨got ++ [packet], by simp [onward, more], by simp [onward, more]⟩

/-- The receiving side of `run_packet_loop` over the manager: every packet is
the answer of a call of `recv_packet_current`. -/
def currentLoop : Loop (List Packet × ManagerState) (List Packet) where
  pass s := onward goesOn s.1 (run (exec codec) (recvPacketCurrent d generation).run s.2)
  size s := (s.2.linkStream d).tape.length
  shrinks s t again := by
    by_cases current : ∃ link, s.2.Holds d generation link
    · obtain ⟨link, holds⟩ := current
      have left := linkStream_insert holds (receivePacket codec d (s.2.linkStream d)).2
      rw [recvPacketCurrent_run holds] at again
      rcases onward_cases s.1 (receivePacket codec d (s.2.linkStream d)).1 _ (receivePacket codec d (s.2.linkStream d)).2
        with ⟨more, on, on'⟩ | ⟨value, finished, -⟩
      · rw [on] at again
        cases again
        rw [left]
        exact (packetsLoop codec d goesOn).shrinks (s.1, s.2.linkStream d) _ on'
      · rw [finished] at again
        cases again
    · obtain ⟨message, returned⟩ := recvPacketCurrent_stale codec (not_exists.mp current)
      rw [returned] at again
      cases again

/-- The packets that the calls of `recv_packet_current` return, in order. -/
def receivedCurrent (s : ManagerState) : List Packet := (currentLoop codec d generation goesOn).result ([], s)

variable {codec d generation goesOn} in
/-- While the link is the device's, the calls return what its stream gives. -/
theorem receivedCurrent_eq {s : ManagerState} {link : Link} (holds : s.Holds d generation link) :
    receivedCurrent codec d generation goesOn s = received codec d goesOn (s.linkStream d) := by
  refine Loop.result_simulation (R := fun s t => s.1 = t.1 ∧ s.2.Holds d generation link ∧ s.2.linkStream d = t.2)
    ?_ ⟨rfl, holds, rfl⟩
  rintro ⟨got, s⟩ ⟨-, -⟩ ⟨rfl, holds, rfl⟩
  have left := linkStream_insert holds (receivePacket codec d (s.linkStream d)).2
  simp only [currentLoop, packetsLoop, recvPacketCurrent_run holds]
  rcases onward_cases got (receivePacket codec d (s.linkStream d)).1
      { s with streams := s.streams.insert link.id (receivePacket codec d (s.linkStream d)).2 }
      (receivePacket codec d (s.linkStream d)).2 with ⟨more, on, on'⟩ | ⟨value, finished, finished'⟩
  · exact .inl ⟨_, _, on, on', rfl, holds, left⟩
  · exact .inr ⟨value, finished, finished'⟩

variable {d generation} in
/-- A link that is put into the device's slot is read over the stream it was given. -/
theorem Holds_putLink {s t : ManagerState} {peerCert : Option Bytes} {stream : BufReader}
    (slots : t.connections = (s.putLink d generation peerCert stream).connections)
    (streams : t.streams = (s.putLink d generation peerCert stream).streams) :
    (∃ link, t.Holds d generation link) ∧ t.linkStream d = stream := by
  have slot : t.connections.lookup d = some { id := s.nextLink, generation, peerCert } := by
    rw [slots]
    exact AList.lookup_insert _
  refine ⟨⟨_, slot, rfl⟩, ?_⟩
  simp [ManagerState.linkStream, slot, streams, ManagerState.putLink]

/-- An outbound registration leaves the device's slot with the new link. -/
theorem registerOutbound_run (s : ManagerState) (peerCert : Option Bytes) (identity : Identity) (stream : BufReader) :
    (∃ link, (run (exec codec) (registerOutbound identity peerCert stream) s).2.Holds identity.deviceId
        (run (exec codec) (registerOutbound identity peerCert stream) s).1 link) ∧
      (run (exec codec) (registerOutbound identity peerCert stream) s).2.linkStream identity.deviceId = stream := by
  unfold registerOutbound
  rw [run_bind]
  generalize (run (exec codec) (recordPeerCapabilities identity.deviceId identity.incomingCapabilities
    identity.outgoingCapabilities) s).2 = t
  have bumped : run (exec codec) (perform (bumpGeneration identity.deviceId)) t =
    (t.nextGeneration identity.deviceId, t.countGeneration identity.deviceId) := rfl
  cases found : t.connections.lookup identity.deviceId with
  | none =>
    have ended : run (exec codec) (perform (getConnection identity.deviceId)) (t.countGeneration identity.deviceId) =
      (none, t.countGeneration identity.deviceId) := Prod.ext found rfl
    simp only [run_bind, bumped, ended]
    exact Holds_putLink rfl rfl
  | some old =>
    have ended : run (exec codec) (perform (getConnection identity.deviceId)) (t.countGeneration identity.deviceId) =
      (some old, t.countGeneration identity.deviceId) := Prod.ext found rfl
    simp only [run_bind, bumped, ended]
    exact Holds_putLink rfl rfl

/-- The bytes that come in one chunk with the `n`th byte of the stream, after it. -/
def overshoot : Nat → List Chunk → Bytes
  | _, [] => []
  | n, chunk :: chunks =>
    if n ≤ chunk.bytes.length then chunk.bytes.drop n else overshoot (n - chunk.bytes.length) chunks

theorem lineTake_append_open {front : Bytes} (unbroken : newline ∉ front) (back : Bytes) :
    lineTake (front ++ back) = front.length + lineTake back := by
  rcases Lines.broken_or_open newline back with whole | ⟨body, rest, rfl, whole⟩
  · rw [lineTake_open whole, lineTake_open (List.not_mem_append unbroken whole), List.length_append]
  · rw [lineTake_closed whole, ← List.append_assoc, lineTake_closed (List.not_mem_append unbroken whole),
      List.length_append]
    omega

theorem overshoot_open {chunk : Chunk} {chunks : List Chunk} (n : Nat) (more : 0 < n ∨ chunks = []) :
    overshoot (chunk.bytes.length + n) (chunk :: chunks) = overshoot n chunks := by
  rcases more with positive | rfl
  · simp [overshoot, Nat.not_le.mpr (Nat.lt_add_of_pos_right positive)]
  · simp [overshoot]

/-- The reader of the first line holds on to what came with the end of the line. -/
theorem boundedLoop_overshoot (maxLen : Nat) (seen : Bytes) (chunks : List Chunk) {length : Nat}
    (answered : ((boundedLoop 0 maxLen).result ⟨seen, chunkReader chunks⟩).answer = .ok length) :
    let bytes := chunks.flatMap Chunk.bytes
    let reader := ((boundedLoop 0 maxLen).result ⟨seen, chunkReader chunks⟩).reader
    reader.buffer = overshoot (lineTake bytes) chunks ∧ reader.tape = (bytes.drop (lineTake bytes)).map .byte := by
  induction chunks generalizing seen with
  | nil =>
    have filled : (chunkReader []).fillBuf = (.ok [], chunkReader []) := rfl
    have ended : boundedPass 0 maxLen ⟨seen, chunkReader []⟩ = .inr ⟨.ok seen.length, seen, chunkReader []⟩ :=
      boundedPass_eof filled
    rw [Loop.result_ended (show (boundedLoop 0 maxLen).pass ⟨seen, chunkReader []⟩ = _ from ended)]
    exact ⟨rfl, rfl⟩
  | cons chunk chunks ih =>
    have filled : (chunkReader (chunk :: chunks)).fillBuf = (.ok chunk.bytes, ⟨chunk.bytes, chunks.map .data⟩) := rfl
    rcases Nat.lt_or_ge maxLen (seen.length + lineTake chunk.bytes) with long | fits
    · have ended : (boundedLoop 0 maxLen).pass ⟨seen, chunkReader (chunk :: chunks)⟩ = _ :=
        boundedPass_too_long filled chunk.nonempty long
      rw [Loop.result_ended ended] at answered
      cases answered
    · rcases Lines.broken_or_open newline chunk.bytes with unbroken | ⟨body, rest, split, unbroken⟩
      · have again : (boundedLoop 0 maxLen).pass ⟨seen, chunkReader (chunk :: chunks)⟩ =
            .inl ⟨seen ++ chunk.bytes, chunkReader chunks⟩ := by
          refine (boundedPass_open filled chunk.nonempty unbroken fits).trans ?_
          simp [BufReader.consume, lineTake_open unbroken, chunkReader, BufReader.new]
        rw [Loop.result_again again] at answered ⊢
        obtain ⟨buffer, left⟩ := ih _ answered
        have take := lineTake_append_open unbroken (chunks.flatMap Chunk.bytes)
        have more : 0 < lineTake (chunks.flatMap Chunk.bytes) ∨ chunks = [] := by
          cases chunks with
          | nil => exact .inr rfl
          | cons next chunks =>
            obtain ⟨first, rest, same⟩ := List.exists_cons_of_ne_nil next.nonempty
            exact .inl (by rw [List.flatMap_cons, same]; exact lineTake_pos first _)
        simp only [List.flatMap_cons, take]
        rw [overshoot_open _ more, ← List.drop_drop, List.drop_left]
        exact ⟨buffer, left⟩
      · have ended : (boundedLoop 0 maxLen).pass ⟨seen, chunkReader (chunk :: chunks)⟩ = _ :=
          boundedPass_closed (split ▸ filled) unbroken (split ▸ fits)
        have take : lineTake (chunk.bytes ++ chunks.flatMap Chunk.bytes) = lineTake chunk.bytes := by
          rw [split, List.append_assoc, List.cons_append, lineTake_closed unbroken, lineTake_closed unbroken]
        have inside : lineTake chunk.bytes ≤ chunk.bytes.length := by
          rw [split, lineTake_closed unbroken, List.length_append, List.length_cons]
          omega
        rw [Loop.result_ended ended, ← split]
        simp only [List.flatMap_cons, take]
        refine ⟨by simp [overshoot, inside, BufReader.consume], ?_⟩
        rw [List.drop_append_of_le_length inside, List.map_append, ← chunkReader_tape]
        rfl

/-- The bytes that follow the first line of the stream. -/
def afterFirstLine (chunks : List Chunk) : Bytes :=
  (chunks.flatMap Chunk.bytes).drop (lineTake (chunks.flatMap Chunk.bytes))

/-- The bytes that come in one chunk with the end of the first line. -/
def besideFirstLine (chunks : List Chunk) : Bytes := overshoot (lineTake (chunks.flatMap Chunk.bytes)) chunks

variable {codec platform d generation} in
/-- The link that was dialled is read from behind the chunk that ended the identity line. -/
theorem connectToDevice_stream {peer : OutboundPeer} {chunks : List Chunk} (came : peer.stream = chunks.map .data)
    {s t : ManagerState} {identity : Identity}
    (connected : run (exec codec) (connectToDevice codec platform peer).run s = (.ok (d, identity, generation), t)) :
    (∃ link, t.Holds d generation link) ∧
      (t.linkStream d).tape = ((afterFirstLine chunks).drop (besideFirstLine chunks).length).map .byte := by
  obtain ⟨result, u, checked, -, passed⟩ := checkOutgoing_run codec platform peer s
  unfold connectToDevice at connected
  rw [run_except_bind, checked] at connected
  rcases result with e | ⟨peerCert, found, reader⟩
  · cases connected
  · obtain ⟨-, -, -, rfl, length, answered⟩ := exchange_ok codec platform (passed _ rfl).2
    rw [came] at answered connected
    obtain ⟨buffer, tape⟩ := boundedLoop_overshoot maxPacketSize [] chunks answered
    obtain ⟨holds, stream⟩ := registerOutbound_run codec u peerCert found
      (.new (readLineBounded (.new (chunks.map .data)) [] maxPacketSize).reader.intoInner)
    simp only [run_except_bind, run_except_lift] at connected
    cases connected
    refine ⟨holds, ?_⟩
    rw [stream, List.map_drop, afterFirstLine, besideFirstLine, ← tape, ← buffer]
    simp [BufReader.tape, BufReader.new, BufReader.intoInner, readLineBounded, chunkReader]

variable {codec} in
/-- Of packet lines without their first bytes, the same packets are delivered
exactly when the first line still counts as it did. -/
theorem deliver_drop_iff {lines : List Bytes} (valid : ∀ line ∈ lines, PacketLine codec line) (n : Nat) :
    (∀ goesOn, deliver codec goesOn [] (survivors [] ((lines.flatten.drop n).map .byte)) = deliver codec goesOn [] lines) ↔
      ∀ first ∈ lines.head?, verdict codec (first.drop n) = verdict codec first := by
  have closed : ∀ line ∈ lines, Lines.Closed newline line := fun line member => (valid line member).closed
  cases lines with
  | nil => simp [survivors, deliver, verdict, isBlank]
  | cons first more =>
    have later : ∀ line ∈ more, Lines.Closed newline line := fun line member => closed line (List.mem_cons_of_mem _ member)
    rcases Nat.lt_or_ge n first.length with inside | beyond
    · have kept : ∀ line ∈ first.drop n :: more, Lines.Closed newline line :=
        List.forall_mem_cons.mpr ⟨(closed first List.mem_cons_self).drop inside, later⟩
      have bytes : (first :: more).flatten.drop n = (first.drop n :: more).flatten :=
        List.drop_append_of_le_length (Nat.le_of_lt inside)
      rw [bytes, survivors_flatten kept]
      simp only [deliver_end]
      rw [deliver_same_iff valid (by simp)]
      simp
    · obtain ⟨kept, stays, same, fewer⟩ := Lines.drop_flatten later (n - first.length)
      have bytes : (first :: more).flatten.drop n = kept.flatten := by
        rw [List.flatten_cons, List.drop_append, List.drop_eq_nil_of_le beyond, same, List.nil_append]
      rw [bytes, survivors_flatten stays]
      simp only [deliver_end]
      rw [deliver_same_iff valid (Nat.le_succ_of_le fewer)]
      obtain ⟨packet, judged⟩ := (valid first List.mem_cons_self).verdict
      constructor
      · intro verdicts
        have count := congrArg List.length verdicts
        simp at count
        omega
      · intro spared
        have nothing := spared first rfl
        rw [List.drop_eq_nil_of_le beyond, judged] at nothing
        cases nothing

variable {codec platform d generation} in
theorem receivedCurrent_connected {peer : OutboundPeer} {chunks : List Chunk} (came : peer.stream = chunks.map .data)
    {s : ManagerState} {identity : Identity}
    (connected : (run (exec codec) (connectToDevice codec platform peer).run s).1 = .ok (d, identity, generation))
    (goesOn : List Packet → Bool) :
    receivedCurrent codec d generation goesOn (run (exec codec) (connectToDevice codec platform peer).run s).2 =
      deliver codec goesOn [] (survivors [] (((afterFirstLine chunks).drop (besideFirstLine chunks).length).map .byte)) := by
  obtain ⟨⟨link, holds⟩, tape⟩ := connectToDevice_stream came (Prod.ext connected rfl)
  rw [receivedCurrent_eq holds, received_eq, tape]

variable {codec platform d generation} in
/-- Nothing is lost when the chunk that ends the identity line ends with it.
For a peer that sends packet lines the packets received are all of them exactly
when what came with the end of the identity line takes nothing from the first
packet that its line cannot spare. -/
theorem handOff_loses_nothing_iff {peer : OutboundPeer} {chunks : List Chunk} (came : peer.stream = chunks.map .data)
    {s : ManagerState} {identity : Identity}
    (connected : (run (exec codec) (connectToDevice codec platform peer).run s).1 = .ok (d, identity, generation)) :
    (besideFirstLine chunks = [] →
      ∀ goesOn, receivedCurrent codec d generation goesOn (run (exec codec) (connectToDevice codec platform peer).run s).2 =
        deliver codec goesOn []
          (Lines.complete newline (afterFirstLine chunks) ++ [Lines.unfinished newline (afterFirstLine chunks)])) ∧
    ∀ lines, (∀ line ∈ lines, PacketLine codec line) → afterFirstLine chunks = lines.flatten →
      ((∀ goesOn, receivedCurrent codec d generation goesOn
          (run (exec codec) (connectToDevice codec platform peer).run s).2 = deliver codec goesOn [] lines) ↔
        ∀ first ∈ lines.head?, verdict codec (first.drop (besideFirstLine chunks).length) = verdict codec first) := by
  simp only [receivedCurrent_connected came connected]
  refine ⟨fun nothing goesOn => ?_, fun lines valid follow => ?_⟩
  · rw [nothing, List.length_nil, List.drop_zero, survivors_bytes]
  · rw [follow]
    exact deliver_drop_iff valid _

namespace HandOff

def phoneId : DeviceId := "a1b2c3d4a1b2c3d4a1b2c3d4a1b2c3d4"

def identityText : String :=
  "\x7b\"id\":1,\"type\":\"kdeconnect.identity\",\"body\":\x7b\"deviceId\":\"a1b2c3d4a1b2c3d4a1b2c3d4a1b2c3d4\"," ++
    "\"deviceName\":\"Phone\",\"deviceType\":\"phone\",\"protocolVersion\":8\x7d\x7d"

def pingText : String := "\x7b\"id\":2,\"type\":\"kdeconnect.ping\",\"body\":\x7b\x7d\x7d"

/-- `serde_json` on an identity and on a ping. -/
def phoneCodec : JsonCodec where
  parse text :=
    if text = identityText then
      .ok (.obj [("id", .num (.posInt 1)), ("type", .str "kdeconnect.identity"),
        ("body", .obj [("deviceId", .str phoneId), ("deviceName", .str "Phone"), ("deviceType", .str "phone"),
          ("protocolVersion", .num (.posInt 8))])])
    else if text = pingText then
      .ok (.obj [("id", .num (.posInt 2)), ("type", .str "kdeconnect.ping"), ("body", .obj [])])
    else .error "EOF while parsing a value at line 1 column 0"
  decodeErrorText _ _ := ""
  valueErrorText _ := ""
  utf8ErrorText _ := ""

def phonePlatform : Platform where
  sha256 _ := []
  commonName _ := .ok none
  alphanumericBeyondAscii _ := false

def identityLine : Bytes := identityText.toByteArray.data.toList ++ [newline]

def pingLine : Bytes := pingText.toByteArray.data.toList ++ [newline]

/-- A phone that was not paired yet is dialled, answers in every step, and sends these chunks inside TLS. -/
def phone (chunks : List Chunk) : OutboundPeer where
  address := ⟨.v4 192 168 1 20, "192.168.1.20", "192.168.1.20:1716"⟩
  expectedIdentity := none
  connect := .connected
  ownIdentity := .ok ()
  plaintextWrite := .ok ()
  plaintextFlush := .ok ()
  ownCertificate := .ok ()
  tlsSetup := .ok ()
  handshake := some .completes
  certificate := none
  encryptedWrite := .ok ()
  encryptedFlush := .ok ()
  stream := chunks.map .data

def phoneIdentity : Identity := ⟨phoneId, "Phone", "phone", 8, [], [], none, none, none⟩

theorem pingLine_valid : PacketLine phoneCodec pingLine where
  closed := ⟨pingLine.dropLast, by decide +kernel, by decide +kernel⟩
  fits := by decide +kernel
  visible := by decide +kernel
  decodes := by
    have decoded : (PacketSerializer.deserialize phoneCodec pingLine).isOk = true := by decide +kernel
    cases result : PacketSerializer.deserialize phoneCodec pingLine with
    | ok packet => exact ⟨packet, rfl⟩
    | error e =>
      rw [result] at decoded
      cases decoded

/-- The identity and the ping come in a chunk each. -/
def apart : List Chunk := [⟨identityLine, by decide +kernel⟩, ⟨pingLine, by decide +kernel⟩]

/-- The identity and the ping come in one chunk. -/
def together : List Chunk := [⟨identityLine ++ pingLine, by decide +kernel⟩]

def identityPacket : Packet :=
  .new 1 "kdeconnect.identity" (.obj [("deviceId", .str phoneId), ("deviceName", .str "Phone"), ("deviceType", .str "phone"),
    ("protocolVersion", .num (.posInt 8))])

/-- The identity text without its outer braces. -/
def identityMembers : String :=
  "\"id\":1,\"type\":\"kdeconnect.identity\",\"body\":\x7b\"deviceId\":\"a1b2c3d4a1b2c3d4a1b2c3d4a1b2c3d4\"," ++
    "\"deviceName\":\"Phone\",\"deviceType\":\"phone\",\"protocolVersion\":8\x7d"

theorem identityText_braces : identityText = "\x7b" ++ identityMembers ++ "\x7d" := by decide +kernel

theorem parse_identityText :
    phoneCodec.parse identityText =
      .ok (.obj [("id", .num (.posInt 1)), ("type", .str "kdeconnect.identity"), ("body", identityPacket.body)]) := by
  dsimp only [phoneCodec]
  rw [if_pos rfl]
  rfl

theorem parsed_phone : parseIdentity phoneCodec phonePlatform identityLine = .ok phoneIdentity := by
  have whole : trim identityText = identityText := by
    rw [identityText_braces]
    exact trim_braces identityMembers
  have read : PacketSerializer.deserialize phoneCodec (toUtf8 identityText ++ [newline]) = .ok identityPacket :=
    PacketSerializer.deserialize_text (by decide +kernel) whole (by decide +kernel) parse_identityText rfl
  show parseIdentity phoneCodec phonePlatform (toUtf8 identityText ++ [newline]) = _
  unfold parseIdentity
  rw [read]
  decide +kernel

/-- What is left of a dial to the phone once its identity is read. -/
def answers (chunks : List Chunk) : ExceptT Error ManagerProgram (DeviceId × Identity × UInt64) := do
  dial (phone chunks)
  checkCertificate phonePlatform phoneId none
  let generation ← registerOutbound phoneIdentity none
    (.new (readLineBounded (.new (phone chunks).stream) [] maxPacketSize).reader.intoInner)
  return (phoneId, phoneIdentity, generation)

theorem connect_phone {chunks : List Chunk}
    (read : ∀ timeout failure, (readIdentityLine timeout failure (phone chunks).stream).1 = .ok identityLine) :
    connectToDevice phoneCodec phonePlatform (phone chunks) = answers chunks := by
  have exchanged : exchange phoneCodec phonePlatform (phone chunks) = _ :=
    exchange_eq rfl rfl rfl rfl rfl read parsed_phone rfl
  unfold connectToDevice checkOutgoing
  rw [exchanged]
  simp only [ok_bind, LawfulMonad.bind_assoc, LawfulMonad.pure_bind]
  rfl

theorem connected_apart :
    (run (exec phoneCodec) (connectToDevice phoneCodec phonePlatform (phone apart)).run {}).1 = .ok (phoneId, phoneIdentity, 1) := by
  rw [connect_phone (readIdentityLine_whole (by decide +kernel) (by decide +kernel))]
  decide +kernel

theorem connected_together :
    (run (exec phoneCodec) (connectToDevice phoneCodec phonePlatform (phone together)).run {}).1 =
      .ok (phoneId, phoneIdentity, 1) := by
  rw [connect_phone (readIdentityLine_whole (by decide +kernel) (by decide +kernel))]
  decide +kernel

/-- The same follows the line of the identity in both. -/
example : afterFirstLine apart = afterFirstLine together := by decide +kernel

theorem handOff_apart :
    (run (exec phoneCodec) (connectToDevice phoneCodec phonePlatform (phone apart)).run {}).1 =
        .ok (phoneId, phoneIdentity, 1) ∧
      ∀ goesOn, receivedCurrent phoneCodec phoneId 1 goesOn
          (run (exec phoneCodec) (connectToDevice phoneCodec phonePlatform (phone apart)).run {}).2 =
        deliver phoneCodec goesOn [] [pingLine] := by
  have valid : ∀ line ∈ [pingLine], PacketLine phoneCodec line := by simpa using pingLine_valid
  have follow : afterFirstLine apart = [pingLine].flatten := by decide +kernel
  have nothing : besideFirstLine apart = [] := by decide +kernel
  refine ⟨connected_apart, ((handOff_loses_nothing_iff rfl connected_apart).2 [pingLine] valid follow).mpr ?_⟩
  simp [nothing]

theorem handOff_together :
    (run (exec phoneCodec) (connectToDevice phoneCodec phonePlatform (phone together)).run {}).1 =
        .ok (phoneId, phoneIdentity, 1) ∧ afterFirstLine together = pingLine ∧ PacketLine phoneCodec pingLine ∧
      ¬∀ goesOn, receivedCurrent phoneCodec phoneId 1 goesOn
          (run (exec phoneCodec) (connectToDevice phoneCodec phonePlatform (phone together)).run {}).2 =
        deliver phoneCodec goesOn [] [pingLine] := by
  have follow : afterFirstLine together = pingLine := by decide +kernel
  have beside : besideFirstLine together = pingLine := by decide +kernel
  refine ⟨connected_together, follow, pingLine_valid, fun same => ?_⟩
  have valid : ∀ line ∈ [pingLine], PacketLine phoneCodec line := by simpa using pingLine_valid
  have came : (phone together).stream = together.map .data := rfl
  have received := receivedCurrent_connected came connected_together
  simp only [received, follow, beside] at same
  have spared := (deliver_drop_iff valid pingLine.length).mp (by simpa using same) pingLine rfl
  obtain ⟨packet, judged⟩ := pingLine_valid.verdict
  rw [List.drop_length, judged] at spared
  cases spared

end HandOff

end RustConnect
