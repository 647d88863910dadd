import RustConnect.Framing
import RustConnect.PacketCodec

namespace RustConnect

open Signal

/-- `u8::is_ascii_whitespace`. -/
def isAsciiWhitespace (b : UInt8) : Bool := b == 0x20 || b == 0x09 || b == 0x0A || b == 0x0C || b == 0x0D

def isBlank (line : Bytes) : Bool := line.all isAsciiWhitespace

variable (codec : JsonCodec) (deviceId : DeviceId)

/-- The read loop of `recv_packet_inner` on the stream of a link: what it
returns, and where it leaves the stream. -/
def receiveLoop : Loop BufReader (Except Error Packet × BufReader) where
  pass reader :=
    match readSteadyLine reader [] maxSteadyPacketSize with
    | ⟨.error .elapsed, _, reader⟩ =>
      .inr (.error (.connectionTimeout s!"Timed out receiving packet from {deviceId}"), reader)
    | ⟨.error (.failed e), _, reader⟩ =>
      .inr (.error (.connectionError s!"Failed to receive packet from {deviceId}: {e.display}"), reader)
    | ⟨.ok .eof, _, reader⟩ => .inr (.error (.connectionError s!"Connection closed by {deviceId}"), reader)
    | ⟨.ok .oversizeSkipped, _, reader⟩ => .inl reader
    | ⟨.ok (.line _), line, reader⟩ =>
      if isBlank line then .inl reader else .inr (PacketSerializer.deserialize codec line, reader)
  size reader := reader.tape.length
  shrinks s t again := by
    have more : s.tape ≠ [] := by
      intro ended
      have answered := (readSteadyLine_end maxSteadyPacketSize ended).1
      split at again <;> simp_all
    have shorter := readSteadyLine_shrinks s maxSteadyPacketSize more
    split at again
    · cases again
    · cases again
    · cases again
    · cases again
      simp_all
    · split at again <;> cases again
      simp_all

def receivePacket (reader : BufReader) : Except Error Packet × BufReader := (receiveLoop codec deviceId).result reader

/-- What the link makes of a line: nothing, the end of the link, or a packet. -/
inductive Verdict
  | skipped
  | fatal (e : Error)
  | packet (packet : Packet)

def verdict (line : Bytes) : Verdict :=
  if line.length > maxSteadyPacketSize ∨ isBlank line then .skipped
  else match PacketSerializer.deserialize codec line with
    | .error e => .fatal e
    | .ok packet => .packet packet

variable {codec deviceId} {reader : BufReader} {body : Bytes} {rest : List Signal}

variable (codec deviceId) in
theorem receive_timeout (unbroken : newline ∉ body) (tape : reader.tape = body.map byte ++ interrupt .elapsed :: rest) :
    ∃ after, receivePacket codec deviceId reader =
      (.error (.connectionTimeout s!"Timed out receiving packet from {deviceId}"), after) ∧ after.tape = rest := by
  obtain ⟨answer, left⟩ := readSteadyLine_interrupt maxSteadyPacketSize unbroken tape
  generalize called : readSteadyLine reader [] maxSteadyPacketSize = result at answer left
  obtain ⟨_, line, after⟩ := result
  subst answer
  exact ⟨after, Loop.result_ended (by simp [receiveLoop, called]), left⟩

variable (codec deviceId) in
theorem receive_failure {e : Error} (unbroken : newline ∉ body)
    (tape : reader.tape = body.map byte ++ interrupt (.failed e) :: rest) :
    ∃ after, receivePacket codec deviceId reader =
      (.error (.connectionError s!"Failed to receive packet from {deviceId}: {e.display}"), after) ∧ after.tape = rest := by
  obtain ⟨answer, left⟩ := readSteadyLine_interrupt maxSteadyPacketSize unbroken tape
  generalize called : readSteadyLine reader [] maxSteadyPacketSize = result at answer left
  obtain ⟨_, line, after⟩ := result
  subst answer
  exact ⟨after, Loop.result_ended (by simp [receiveLoop, called]), left⟩

/-- One line, whichever way it ended, is skipped or decides what the call returns. -/
theorem receive_line {line : Bytes} {after : BufReader} (fits : line.length ≤ maxSteadyPacketSize)
    (called : readSteadyLine reader [] maxSteadyPacketSize = ⟨.ok (.line line.length), line, after⟩) :
    receivePacket codec deviceId reader =
      match verdict codec line with
      | .skipped => receivePacket codec deviceId after
      | .fatal e => (.error e, after)
      | .packet packet => (.ok packet, after) := by
  unfold verdict
  by_cases blank : isBlank line
  · rw [if_pos (.inr blank)]
    exact Loop.result_again (by simp [receiveLoop, called, blank])
  · rw [if_neg (by simp [blank]; omega)]
    have returned : receivePacket codec deviceId reader = (PacketSerializer.deserialize codec line, after) :=
      Loop.result_ended (by simp [receiveLoop, called, blank])
    rw [returned]
    cases PacketSerializer.deserialize codec line <;> rfl

variable (codec deviceId) in
theorem receive_closed (unbroken : newline ∉ body) (tape : reader.tape = body.map byte ++ byte newline :: rest) :
    ∃ after, after.tape = rest ∧ receivePacket codec deviceId reader =
      match verdict codec (body ++ [newline]) with
      | .skipped => receivePacket codec deviceId after
      | .fatal e => (.error e, after)
      | .packet packet => (.ok packet, after) := by
  obtain ⟨answer, buf, left⟩ := readSteadyLine_closed maxSteadyPacketSize unbroken tape
  generalize called : readSteadyLine reader [] maxSteadyPacketSize = result at answer buf left
  obtain ⟨_, line, after⟩ := result
  subst answer buf
  refine ⟨after, left, ?_⟩
  rcases Nat.lt_or_ge maxSteadyPacketSize (body ++ [newline]).length with long | fits
  · rw [closedAnswer_long long] at called
    have skipped : verdict codec (body ++ [newline]) = .skipped := if_pos (.inl long)
    rw [skipped]
    exact Loop.result_again (by simp [receiveLoop, called])
  · rw [closedAnswer_short fits] at called
    exact receive_line fits called

variable (codec deviceId) in
theorem receive_eof (tape : reader.tape = []) :
    ∃ after, after.tape = [] ∧
      receivePacket codec deviceId reader = (.error (.connectionError s!"Connection closed by {deviceId}"), after) := by
  obtain ⟨answer, buf, left⟩ := readSteadyLine_open maxSteadyPacketSize List.not_mem_nil tape
  generalize called : readSteadyLine reader [] maxSteadyPacketSize = result at answer buf left
  obtain ⟨_, line, after⟩ := result
  rw [(openAnswer_eof []).mpr (.inl rfl)] at answer
  subst answer
  exact ⟨after, left, Loop.result_ended (by simp [receiveLoop, called])⟩

variable (codec deviceId) in
theorem receive_open (unbroken : newline ∉ body) (tape : reader.tape = body.map byte) :
    ∃ after, after.tape = [] ∧ receivePacket codec deviceId reader =
      match verdict codec body with
      | .skipped => (.error (.connectionError s!"Connection closed by {deviceId}"), after)
      | .fatal e => (.error e, after)
      | .packet packet => (.ok packet, after) := by
  obtain ⟨answer, buf, left⟩ := readSteadyLine_open maxSteadyPacketSize unbroken tape
  generalize called : readSteadyLine reader [] maxSteadyPacketSize = result at answer buf left
  obtain ⟨_, line, after⟩ := result
  subst answer buf
  by_cases ends : body = [] ∨ maxSteadyPacketSize < body.length
  · have skipped : verdict codec body = .skipped := if_pos (ends.elim (fun empty => .inr (by simp [empty, isBlank])) .inl)
    rw [openAnswer, if_pos ends] at called
    rw [skipped]
    exact ⟨after, left, Loop.result_ended (by simp [receiveLoop, called])⟩
  · rw [openAnswer, if_neg ends] at called
    rw [receive_line (Nat.not_lt.mp (not_or.mp ends).2) called]
    obtain ⟨closed, finished, returned⟩ := receive_eof codec deviceId left
    cases verdict codec body with
    | skipped => exact ⟨closed, finished, returned⟩
    | fatal e => exact ⟨after, left, rfl⟩
    | packet packet => exact ⟨after, left, rfl⟩

variable (codec deviceId) in
/-- A pass of the loop leaves the stream where its read left it. -/
theorem receiveLoop_reader (s : BufReader) :
    ((receiveLoop codec deviceId).pass s).elim id Prod.snd = (readSteadyLine s [] maxSteadyPacketSize).reader := by
  simp only [receiveLoop]
  split
  · simp_all
  · simp_all
  · simp_all
  · simp_all
  · split <;> simp_all

variable (codec deviceId) in
/-- A call on a stream that has not ended reads something. -/
theorem receive_shrinks (reader : BufReader) (more : reader.tape ≠ []) :
    (receivePacket codec deviceId reader).2.tape.length < reader.tape.length := by
  have rule : (receivePacket codec deviceId reader).2.tape.length ≤ reader.tape.length ∧
      (reader.tape ≠ [] → (receivePacket codec deviceId reader).2.tape.length < reader.tape.length) := by
    refine Loop.result_rule (P := fun (s : BufReader) (value : Except Error Packet × BufReader) =>
      value.2.tape.length ≤ s.tape.length ∧ (s.tape ≠ [] → value.2.tape.length < s.tape.length))
      (fun s value ended => ?_) (fun s t again later => ?_) reader
    · have left := receiveLoop_reader codec deviceId s
      rw [ended] at left
      by_cases finished : s.tape = []
      · have same : value.2.tape = [] := by
          rw [← (readSteadyLine_end maxSteadyPacketSize finished).2, ← left]
          rfl
        exact ⟨by simp [same], fun more => absurd finished more⟩
      · have shorter := readSteadyLine_shrinks s maxSteadyPacketSize finished
        rw [← left] at shorter
        exact ⟨Nat.le_of_lt shorter, fun _ => shorter⟩
    · have shorter := (receiveLoop codec deviceId).shrinks s t again
      have less := Nat.lt_of_le_of_lt later.1 shorter
      exact ⟨Nat.le_of_lt less, fun _ => less⟩
  exact rule.2 more

end RustConnect
