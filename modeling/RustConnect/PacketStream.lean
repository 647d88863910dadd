import RustConnect.Receive

namespace RustConnect

open Signal

variable (codec : JsonCodec) (deviceId : DeviceId) (goesOn : List Packet → Bool)

/-- What `run_packet_loop` does with what a call returned and the state it left:
it calls again after a packet and after a timeout, and ends on any other error
or when the handling of the packets it has received makes it return. -/
def onward {σ : Type} (got : List Packet) : Except Error Packet × σ → (List Packet × σ) ⊕ List Packet
  | (.ok packet, next) => if goesOn (got ++ [packet]) then .inl (got ++ [packet], next) else .inr (got ++ [packet])
  | (.error (.connectionTimeout _), next) => .inl (got, next)
  | (.error _, _) => .inr got

/-- The receiving side of `run_packet_loop` on one link. -/
def packetsLoop : Loop (List Packet × BufReader) (List Packet) where
  pass s := onward goesOn s.1 (receivePacket codec deviceId s.2)
  size s := s.2.tape.length
  shrinks s t again := by
    have more : s.2.tape ≠ [] := by
      intro ended
      obtain ⟨after, -, returned⟩ := receive_eof codec deviceId ended
      rw [returned] at again
      cases again
    have shorter := receive_shrinks codec deviceId s.2 more
    unfold onward at again
    split at again
    · split at again <;> cases again
      simp_all
    · cases again
      simp_all
    · cases again

/-- The packets that the loop receives over the link, in order. -/
def received (reader : BufReader) : List Packet := (packetsLoop codec deviceId goesOn).result ([], reader)

/-- What the lines give that the link reads, one after the other. -/
def deliver : List Packet → List Bytes → List Packet
  | got, [] => got
  | got, line :: more =>
    match verdict codec line with
    | .skipped => deliver got more
    | .fatal _ => got
    | .packet packet => if goesOn (got ++ [packet]) then deliver (got ++ [packet]) more else got ++ [packet]

/-- The lines that the link reads: a timeout drops what has been read of a line. -/
def survivors (seen : Bytes) : List Signal → List Bytes
  | [] => [seen]
  | .interrupt .elapsed :: rest => survivors [] rest
  | .interrupt (.failed _) :: _ => []
  | .byte b :: rest => if b = newline then (seen ++ [b]) :: survivors [] rest else survivors (seen ++ [b]) rest

variable {codec deviceId goesOn} {body seen : Bytes} {rest : List Signal}

theorem survivors_open (unbroken : newline ∉ body) :
    survivors seen (body.map byte ++ rest) = survivors (seen ++ body) rest := by
  induction body generalizing seen with
  | nil => simp
  | cons b body ih =>
    obtain ⟨other, later⟩ := not_or.mp (List.mem_cons.not.mp unbroken)
    simp [survivors, Ne.symm other, ih later]

/-- Without interrupts the lines of the stream survive as they are. -/
theorem survivors_bytes (bytes : Bytes) :
    survivors [] (bytes.map byte) = Lines.complete newline bytes ++ [Lines.unfinished newline bytes] := by
  induction bound : bytes.length using Nat.strongRecOn generalizing bytes with
  | ind n ih =>
    rcases Lines.broken_or_open newline bytes with unbroken | ⟨body, rest, rfl, unbroken⟩
    · rw [← List.append_nil (bytes.map byte), survivors_open unbroken, Lines.complete_open unbroken,
        Lines.unfinished_open unbroken]
      rfl
    · have later := ih _ (by rw [← bound]; simp; omega) rest rfl
      rw [Lines.complete_closed unbroken, Lines.unfinished_closed unbroken, List.map_append, survivors_open unbroken]
      simp [survivors, later]

theorem survivors_flatten {lines : List Bytes} (closed : ∀ line ∈ lines, Lines.Closed newline line) :
    survivors [] (lines.flatten.map byte) = lines ++ [[]] := by
  have complete := Lines.complete_flatten closed []
  have unfinished := Lines.unfinished_flatten closed []
  rw [List.append_nil] at complete unfinished
  rw [survivors_bytes, complete, unfinished]
  simp [Lines.complete, Lines.unfinished]

theorem fatal_not_timeout {line : Bytes} {e : Error} (fatal : verdict codec line = .fatal e) (message : String) :
    e ≠ .connectionTimeout message := by
  unfold verdict at fatal
  split at fatal
  · cases fatal
  · split at fatal
    · rename_i failed
      cases fatal
      exact PacketSerializer.deserialize_not_timeout failed message
    · cases fatal

section Passes

variable {got : List Packet} {reader after : BufReader}

theorem packetsLoop_skip (same : receivePacket codec deviceId reader = receivePacket codec deviceId after) :
    (packetsLoop codec deviceId goesOn).result (got, reader) = (packetsLoop codec deviceId goesOn).result (got, after) :=
  Loop.result_congr (by simp only [packetsLoop, same])

theorem packetsLoop_timeout {message : String}
    (returned : receivePacket codec deviceId reader = (.error (.connectionTimeout message), after)) :
    (packetsLoop codec deviceId goesOn).result (got, reader) = (packetsLoop codec deviceId goesOn).result (got, after) :=
  Loop.result_again (by simp only [packetsLoop, onward, returned])

theorem packetsLoop_error {e : Error} (returned : receivePacket codec deviceId reader = (.error e, after))
    (other : ∀ message, e ≠ .connectionTimeout message) : (packetsLoop codec deviceId goesOn).result (got, reader) = got := by
  refine Loop.result_ended ?_
  simp only [packetsLoop, onward, returned]

theorem packetsLoop_packet {packet : Packet} (returned : receivePacket codec deviceId reader = (.ok packet, after)) :
    (packetsLoop codec deviceId goesOn).result (got, reader) =
      if goesOn (got ++ [packet]) then (packetsLoop codec deviceId goesOn).result (got ++ [packet], after)
      else got ++ [packet] := by
  by_cases more : goesOn (got ++ [packet])
  · rw [if_pos more]
    exact Loop.result_again (by simp only [packetsLoop, onward, returned, more, ↓reduceIte])
  · rw [if_neg more]
    exact Loop.result_ended (by simp [packetsLoop, onward, returned, more])

theorem packetsLoop_end (tape : reader.tape = []) : (packetsLoop codec deviceId goesOn).result (got, reader) = got := by
  obtain ⟨after, -, returned⟩ := receive_eof codec deviceId tape
  exact packetsLoop_error returned fun _ same => by cases same

end Passes

variable (codec deviceId goesOn) in
/-- However the stream is cut into chunks, the loop receives what the surviving lines give. -/
theorem packetsLoop_result (got : List Packet) (reader : BufReader) :
    (packetsLoop codec deviceId goesOn).result (got, reader) = deliver codec goesOn got (survivors [] reader.tape) := by
  induction bound : reader.tape.length using Nat.strongRecOn generalizing got reader with
  | ind n ih =>
    obtain ⟨body, unbroken, tape | ⟨rest, tape⟩ | ⟨cause, rest, tape⟩⟩ := tape_cases reader.tape
    · obtain ⟨after, left, returned⟩ := receive_open codec deviceId unbroken tape
      have last : survivors [] reader.tape = [body] := by
        rw [tape, ← List.append_nil (body.map byte), survivors_open unbroken]
        rfl
      rw [last]
      unfold deliver
      cases judged : verdict codec body with
      | skipped =>
        rw [judged] at returned
        exact packetsLoop_error returned fun _ same => by cases same
      | fatal e =>
        rw [judged] at returned
        exact packetsLoop_error returned (fatal_not_timeout judged)
      | packet packet =>
        rw [judged] at returned
        rw [packetsLoop_packet returned, packetsLoop_end left]
        rfl
    · obtain ⟨after, left, returned⟩ := receive_closed codec deviceId unbroken tape
      have later (got : List Packet) := ih _ (by rw [← bound, tape]; simp; omega) got after (congrArg List.length left)
      have first : survivors [] reader.tape = (body ++ [newline]) :: survivors [] after.tape := by
        rw [tape, survivors_open unbroken, left]
        simp [survivors]
      rw [first]
      unfold deliver
      cases judged : verdict codec (body ++ [newline]) with
      | skipped =>
        rw [judged] at returned
        rw [packetsLoop_skip returned, later]
      | fatal e =>
        rw [judged] at returned
        exact packetsLoop_error returned (fatal_not_timeout judged)
      | packet packet =>
        rw [judged] at returned
        rw [packetsLoop_packet returned, later]
    · cases cause with
      | elapsed =>
        obtain ⟨after, returned, left⟩ := receive_timeout codec deviceId unbroken tape
        have first : survivors [] reader.tape = survivors [] after.tape := by
          rw [tape, survivors_open unbroken, left]
          rfl
        rw [packetsLoop_timeout returned, first]
        exact ih _ (by rw [← bound, tape]; simp; omega) got after (congrArg List.length left)
      | failed e =>
        obtain ⟨after, returned, left⟩ := receive_failure codec deviceId unbroken tape
        have nothing : survivors [] reader.tape = [] := by
          rw [tape, survivors_open unbroken]
          rfl
        rw [nothing]
        exact packetsLoop_error returned fun _ same => by cases same

theorem received_eq (reader : BufReader) :
    received codec deviceId goesOn reader = deliver codec goesOn [] (survivors [] reader.tape) :=
  packetsLoop_result codec deviceId goesOn [] reader

end RustConnect
