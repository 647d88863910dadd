import RustConnect.Delivery

namespace RustConnect

open Signal

namespace IdleTicks

/-- The bytes that arrive, in order. -/
def arrivedBytes (arrivals : List Arrival) : Bytes :=
  arrivals.flatMap fun
    | .data chunk => chunk.bytes
    | .interrupt _ => []

def withoutTimeouts (arrivals : List Arrival) : List Arrival :=
  arrivals.filter fun
    | .data _ => true
    | .interrupt _ => false

/-- For each timeout, how many bytes had arrived when it fired. -/
def timeoutMarks : Nat → List Arrival → List Nat
  | _, [] => []
  | n, .data chunk :: rest => timeoutMarks (n + chunk.bytes.length) rest
  | n, .interrupt _ :: rest => n :: timeoutMarks n rest

/-- What is left of a line that begins at offset `start` after the last timeout that fired inside it. -/
def remainder (marks : List Nat) (start : Nat) (line : Bytes) : Bytes :=
  line.drop ((marks.filter fun m => start ≤ m && m < start + line.length).getLast?.getD start - start)

def remainders (marks : List Nat) : Nat → List Bytes → List Bytes
  | _, [] => []
  | start, line :: more => remainder marks start line :: remainders marks (start + line.length) more

def signalMarks : Nat → List Signal → List Nat
  | _, [] => []
  | n, .byte _ :: rest => signalMarks (n + 1) rest
  | n, .interrupt _ :: rest => n :: signalMarks n rest

def signalBytes (tape : List Signal) : Bytes :=
  tape.flatMap fun
    | .byte b => [b]
    | .interrupt _ => []

/-- The only interrupts on the tape are timeouts. -/
def Calm (tape : List Signal) : Prop := ∀ e, interrupt (.failed e) ∉ tape

variable {codec : JsonCodec} {deviceId : DeviceId} {goesOn : List Packet → Bool} {tape pre rest : List Signal}

theorem signalMarks_bytes (n : Nat) (bytes : Bytes) (rest : List Signal) :
    signalMarks n (bytes.map byte ++ rest) = signalMarks (n + bytes.length) rest := by
  induction bytes generalizing n with
  | nil => rfl
  | cons b bytes ih =>
    have step : n + 1 + bytes.length = n + (bytes.length + 1) := by omega
    simp [signalMarks, ih, step]

theorem signalMarks_signals (n : Nat) (arrivals : List Arrival) :
    signalMarks n (arrivals.flatMap Arrival.signals) = timeoutMarks n arrivals := by
  induction arrivals generalizing n with
  | nil => rfl
  | cons arrival arrivals ih =>
    cases arrival with
    | data chunk => simp [Arrival.signals, timeoutMarks, signalMarks_bytes, ih]
    | interrupt cause => simp [Arrival.signals, timeoutMarks, signalMarks, ih]

theorem signalBytes_map (bytes : Bytes) : signalBytes (bytes.map byte) = bytes := by
  induction bytes with
  | nil => rfl
  | cons b bytes ih => simpa [signalBytes] using ih

theorem signalBytes_signals (arrivals : List Arrival) :
    signalBytes (arrivals.flatMap Arrival.signals) = arrivedBytes arrivals := by
  induction arrivals with
  | nil => rfl
  | cons arrival arrivals ih =>
    have append (first second : List Signal) : signalBytes (first ++ second) = signalBytes first ++ signalBytes second :=
      List.flatMap_append
    rw [List.flatMap_cons, append, ih]
    cases arrival with
    | data chunk => simp [Arrival.signals, arrivedBytes, signalBytes_map]
    | interrupt cause => simp [Arrival.signals, arrivedBytes, signalBytes]

/-- The tape of a stream whose bytes begin with a byte reaches that byte after interrupts only. -/
theorem signalBytes_split {body more : Bytes} {b : UInt8} (bytes : signalBytes tape = body ++ b :: more) :
    ∃ pre rest, tape = pre ++ byte b :: rest ∧ signalBytes pre = body ∧ signalBytes rest = more := by
  induction tape generalizing body with
  | nil => simp [signalBytes] at bytes
  | cons signal tape ih =>
    cases signal with
    | interrupt cause =>
      obtain ⟨pre, rest, rfl, front, back⟩ := ih bytes
      exact ⟨.interrupt cause :: pre, rest, rfl, front, back⟩
    | byte c =>
      have whole : c :: signalBytes tape = body ++ b :: more := bytes
      cases body with
      | nil =>
        obtain ⟨rfl, back⟩ := List.cons.inj whole
        exact ⟨[], tape, rfl, rfl, back⟩
      | cons c' body =>
        obtain ⟨rfl, later⟩ := List.cons.inj whole
        obtain ⟨pre, rest, rfl, front, back⟩ := ih later
        exact ⟨.byte c :: pre, rest, rfl, congrArg (c :: ·) front, back⟩

/-- Of a line that has come to its newline, what survives is what follows the
last timeout; `k` bytes of what was passed before had been dropped already. -/
theorem survivors_line (rest : List Signal) (start k : Nat) (passed : Bytes) (dropped : k ≤ passed.length) (calm : Calm pre)
    (unbroken : newline ∉ signalBytes pre) :
    survivors (passed.drop k) (pre ++ byte newline :: rest) =
      ((passed ++ signalBytes pre).drop (((signalMarks (start + passed.length) pre).getLast?.map (· - start)).getD k) ++
        [newline]) :: survivors [] rest := by
  induction pre generalizing passed k with
  | nil => simp [survivors, signalBytes, signalMarks]
  | cons signal pre ih =>
    have calmer : Calm pre := fun e member => calm e (List.mem_cons_of_mem _ member)
    cases signal with
    | byte b =>
      have bytes : signalBytes (byte b :: pre) = b :: signalBytes pre := rfl
      rw [bytes] at unbroken
      obtain ⟨other, later⟩ := not_or.mp (List.mem_cons.not.mp unbroken)
      have longer : k ≤ (passed ++ [b]).length := by
        rw [List.length_append]
        omega
      have next := ih k (passed ++ [b]) longer calmer later
      have joined : passed.drop k ++ [b] = (passed ++ [b]).drop k := by
        rw [List.drop_append_of_le_length dropped]
      have length : start + (passed ++ [b]).length = start + passed.length + 1 := by
        simp
        omega
      simp only [List.cons_append, survivors, Ne.symm other, ↓reduceIte, joined, next, length, bytes, signalMarks,
        List.append_assoc, List.cons_append, List.nil_append]
    | interrupt cause =>
      cases cause with
      | failed e => exact absurd List.mem_cons_self (calm e)
      | elapsed =>
        have next := ih passed.length passed Nat.le.refl calmer unbroken
        rw [List.drop_length] at next
        have bytes : signalBytes (interrupt .elapsed :: pre) = signalBytes pre := rfl
        have last : (((start + passed.length) :: signalMarks (start + passed.length) pre).getLast?.map (· - start)).getD k =
            ((signalMarks (start + passed.length) pre).getLast?.map (· - start)).getD passed.length := by
          rw [List.getLast?_cons]
          cases (signalMarks (start + passed.length) pre).getLast? <;> simp
        rw [List.cons_append, survivors, next, bytes, signalMarks, last]

theorem signalMarks_append (n : Nat) (first second : List Signal) :
    signalMarks n (first ++ second) = signalMarks n first ++ signalMarks (n + (signalBytes first).length) second := by
  induction first generalizing n with
  | nil => rfl
  | cons signal first ih =>
    cases signal with
    | interrupt cause => simpa [signalMarks, signalBytes] using ih n
    | byte b =>
      have bytes : (signalBytes (byte b :: first)).length = (signalBytes first).length + 1 := rfl
      have step : n + 1 + (signalBytes first).length = n + ((signalBytes first).length + 1) := by omega
      simp only [List.cons_append, signalMarks, ih, bytes, step]

theorem signalMarks_bounds {n m : Nat} (member : m ∈ signalMarks n tape) : n ≤ m ∧ m ≤ n + (signalBytes tape).length := by
  induction tape generalizing n with
  | nil => simp [signalMarks] at member
  | cons signal tape ih =>
    cases signal with
    | interrupt cause =>
      have bytes : (signalBytes (interrupt cause :: tape)).length = (signalBytes tape).length := rfl
      rcases List.mem_cons.mp member with rfl | later
      · omega
      · rw [bytes]
        exact ih later
    | byte b =>
      have bytes : (signalBytes (byte b :: tape)).length = (signalBytes tape).length + 1 := rfl
      obtain ⟨low, high⟩ := ih member
      omega

theorem filter_marks_before {marks : List Nat} {start length : Nat} (before : ∀ m ∈ marks, m < start) :
    (marks.filter fun m => start ≤ m && m < start + length) = [] := by
  refine List.filter_eq_nil_iff.mpr fun m member => ?_
  have earlier := before m member
  simp only [Bool.and_eq_true, decide_eq_true_eq]
  omega

/-- Timeouts before a line do not matter for it or for any later line. -/
theorem remainders_later {first second : List Nat} {start : Nat} (lines : List Bytes) (before : ∀ m ∈ first, m < start) :
    remainders (first ++ second) start lines = remainders second start lines := by
  induction lines generalizing start with
  | nil => rfl
  | cons line lines ih =>
    have next := ih fun m member => Nat.lt_add_right line.length (before m member)
    simp only [remainders, next, remainder, List.filter_append, filter_marks_before before, List.nil_append]

theorem remainder_first (start : Nat) (pre rest : List Signal) :
    remainder (signalMarks start (pre ++ byte newline :: rest)) start (signalBytes pre ++ [newline]) =
      (signalBytes pre).drop (((signalMarks start pre).getLast?.map (· - start)).getD 0) ++ [newline] := by
  have length : (signalBytes pre ++ [newline]).length = (signalBytes pre).length + 1 := by simp
  have inside : ((signalMarks start pre).filter fun m => start ≤ m && m < start + ((signalBytes pre).length + 1)) =
      signalMarks start pre := by
    refine List.filter_eq_self.mpr fun m member => ?_
    have bounds := signalMarks_bounds member
    simp only [Bool.and_eq_true, decide_eq_true_eq]
    omega
  have outside : ((signalMarks (start + (signalBytes pre).length) (byte newline :: rest)).filter
      fun m => start ≤ m && m < start + ((signalBytes pre).length + 1)) = [] := by
    refine List.filter_eq_nil_iff.mpr fun m member => ?_
    have later : m ∈ signalMarks (start + (signalBytes pre).length + 1) rest := member
    have bounds := (signalMarks_bounds later).1
    simp only [Bool.and_eq_true, decide_eq_true_eq]
    omega
  rw [remainder, length, signalMarks_append, List.filter_append, inside, outside, List.append_nil]
  cases last : (signalMarks start pre).getLast? with
  | none => simp
  | some m =>
    have bounds := signalMarks_bounds (List.mem_of_getLast? last)
    have within : m - start ≤ (signalBytes pre).length := by omega
    simp [List.drop_append_of_le_length within]

theorem survivors_silent (calm : Calm tape) (silent : signalBytes tape = []) : survivors [] tape = [[]] := by
  induction tape with
  | nil => rfl
  | cons signal tape ih =>
    cases signal with
    | byte b => cases silent
    | interrupt cause =>
      cases cause with
      | failed e => exact absurd List.mem_cons_self (calm e)
      | elapsed => exact ih (fun e member => calm e (List.mem_cons_of_mem _ member)) silent

/-- The lines that survive are what the timeouts leave of the lines of the stream. -/
theorem survivors_lines (start : Nat) (lines : List Bytes) (closed : ∀ line ∈ lines, Lines.Closed newline line)
    (calm : Calm tape) (bytes : signalBytes tape = lines.flatten) :
    survivors [] tape = remainders (signalMarks start tape) start lines ++ [[]] := by
  induction lines generalizing start tape with
  | nil => exact survivors_silent calm bytes
  | cons line lines ih =>
    obtain ⟨body, rfl, unbroken⟩ := closed line List.mem_cons_self
    have whole : signalBytes tape = body ++ newline :: lines.flatten := by simpa using bytes
    obtain ⟨pre, rest, rfl, rfl, later⟩ := signalBytes_split whole
    have calmPre : Calm pre := fun e member => calm e (by simp [member])
    have calmRest : Calm rest := fun e member => calm e (by simp [member])
    have first := survivors_line rest start 0 [] Nat.le.refl calmPre unbroken
    have next := ih (start + (signalBytes pre ++ [newline]).length)
      (fun line member => closed line (List.mem_cons_of_mem _ member)) calmRest later
    have before : ∀ m ∈ signalMarks start pre, m < start + (signalBytes pre ++ [newline]).length := by
      intro m member
      have bounds := signalMarks_bounds member
      rw [List.length_append, List.length_singleton]
      omega
    have marks : signalMarks start (pre ++ byte newline :: rest) =
        signalMarks start pre ++ signalMarks (start + (signalBytes pre ++ [newline]).length) rest := by
      rw [signalMarks_append, List.length_append]
      rfl
    rw [remainders, remainder_first, marks, remainders_later lines before, List.cons_append, ← next]
    simpa using first

/-- The arrivals bring the bytes of these lines, in chunks, with timeouts
anywhere between the chunks and no failure of the stream. -/
structure Brings (arrivals : List Arrival) (lines : List Bytes) : Prop where
  bytes : arrivedBytes arrivals = lines.flatten
  unfailing : ∀ e, Arrival.interrupt (.failed e) ∉ arrivals

theorem Brings.calm {arrivals : List Arrival} {lines : List Bytes} (brings : Brings arrivals lines) :
    Calm (arrivals.flatMap Arrival.signals) := by
  intro e member
  obtain ⟨arrival, among, signal⟩ := List.mem_flatMap.mp member
  cases arrival with
  | data chunk => simp [Arrival.signals] at signal
  | interrupt cause =>
    obtain rfl : cause = .failed e := by simpa [Arrival.signals, eq_comm] using signal
    exact brings.unfailing e among

theorem withoutTimeouts_signals (arrivals : List Arrival) :
    (withoutTimeouts arrivals).flatMap Arrival.signals = (arrivedBytes arrivals).map byte := by
  induction arrivals with
  | nil => rfl
  | cons arrival arrivals ih =>
    cases arrival with
    | data chunk =>
      rw [withoutTimeouts, List.filter_cons_of_pos rfl, List.flatMap_cons]
      simpa [arrivedBytes, Arrival.signals, withoutTimeouts] using ih
    | interrupt cause =>
      rw [withoutTimeouts, List.filter_cons_of_neg (by simp)]
      simpa [arrivedBytes, withoutTimeouts] using ih

theorem remainders_length (marks : List Nat) (start : Nat) (lines : List Bytes) :
    (remainders marks start lines).length = lines.length := by
  induction lines generalizing start with
  | nil => rfl
  | cons line lines ih => simp [remainders, ih]

variable (deviceId) in
/-- Timeouts lose nothing exactly when of every line what follows the last
timeout inside it still counts as the line itself does. -/
theorem timeouts_lose_nothing_iff {lines : List Bytes} {arrivals : List Arrival}
    (valid : ∀ line ∈ lines, PacketLine codec line) (brings : Brings arrivals lines) :
    (∀ goesOn, received codec deviceId goesOn (.new arrivals) =
        received codec deviceId goesOn (.new (withoutTimeouts arrivals))) ↔
      (remainders (timeoutMarks 0 arrivals) 0 lines).map (verdict codec) = lines.map (verdict codec) := by
  have closed : ∀ line ∈ lines, Lines.Closed newline line := fun line member => (valid line member).closed
  have cut := survivors_lines 0 lines closed brings.calm ((signalBytes_signals arrivals).trans brings.bytes)
  have smooth : survivors [] ((withoutTimeouts arrivals).flatMap Arrival.signals) = lines ++ [[]] := by
    rw [withoutTimeouts_signals, brings.bytes, survivors_flatten closed]
  rw [signalMarks_signals] at cut
  simp only [received_eq, BufReader.tape_new, cut, smooth, deliver_end]
  exact deliver_same_iff valid (Nat.le_of_eq (remainders_length _ _ _))

section Sample

def sampleText : String := "\x7b\"id\":1,\"type\":\"kdeconnect.ping\",\"body\":\x7b\x7d\x7d"

/-- `serde_json` on a ping packet and on the end of one. -/
def sampleCodec : JsonCodec where
  parse text :=
    if text = sampleText then .ok (.obj [("id", .num (.posInt 1)), ("type", .str "kdeconnect.ping"), ("body", .obj [])])
    else .error "invalid type: string \"type\", expected struct Packet at line 1 column 6"
  decodeErrorText _ _ := ""
  valueErrorText _ := ""
  utf8ErrorText _ := ""

def sampleLine : Bytes := (sampleText ++ "\n").toList.map fun c => UInt8.ofNat c.toNat

theorem sampleLine_valid : PacketLine sampleCodec sampleLine where
  closed := ⟨sampleLine.dropLast, by decide +kernel, by decide +kernel⟩
  fits := by decide +kernel
  visible := by decide +kernel
  decodes := by
    have decoded : (PacketSerializer.deserialize sampleCodec sampleLine).isOk = true := by decide +kernel
    cases result : PacketSerializer.deserialize sampleCodec sampleLine with
    | ok packet => exact ⟨packet, rfl⟩
    | error e =>
      rw [result] at decoded
      cases decoded

example : Lines.complete newline (sampleLine ++ sampleLine.take 8) = [sampleLine] := by decide +kernel

/-- The link is idle before the line and after it. -/
def idleArrivals : List Arrival :=
  [.interrupt .elapsed, .data ⟨sampleLine, by decide⟩, .interrupt .elapsed]

theorem timeouts_between_lines :
    (∀ line ∈ [sampleLine], PacketLine sampleCodec line) ∧ Brings idleArrivals [sampleLine] ∧
      ∀ goesOn, received sampleCodec "phone" goesOn (.new idleArrivals) =
        received sampleCodec "phone" goesOn (.new (withoutTimeouts idleArrivals)) := by
  have valid : ∀ line ∈ [sampleLine], PacketLine sampleCodec line := by simpa using sampleLine_valid
  have brings : Brings idleArrivals [sampleLine] := ⟨by decide +kernel, by simp [idleArrivals]⟩
  have whole : remainders (timeoutMarks 0 idleArrivals) 0 [sampleLine] = [sampleLine] := by decide +kernel
  refine ⟨valid, brings, (timeouts_lose_nothing_iff "phone" valid brings).mpr ?_⟩
  rw [whole]

/-- The line comes in two chunks and the timeout falls between them. -/
def sampleArrivals : List Arrival :=
  [.data ⟨sampleLine.take 8, by decide⟩, .interrupt .elapsed, .data ⟨sampleLine.drop 8, by decide⟩]

theorem timeout_drops_packet :
    (∀ line ∈ [sampleLine], PacketLine sampleCodec line) ∧ Brings sampleArrivals [sampleLine] ∧
      ¬∀ goesOn, received sampleCodec "phone" goesOn (.new sampleArrivals) =
        received sampleCodec "phone" goesOn (.new (withoutTimeouts sampleArrivals)) := by
  have kept : (received sampleCodec "phone" (fun _ => true) (.new (withoutTimeouts sampleArrivals))).length = 1 := by
    decide +kernel
  have dropped : (received sampleCodec "phone" (fun _ => true) (.new sampleArrivals)).length = 0 := by decide +kernel
  refine ⟨by simpa using sampleLine_valid, ⟨by decide +kernel, by simp [sampleArrivals]⟩, fun same => ?_⟩
  rw [same, kept] at dropped
  cases dropped

end Sample

end IdleTicks

end RustConnect
