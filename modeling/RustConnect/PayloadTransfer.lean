import RustConnect.Types

namespace RustConnect

namespace PayloadTransfer

/-- Times are in nanoseconds. -/
def secs (count : Nat) : Nat := count * 1000000000

def ioIdleTimeout : Nat := secs 120

def ioTotalTimeoutFloor : Nat := secs 3600

def transferFloorRateBytesPerSec : Nat := 64 * 1024

def totalDeadlineFor (payloadSize : UInt64) : Nat :=
  max ioTotalTimeoutFloor (secs (payloadSize.toNat / transferFloorRateBytesPerSec))

def bufferSize : Nat := 32 * 1024

/-- What a read comes to: at most that many bytes beyond the first have arrived, or it fails. -/
inductive ReadAnswer
  | arrived (more : Nat)
  | failed (message : String)

/-- What becomes of the write that is in flight: all of it is in the file, or only the beginning is. -/
inductive WriteAnswer
  | landed
  | failed (amount : Nat) (message : String)

/-- What the machine and the sender do in one round of the copy: how long it is
until the read begins, until it is answered, until the write begins and until
the write before that one is answered. -/
structure Round where
  beforeRead : Nat
  readTakes : Nat
  read : ReadAnswer
  beforeWrite : Nat
  writeTakes : Nat
  write : WriteAnswer

/-- `Take` over the stream of the sender. -/
structure Take where
  inner : Bytes
  limit : Nat

def Take.buffered (source : Take) : Nat := min bufferSize source.limit

def Take.advance (amount : Nat) (source : Take) : Take := ⟨source.inner.drop amount, source.limit - amount⟩

/-- `tokio::fs::File`: a write is handed to a thread, and the next operation waits for it and reports its failure. -/
structure OpenFile where
  contents : Bytes
  inFlight : Option Bytes

namespace OpenFile

def created : OpenFile := ⟨[], none⟩

def written (file : OpenFile) : Bytes := file.contents ++ file.inFlight.getD []

/-- What every operation does first, and all that `flush` does. -/
def flush (answer : WriteAnswer) (file : OpenFile) : Except String Unit × OpenFile :=
  match file.inFlight with
  | none => (.ok (), file)
  | some bytes =>
    match answer with
    | .landed => (.ok (), ⟨file.contents ++ bytes, none⟩)
    | .failed amount message => (.error message, ⟨file.contents ++ bytes.take amount, none⟩)

def writeAll (bytes : Bytes) (answer : WriteAnswer) (file : OpenFile) : Except String Unit × OpenFile :=
  match file.flush answer with
  | (.error message, file) => (.error message, file)
  | (.ok (), file) => (.ok (), { file with inFlight := some bytes })

/-- Nothing is waited for when no write is in flight. -/
def waits (round : Round) (file : OpenFile) : Nat := if file.inFlight.isNone then 0 else round.writeTakes

theorem flush_ok {file later : OpenFile} {answer : WriteAnswer} (done : file.flush answer = (.ok (), later)) :
    later.contents = file.written ∧ later.inFlight = none := by
  rcases file with ⟨contents, _ | bytes⟩
  · cases done
    exact ⟨(List.append_nil contents).symm, rfl⟩
  · cases answer with
    | landed =>
      cases done
      exact ⟨rfl, rfl⟩
    | failed amount message => cases done

theorem flush_written (file : OpenFile) (answer : WriteAnswer) : (file.flush answer).2.written <+: file.written := by
  rcases file with ⟨contents, _ | bytes⟩
  · exact List.prefix_rfl
  · cases answer with
    | landed =>
      show contents ++ bytes ++ [] <+: contents ++ bytes
      simp only [List.append_nil, List.prefix_rfl]
    | failed amount message =>
      show contents ++ bytes.take amount ++ [] <+: contents ++ bytes
      rw [List.append_nil]
      exact (List.prefix_append_right_inj contents).mpr (List.take_prefix amount bytes)

theorem writeAll_ok {file later : OpenFile} {bytes : Bytes} {answer : WriteAnswer}
    (done : file.writeAll bytes answer = (.ok (), later)) : later.written = file.written ++ bytes := by
  rw [writeAll] at done
  split at done
  · cases done
  · rename_i flushed settled
    cases done
    rw [written, (flush_ok settled).1]
    rfl

theorem writeAll_error {file later : OpenFile} {bytes : Bytes} {answer : WriteAnswer} {message : String}
    (failed : file.writeAll bytes answer = (.error message, later)) : later.written <+: file.written := by
  rw [writeAll] at failed
  split at failed
  · rename_i flushed settled
    cases failed
    have kept := flush_written file answer
    rwa [settled] at kept
  · cases failed

end OpenFile

/-- One read under the two deadlines, with the moment at which it ends; nothing
is asked of the stream once the limit is reached. -/
def readStep (operation : String) (idleTimeout deadline : Nat) (round : Round) (start : Nat) (source : Take) :
    Except Error Bytes × Nat :=
  let now := start + round.beforeRead
  if deadline - now = 0 then
    (.error (.connectionTimeout s!"Payload {operation} exceeded the total transfer deadline"), now)
  else if source.limit = 0 then
    (.ok [], now)
  else if min idleTimeout (deadline - now) < round.readTakes then
    (.error (.connectionTimeout s!"Timed out waiting for payload {operation}"), now + min idleTimeout (deadline - now))
  else
    match round.read with
    | .failed message => (.error (.io s!"Failed to read payload during {operation}: {message}"), now + round.readTakes)
    | .arrived more => (.ok (source.inner.take (min (more + 1) source.buffered)), now + round.readTakes)

/-- The write of what was read, with the file and the moment at which it ends. -/
def writeStep (operation : String) (idleTimeout deadline : Nat) (round : Round) (start : Nat) (bytes : Bytes)
    (file : OpenFile) : Except Error Unit × OpenFile × Nat :=
  let now := start + round.beforeWrite
  if deadline - now = 0 then
    (.error (.connectionTimeout s!"Payload {operation} exceeded the total transfer deadline"), file, now)
  else if min idleTimeout (deadline - now) < file.waits round then
    (.error (.connectionTimeout s!"Timed out writing payload during {operation}"), file,
      now + min idleTimeout (deadline - now))
  else
    match file.writeAll bytes round.write with
    | (.error message, file) =>
      (.error (.io s!"Failed to write payload during {operation}: {message}"), file, now + file.waits round)
    | (.ok (), later) => (.ok (), later, now + file.waits round)

theorem readStep_ok {operation : String} {idleTimeout deadline start : Nat} {round : Round} {source : Take} {bytes : Bytes}
    {later : Nat} (done : readStep operation idleTimeout deadline round start source = (.ok bytes, later)) :
    bytes = source.inner.take bytes.length ∧ bytes.length ≤ source.limit ∧
      (bytes = [] → source.inner.take source.limit = []) := by
  simp only [readStep] at done
  split_ifs at done with late exhausted elapsed
  · cases done
  · cases done
    refine ⟨rfl, Nat.zero_le _, fun _ => ?_⟩
    rw [exhausted, List.take_zero]
  · cases done
  · cases answer : round.read with
    | failed message => simp [answer] at done
    | arrived more =>
      simp only [answer, Prod.mk.injEq, Except.ok.injEq] at done
      obtain ⟨rfl, -⟩ := done
      have least : 0 < min (more + 1) source.buffered := by
        simp only [Take.buffered, bufferSize]
        omega
      refine ⟨?_, ?_, fun empty => ?_⟩
      · rw [List.length_take, ← List.take_eq_take_min]
      · simp only [List.length_take, Take.buffered]
        omega
      · rcases List.take_eq_nil_iff.mp empty with none | ended
        · omega
        · rw [ended, List.take_nil]

theorem writeStep_written {operation : String} {idleTimeout deadline start : Nat} {round : Round} {bytes : Bytes}
    {file : OpenFile} {answer : Except Error Unit} {later : OpenFile} {now : Nat}
    (ran : writeStep operation idleTimeout deadline round start bytes file = (answer, later, now)) :
    (answer = .ok () ∧ later.written = file.written ++ bytes) ∨
      ((∃ e, answer = .error e) ∧ later.written <+: file.written) := by
  simp only [writeStep] at ran
  split_ifs at ran
  · cases ran
    exact .inr ⟨⟨_, rfl⟩, List.prefix_rfl⟩
  · cases ran
    exact .inr ⟨⟨_, rfl⟩, List.prefix_rfl⟩
  · split at ran
    · rename_i flushed failed
      cases ran
      exact .inr ⟨⟨_, rfl⟩, OpenFile.writeAll_error failed⟩
    · rename_i flushed done
      cases ran
      exact .inl ⟨rfl, OpenFile.writeAll_ok done⟩

/-- `copy_with_idle_timeout` from its `count`-th round on, with the file when it returns. -/
def copyFrom (operation : String) (idleTimeout deadline : Nat) (rounds : Nat → Round) (count start : Nat) (source : Take)
    (file : OpenFile) (copied : Nat) : Except Error Nat × OpenFile :=
  match _answered : readStep operation idleTimeout deadline (rounds count) start source with
  | (.error e, _) => (.error e, file)
  | (.ok [], _) => (.ok copied, file)
  | (.ok (byte :: more), now) =>
    match writeStep operation idleTimeout deadline (rounds count) now (byte :: more) file with
    | (.error e, file, _) => (.error e, file)
    | (.ok (), file, now) =>
      copyFrom operation idleTimeout deadline rounds (count + 1) now (source.advance (byte :: more).length) file
        (copied + (byte :: more).length)
termination_by source.limit
decreasing_by
  have within := (readStep_ok _answered).2.1
  simp only [Take.advance, List.length_cons] at within ⊢
  omega

def copyWithIdleTimeout (operation : String) (idleTimeout totalTimeout : Nat) (rounds : Nat → Round) (source : Take)
    (file : OpenFile) : Except Error Nat × OpenFile :=
  copyFrom operation idleTimeout totalTimeout rounds 0 0 source file 0

/-- How a call that receives ends: what it returns, the file as it was when the
handle was dropped, and what is at the destination, nothing if it was removed. -/
structure Received where
  result : Except Error Nat
  file : OpenFile
  destination : Option Bytes

/-- The end of both ways to receive. -/
def flushReceived (answer : WriteAnswer) (copied : Nat) (file : OpenFile) : Received :=
  match file.flush answer with
  | (.error message, file) => ⟨.error (.io s!"Failed to flush received payload: {message}"), file, none⟩
  | (.ok (), file) => ⟨.ok copied, file, some file.written⟩

/-- `receive_into`: the sender's stream, the rounds of the copy and the answer to the flush are given. -/
def receiveInto (rounds : Nat → Round) (flushed : WriteAnswer) (stream : Bytes) (payloadSize : UInt64) : Received :=
  match copyWithIdleTimeout "receive" ioIdleTimeout (totalDeadlineFor payloadSize) rounds ⟨stream, payloadSize.toNat⟩
    .created with
  | (.error e, file) => ⟨.error e, file, none⟩
  | (.ok copied, file) =>
    if copied < payloadSize.toNat then
      ⟨.error (.connectionError
        s!"Payload truncated: expected {payloadSize.toNat} bytes, got {copied} — partial file deleted"), file, none⟩
    else flushReceived flushed copied file

def saturatingSucc (n : UInt64) : Nat := min (n.toNat + 1) (UInt64.size - 1)

def receiveIntoStreaming (rounds : Nat → Round) (flushed : WriteAnswer) (stream : Bytes) (maxBytes : UInt64) : Received :=
  match copyWithIdleTimeout "receive" ioIdleTimeout (totalDeadlineFor maxBytes) rounds ⟨stream, saturatingSucc maxBytes⟩
    .created with
  | (.error e, file) => ⟨.error e, file, none⟩
  | (.ok copied, file) =>
    if maxBytes.toNat < copied then
      ⟨.error (.connectionError
        s!"Endless-stream payload exceeded the {maxBytes.toNat} byte cap — partial file deleted"), file, none⟩
    else flushReceived flushed copied file

/-- What the copy has written when it returns: nothing but the stream up to the
limit, and all of that if it succeeds. -/
structure CopiedPrefix (before : Bytes) (source : Take) (copied : Nat) (run : Except Error Nat × OpenFile) : Prop where
  within : run.2.written <+: before ++ source.inner.take source.limit
  whole : ∀ n, run.1 = .ok n →
    run.2.written = before ++ source.inner.take source.limit ∧ n = copied + (source.inner.take source.limit).length

theorem take_advance {source : Take} {bytes : Bytes} (here : bytes = source.inner.take bytes.length)
    (fits : bytes.length ≤ source.limit) :
    source.inner.take source.limit = bytes ++ (source.advance bytes.length).inner.take (source.advance bytes.length).limit := by
  obtain ⟨rest, total⟩ := Nat.exists_eq_add_of_le fits
  have left : source.limit - bytes.length = rest := by omega
  show _ = bytes ++ (source.inner.drop bytes.length).take (source.limit - bytes.length)
  rw [left, total, List.take_add, ← here]

theorem copyFrom_prefix (operation : String) (idleTimeout deadline : Nat) (rounds : Nat → Round) (count start : Nat)
    (source : Take) (file : OpenFile) (copied : Nat) :
    CopiedPrefix file.written source copied (copyFrom operation idleTimeout deadline rounds count start source file copied) := by
  fun_induction copyFrom operation idleTimeout deadline rounds count start source file copied with
  | case1 => exact ⟨List.prefix_append _ _, nofun⟩
  | case2 count start source file copied now answered =>
    have ended : source.inner.take source.limit = [] := (readStep_ok answered).2.2 rfl
    refine ⟨List.prefix_append _ _, fun n returned => ?_⟩
    cases returned
    rw [ended]
    exact ⟨(List.append_nil _).symm, rfl⟩
  | case3 count start source file copied byte more now answered e later last failed =>
    refine ⟨?_, nofun⟩
    rcases writeStep_written failed with ⟨fine, -⟩ | ⟨-, kept⟩
    · cases fine
    · exact kept.trans (List.prefix_append _ _)
  | case4 count start source file copied byte more now answered later last done ih =>
    obtain ⟨here, fits, -⟩ := readStep_ok answered
    have split := take_advance here fits
    rcases writeStep_written done with ⟨-, appended⟩ | ⟨⟨e, failed⟩, -⟩
    · rw [appended] at ih
      refine ⟨?_, fun n returned => ?_⟩
      · rw [split, ← List.append_assoc]
        exact ih.within
      · obtain ⟨all, counted⟩ := ih.whole n returned
        rw [split, ← List.append_assoc, List.length_append, ← Nat.add_assoc]
        exact ⟨all, counted⟩
    · cases failed

/-- Either what was returned is at the destination, and that is the beginning of
the stream, or nothing is; and no more than the bound was ever written. -/
structure AllOrNothing (stream : Bytes) (bound : Nat) (run : Received) : Prop where
  all : ∀ n, run.result = .ok n → n ≤ stream.length ∧ run.destination = some (stream.take n)
  nothing : ∀ e, run.result = .error e → run.destination = none
  bounded : run.file.written.length ≤ bound

theorem copied_created {operation : String} {idleTimeout totalTimeout limit : Nat} {rounds : Nat → Round} {stream : Bytes}
    {result : Except Error Nat} {file : OpenFile}
    (ran : copyWithIdleTimeout operation idleTimeout totalTimeout rounds ⟨stream, limit⟩ .created = (result, file)) :
    file.written.length ≤ limit ∧ ∀ n, result = .ok n → file.written = stream.take n ∧ n = min limit stream.length := by
  have runs := copyFrom_prefix operation idleTimeout totalTimeout rounds 0 0 ⟨stream, limit⟩ .created 0
  rw [copyWithIdleTimeout] at ran
  rw [ran] at runs
  refine ⟨Nat.le_trans (List.IsPrefix.length_le runs.within) (List.length_take_le limit stream), fun n returned => ?_⟩
  obtain ⟨whole, counted⟩ := runs.whole n returned
  have amount : n = min limit stream.length := by rw [counted, Nat.zero_add, List.length_take]
  refine ⟨?_, amount⟩
  show file.written = stream.take n
  rw [whole, amount, ← List.take_eq_take_min]
  rfl

theorem flushReceived_all {answer : WriteAnswer} {copied bound : Nat} {file : OpenFile} {stream : Bytes}
    (fits : copied ≤ stream.length) (copies : file.written = stream.take copied) (bounded : file.written.length ≤ bound) :
    AllOrNothing stream bound (flushReceived answer copied file) ∧
      ∀ n, (flushReceived answer copied file).result = .ok n → n = copied := by
  have shorter := Nat.le_trans (List.IsPrefix.length_le (OpenFile.flush_written file answer)) bounded
  rw [flushReceived]
  split
  · rename_i message later failed
    rw [failed] at shorter
    exact ⟨⟨nofun, fun _ _ => rfl, shorter⟩, nofun⟩
  · rename_i later settled
    obtain ⟨contents, idle⟩ := OpenFile.flush_ok settled
    have same : later.written = stream.take copied := by
      rw [OpenFile.written, contents, idle, Option.getD_none, List.append_nil, copies]
    rw [settled] at shorter
    refine ⟨⟨fun n returned => ?_, nofun, shorter⟩, fun n returned => (Except.ok.inj returned).symm⟩
    obtain rfl := Except.ok.inj returned
    exact ⟨fits, congrArg some same⟩

theorem receiveInto_all (rounds : Nat → Round) (flushed : WriteAnswer) (stream : Bytes) (payloadSize : UInt64) :
    AllOrNothing stream payloadSize.toNat (receiveInto rounds flushed stream payloadSize) ∧
      ∀ n, (receiveInto rounds flushed stream payloadSize).result = .ok n → n = payloadSize.toNat := by
  rw [receiveInto]
  split
  · rename_i e file ran
    exact ⟨⟨nofun, fun _ _ => rfl, (copied_created ran).1⟩, nofun⟩
  · rename_i copied file ran
    obtain ⟨bounded, whole⟩ := copied_created ran
    obtain ⟨copies, amount⟩ := whole copied rfl
    have fits : copied ≤ stream.length := by omega
    split_ifs with truncated
    · exact ⟨⟨nofun, fun _ _ => rfl, bounded⟩, nofun⟩
    · obtain ⟨all, returns⟩ := flushReceived_all fits copies bounded
      refine ⟨all, fun n returned => ?_⟩
      have same := returns n returned
      omega

/-- A stream that is longer than what was received is possible only at the largest cap. -/
theorem receiveIntoStreaming_all (rounds : Nat → Round) (flushed : WriteAnswer) (stream : Bytes) (maxBytes : UInt64) :
    AllOrNothing stream (maxBytes.toNat + 1) (receiveIntoStreaming rounds flushed stream maxBytes) ∧
      ∀ n, (receiveIntoStreaming rounds flushed stream maxBytes).result = .ok n → n ≤ maxBytes.toNat ∧
        (n = stream.length ∨ n = maxBytes.toNat ∧ maxBytes.toNat + 1 = UInt64.size) := by
  have probe : saturatingSucc maxBytes = min (maxBytes.toNat + 1) (UInt64.size - 1) := rfl
  have cap : maxBytes.toNat < UInt64.size := maxBytes.toNat_lt
  have within : saturatingSucc maxBytes ≤ maxBytes.toNat + 1 := Nat.min_le_left _ _
  rw [receiveIntoStreaming]
  split
  · rename_i e file ran
    exact ⟨⟨nofun, fun _ _ => rfl, Nat.le_trans (copied_created ran).1 within⟩, nofun⟩
  · rename_i copied file ran
    obtain ⟨bounded, whole⟩ := copied_created ran
    obtain ⟨copies, amount⟩ := whole copied rfl
    have fits : copied ≤ stream.length := by omega
    split_ifs with beyond
    · exact ⟨⟨nofun, fun _ _ => rfl, Nat.le_trans bounded within⟩, nofun⟩
    · obtain ⟨all, returns⟩ := flushReceived_all fits copies (Nat.le_trans bounded within)
      refine ⟨all, fun n returned => ?_⟩
      have same := returns n returned
      omega

theorem payload_all_or_nothing (rounds : Nat → Round) (flushed : WriteAnswer) (stream : Bytes) (limit : UInt64) :
    (AllOrNothing stream limit.toNat (receiveInto rounds flushed stream limit) ∧
      ∀ n, (receiveInto rounds flushed stream limit).result = .ok n → n = limit.toNat) ∧
    (AllOrNothing stream (limit.toNat + 1) (receiveIntoStreaming rounds flushed stream limit) ∧
      ∀ n, (receiveIntoStreaming rounds flushed stream limit).result = .ok n → n ≤ limit.toNat ∧
        (n = stream.length ∨ n = limit.toNat ∧ limit.toNat + 1 = UInt64.size)) :=
  ⟨receiveInto_all rounds flushed stream limit, receiveIntoStreaming_all rounds flushed stream limit⟩

/-- A machine that answers at once and a sender whose bytes are there when they are asked for. -/
def promptly : Round := ⟨0, 0, .arrived bufferSize, 0, 0, .landed⟩

theorem waits_promptly (file : OpenFile) : file.waits promptly = 0 := by
  rw [OpenFile.waits]
  exact ite_self 0

theorem flush_landed (file : OpenFile) : ∃ later, file.flush .landed = (.ok (), later) := by
  rcases file with ⟨contents, _ | bytes⟩
  · exact ⟨_, rfl⟩
  · exact ⟨_, rfl⟩

theorem readStep_promptly {operation : String} {idleTimeout deadline : Nat} (time : 0 < deadline) (source : Take) :
    ∃ bytes, readStep operation idleTimeout deadline promptly 0 source = (.ok bytes, 0) := by
  have early : ¬ deadline - (0 + promptly.beforeRead) = 0 := by
    show ¬ deadline - 0 = 0
    omega
  have answered : ¬ min idleTimeout (deadline - (0 + promptly.beforeRead)) < promptly.readTakes := Nat.not_lt_zero _
  rw [readStep, if_neg early, if_neg answered]
  split_ifs
  · exact ⟨_, rfl⟩
  · exact ⟨_, rfl⟩

theorem writeStep_promptly {operation : String} {idleTimeout deadline : Nat} (time : 0 < deadline) (bytes : Bytes)
    (file : OpenFile) : ∃ later, writeStep operation idleTimeout deadline promptly 0 bytes file = (.ok (), later, 0) := by
  have early : ¬ deadline - (0 + promptly.beforeWrite) = 0 := by
    show ¬ deadline - 0 = 0
    omega
  have answered : ¬ min idleTimeout (deadline - (0 + promptly.beforeWrite)) < file.waits promptly := by
    rw [waits_promptly]
    exact Nat.not_lt_zero _
  have flushed : ∃ later, file.flush promptly.write = (.ok (), later) := flush_landed file
  obtain ⟨flushed, settled⟩ := flushed
  rw [writeStep, if_neg early, if_neg answered, OpenFile.writeAll, settled, waits_promptly]
  exact ⟨_, rfl⟩

/-- Without a failure and a delay the copy reaches its end. -/
theorem copyFrom_promptly {operation : String} {idleTimeout deadline : Nat} (time : 0 < deadline) {rounds : Nat → Round}
    (prompt : ∀ count, rounds count = promptly) (count start : Nat) (early : start = 0) (source : Take) (file : OpenFile)
    (copied : Nat) : ∃ n, (copyFrom operation idleTimeout deadline rounds count start source file copied).1 = .ok n := by
  have reads (source : Take) : ∃ bytes, readStep operation idleTimeout deadline promptly 0 source = (.ok bytes, 0) :=
    readStep_promptly time source
  have writes (bytes : Bytes) (file : OpenFile) :
      ∃ later, writeStep operation idleTimeout deadline promptly 0 bytes file = (.ok (), later, 0) :=
    writeStep_promptly time bytes file
  fun_induction copyFrom operation idleTimeout deadline rounds count start source file copied with
  | case1 count start source file copied e now failed =>
    subst early
    obtain ⟨bytes, read⟩ := reads source
    rw [prompt count, read] at failed
    cases failed
  | case2 count start source file copied => exact ⟨copied, rfl⟩
  | case3 count start source file copied byte more now answered e later last failed =>
    subst early
    obtain ⟨bytes, read⟩ := reads source
    obtain ⟨written, wrote⟩ := writes (byte :: more) file
    rw [prompt count, read] at answered
    cases answered
    rw [prompt count, wrote] at failed
    cases failed
  | case4 count start source file copied byte more now answered later last done ih =>
    subst early
    obtain ⟨bytes, read⟩ := reads source
    obtain ⟨written, wrote⟩ := writes (byte :: more) file
    rw [prompt count, read] at answered
    cases answered
    rw [prompt count, wrote] at done
    cases done
    exact ih rfl

theorem flushReceived_landed (copied : Nat) (file : OpenFile) : (flushReceived .landed copied file).result = .ok copied := by
  obtain ⟨later, settled⟩ := flush_landed file
  rw [flushReceived, settled]

theorem totalDeadlineFor_pos (payloadSize : UInt64) : 0 < totalDeadlineFor payloadSize :=
  Nat.lt_of_lt_of_le (by decide : 0 < ioTotalTimeoutFloor) (Nat.le_max_left _ _)

theorem copied_promptly {operation : String} {idleTimeout totalTimeout : Nat} (time : 0 < totalTimeout) (stream : Bytes)
    (limit : Nat) :
    ∃ file, copyWithIdleTimeout operation idleTimeout totalTimeout (fun _ => promptly) ⟨stream, limit⟩ .created =
      (.ok (min limit stream.length), file) := by
  have prompt (count : Nat) : (fun _ : Nat => promptly) count = promptly := rfl
  have returns : ∃ n, (copyWithIdleTimeout operation idleTimeout totalTimeout (fun _ => promptly) ⟨stream, limit⟩
      .created).1 = .ok n := copyFrom_promptly time prompt 0 0 rfl ⟨stream, limit⟩ .created 0
  rcases ran : copyWithIdleTimeout operation idleTimeout totalTimeout (fun _ => promptly) ⟨stream, limit⟩ .created with
    ⟨result, file⟩
  obtain ⟨n, returned⟩ := returns
  rw [ran] at returned
  obtain ⟨-, amount⟩ := (copied_created ran).2 n returned
  exact ⟨file, by rw [show result = .ok n from returned, amount]⟩

theorem received_copy (stream : Bytes) (declared : UInt64) (limit : Nat) :
    ∃ file, copyWithIdleTimeout "receive" ioIdleTimeout (totalDeadlineFor declared) (fun _ => promptly) ⟨stream, limit⟩
      .created = (.ok (min limit stream.length), file) :=
  copied_promptly (totalDeadlineFor_pos declared) stream limit

/-- A size that the sender keeps, and a stream that stays within the cap, are received. -/
theorem received_promptly (stream : Bytes) (limit : UInt64) :
    (limit.toNat ≤ stream.length → (receiveInto (fun _ => promptly) .landed stream limit).result = .ok limit.toNat) ∧
      (stream.length ≤ limit.toNat →
        (receiveIntoStreaming (fun _ => promptly) .landed stream limit).result = .ok stream.length) := by
  have receives := received_copy stream limit
  constructor
  · intro enough
    obtain ⟨file, copied⟩ := receives limit.toNat
    rw [receiveInto, copied, Nat.min_eq_left enough]
    show (if _ < _ then _ else _ : Received).result = _
    rw [if_neg (Nat.lt_irrefl _), flushReceived_landed]
  · intro short
    obtain ⟨file, copied⟩ := receives (saturatingSucc limit)
    have probe : saturatingSucc limit = min (limit.toNat + 1) (UInt64.size - 1) := rfl
    have cap : limit.toNat < UInt64.size := limit.toNat_lt
    rw [receiveIntoStreaming, copied, Nat.min_eq_right (by omega)]
    show (if _ < _ then _ else _ : Received).result = _
    rw [if_neg (Nat.not_lt.mpr short), flushReceived_landed]

/-- At the largest cap the byte after it is not looked for. -/
theorem received_beyond (stream : Bytes) {maxBytes : UInt64} (largest : maxBytes.toNat + 1 = UInt64.size)
    (longer : maxBytes.toNat < stream.length) :
    (receiveIntoStreaming (fun _ => promptly) .landed stream maxBytes).result = .ok maxBytes.toNat := by
  have probe : saturatingSucc maxBytes = maxBytes.toNat := by
    rw [saturatingSucc]
    omega
  obtain ⟨file, copied⟩ := received_copy stream maxBytes (saturatingSucc maxBytes)
  rw [receiveIntoStreaming, copied, probe, Nat.min_eq_left (Nat.le_of_lt longer)]
  show (if _ < _ then _ else _ : Received).result = _
  rw [if_neg (Nat.lt_irrefl _), flushReceived_landed]

/-- A stream of one byte more than the largest cap is cut off there and kept. -/
theorem cut_stream_received :
    ¬ ∀ (rounds : Nat → Round) (flushed : WriteAnswer) (stream : Bytes) (maxBytes : UInt64) (n : Nat),
      (receiveIntoStreaming rounds flushed stream maxBytes).result = .ok n → n = stream.length := by
  intro complete
  have largest : (18446744073709551615 : UInt64).toNat + 1 = UInt64.size := by decide
  have length : (List.replicate UInt64.size (0 : UInt8)).length = UInt64.size := List.length_replicate
  have returned := received_beyond (List.replicate UInt64.size 0) largest (by rw [length]; omega)
  have whole := complete _ _ _ _ _ returned
  rw [length] at whole
  omega

end PayloadTransfer

end RustConnect
