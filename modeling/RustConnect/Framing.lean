import RustConnect.LineRuns

namespace RustConnect

open Signal

variable {maxLen : Nat} {reader : BufReader} {bytes : Bytes}

theorem openAnswer_eof (line : Bytes) : (openAnswer maxLen line).1 = .eof ↔ line = [] ∨ maxLen < line.length := by
  unfold openAnswer
  split <;> simp_all

theorem closedAnswer_ne_eof (line : Bytes) : (closedAnswer maxLen line).1 ≠ .eof := by
  unfold closedAnswer
  split <;> simp

/-- A read of a stream that has not ended leaves less to read. -/
theorem readSteadyLine_shrinks (reader : BufReader) (maxLen : Nat) (more : reader.tape ≠ []) :
    (readSteadyLine reader [] maxLen).reader.tape.length < reader.tape.length := by
  obtain ⟨body, unbroken, tape | ⟨rest, tape⟩ | ⟨cause, rest, tape⟩⟩ := tape_cases reader.tape
  · obtain ⟨-, -, left⟩ := readSteadyLine_open maxLen unbroken tape
    rw [left]
    exact List.length_pos_iff.mpr more
  · obtain ⟨-, -, left⟩ := readSteadyLine_closed maxLen unbroken tape
    rw [left, tape, List.length_append, List.length_cons]
    omega
  · obtain ⟨-, left⟩ := readSteadyLine_interrupt maxLen unbroken tape
    rw [left, tape, List.length_append, List.length_cons]
    omega

theorem readSteadyLine_end (maxLen : Nat) (tape : reader.tape = []) :
    (readSteadyLine reader [] maxLen).answer = .ok .eof ∧ (readSteadyLine reader [] maxLen).reader.tape = [] := by
  obtain ⟨answer, -, left⟩ := readSteadyLine_open maxLen List.not_mem_nil tape
  rw [(openAnswer_eof []).mpr (.inl rfl)] at answer
  exact ⟨answer, left⟩

/-- Calling `read_steady_line` with an empty buffer again and again, until it reports the end. -/
def steadyCallsLoop (maxLen : Nat) : Loop (List (SteadyLine × Bytes) × BufReader) (List (SteadyLine × Bytes)) where
  pass s :=
    match readSteadyLine s.2 [] maxLen with
    | ⟨.ok .eof, _, _⟩ => .inr s.1
    | ⟨.error _, _, _⟩ => .inr s.1
    | ⟨.ok answer, buf, reader⟩ => .inl (s.1 ++ [(answer, buf)], reader)
  size s := s.2.tape.length
  shrinks s t again := by
    split at again
    · cases again
    · cases again
    · rename_i answer buf reader noEof called
      cases again
      have more : s.2.tape ≠ [] := by
        intro ended
        have answered := (readSteadyLine_end maxLen ended).1
        rw [called] at answered
        simp_all
      have shorter := readSteadyLine_shrinks s.2 maxLen more
      simpa [called] using shorter

def steadyCalls (maxLen : Nat) (reader : BufReader) : List (SteadyLine × Bytes) :=
  (steadyCallsLoop maxLen).result ([], reader)

/-- As many calls of `read_line_bounded` with an empty buffer, and where they leave the stream. -/
def boundedCalls (maxLen : Nat) : Nat → BufReader → List (Except Interrupt Nat × Bytes) × BufReader
  | 0, reader => ([], reader)
  | k + 1, reader =>
    let first := readLineBounded reader [] maxLen
    let rest := boundedCalls maxLen k first.reader
    ((first.answer, first.buf) :: rest.1, rest.2)

/-- What the steady reader still reports of a rest that no newline closes. -/
def openAnswers (maxLen : Nat) (line : Bytes) : List (SteadyLine × Bytes) :=
  if line = [] ∨ maxLen < line.length then [] else [(.line line.length, line)]

theorem steadyCalls_ends (got : List (SteadyLine × Bytes)) (answer : (readSteadyLine reader [] maxLen).answer = .ok .eof) :
    (steadyCallsLoop maxLen).result (got, reader) = got := by
  refine Loop.result_ended ?_
  simp only [steadyCallsLoop]
  split <;> simp_all

theorem steadyCalls_goes_on (got : List (SteadyLine × Bytes)) {answer : SteadyLine} (more : answer ≠ .eof)
    (called : (readSteadyLine reader [] maxLen).answer = .ok answer) :
    (steadyCallsLoop maxLen).result (got, reader) = (steadyCallsLoop maxLen).result
      (got ++ [(answer, (readSteadyLine reader [] maxLen).buf)], (readSteadyLine reader [] maxLen).reader) := by
  refine Loop.result_again ?_
  simp only [steadyCallsLoop]
  split <;> simp_all

theorem steadyCalls_eq (maxLen : Nat) (got : List (SteadyLine × Bytes)) (tape : reader.tape = bytes.map byte) :
    (steadyCallsLoop maxLen).result (got, reader) =
      got ++ (Lines.complete newline bytes).map (closedAnswer maxLen) ++ openAnswers maxLen (Lines.unfinished newline bytes) := by
  induction bound : bytes.length using Nat.strongRecOn generalizing bytes reader got with
  | ind n ih =>
    rcases Lines.broken_or_open newline bytes with unbroken | ⟨body, rest, rfl, unbroken⟩
    · obtain ⟨answer, buf, left⟩ := readSteadyLine_open maxLen unbroken tape
      rw [Lines.complete_open unbroken, Lines.unfinished_open unbroken]
      by_cases ends : bytes = [] ∨ maxLen < bytes.length
      · rw [(openAnswer_eof bytes).mpr ends] at answer
        rw [steadyCalls_ends got answer]
        simp [openAnswers, ends]
      · have more := mt (openAnswer_eof bytes).mp ends
        rw [steadyCalls_goes_on got more answer, steadyCalls_ends _ (readSteadyLine_end maxLen left).1, buf]
        simp [openAnswers, openAnswer, ends]
    · have cut : reader.tape = body.map byte ++ byte newline :: rest.map byte := by simpa using tape
      obtain ⟨answer, buf, left⟩ := readSteadyLine_closed maxLen unbroken cut
      rw [steadyCalls_goes_on got (closedAnswer_ne_eof _) answer, buf, ih _ (by rw [← bound]; simp; omega) _ left rfl,
        Lines.complete_closed unbroken, Lines.unfinished_closed unbroken]
      simp

/-- The line that a reader standing after the first `k` lines reads next. -/
def nextLine (bytes : Bytes) (k : Nat) : Bytes :=
  ((Lines.complete newline bytes).drop k).headD (Lines.unfinished newline bytes)

/-- `read_line_bounded` returns the line when it is within the cap, and fails otherwise. -/
structure ReadsBounded (reader : BufReader) (maxLen : Nat) (line : Bytes) : Prop where
  within : line.length ≤ maxLen → (readLineBounded reader [] maxLen).answer = .ok line.length ∧
    (readLineBounded reader [] maxLen).buf = line
  beyond : maxLen < line.length →
    ∃ size, maxLen < size ∧ (readLineBounded reader [] maxLen).answer = .error (.failed (.packetTooLarge size maxLen))

theorem ReadsBounded.tooLarge_iff {line : Bytes} (reads : ReadsBounded reader maxLen line) :
    (∃ size, (readLineBounded reader [] maxLen).answer = .error (.failed (.packetTooLarge size maxLen))) ↔
      maxLen < line.length := by
  refine ⟨fun ⟨size, failed⟩ => ?_, fun tooLong => ?_⟩
  · rcases Nat.lt_or_ge maxLen line.length with tooLong | fits
    · exact tooLong
    · rw [(reads.within fits).1] at failed
      cases failed
  · obtain ⟨size, -, failed⟩ := reads.beyond tooLong
    exact ⟨size, failed⟩

theorem readsBounded_next (maxLen : Nat) (tape : reader.tape = bytes.map byte) :
    ReadsBounded reader maxLen (nextLine bytes 0) := by
  rcases Lines.broken_or_open newline bytes with unbroken | ⟨body, rest, rfl, unbroken⟩
  · have line : nextLine bytes 0 = bytes := by
      simp [nextLine, Lines.complete_open unbroken, Lines.unfinished_open unbroken]
    rw [line]
    refine ⟨fun fits => ?_, fun tooLong => ?_⟩
    · obtain ⟨answer, buf, -⟩ := readLineBounded_open maxLen unbroken tape fits
      exact ⟨answer, buf⟩
    · have cut : reader.tape = bytes.map byte ++ [] := by simpa using tape
      exact readLineBounded_too_long unbroken cut (.inl tooLong)
  · have cut : reader.tape = body.map byte ++ byte newline :: rest.map byte := by simpa using tape
    have line : nextLine (body ++ newline :: rest) 0 = body ++ [newline] := by
      simp [nextLine, Lines.complete_closed unbroken]
    rw [line]
    refine ⟨fun fits => ?_, fun tooLong => ?_⟩
    · obtain ⟨answer, buf, -⟩ := readLineBounded_closed maxLen unbroken cut fits
      exact ⟨answer, buf⟩
    · rw [List.length_append] at tooLong
      exact readLineBounded_too_long unbroken cut (.inr ⟨Nat.lt_succ_iff.mp tooLong, _, rfl⟩)

/-- As long as the lines are within the cap, the bounded reader returns them one by one. -/
theorem boundedCalls_eq (maxLen k : Nat) (tape : reader.tape = bytes.map byte)
    (enough : k ≤ (Lines.complete newline bytes).length)
    (fits : ∀ line ∈ (Lines.complete newline bytes).take k, line.length ≤ maxLen) :
    (boundedCalls maxLen k reader).1 = ((Lines.complete newline bytes).take k).map (fun line => (.ok line.length, line)) ∧
      ∃ rest, (boundedCalls maxLen k reader).2.tape = rest.map byte ∧ nextLine rest 0 = nextLine bytes k := by
  induction k generalizing reader bytes with
  | zero => exact ⟨rfl, bytes, tape, rfl⟩
  | succ k ih =>
    rcases Lines.broken_or_open newline bytes with unbroken | ⟨body, rest, rfl, unbroken⟩
    · rw [Lines.complete_open unbroken] at enough
      simp at enough
    · have cut : reader.tape = body.map byte ++ byte newline :: rest.map byte := by simpa using tape
      rw [Lines.complete_closed unbroken] at enough fits
      have short := fits (body ++ [newline]) (by simp)
      obtain ⟨answer, buf, left⟩ := readLineBounded_closed maxLen unbroken cut short
      obtain ⟨calls, last, lastTape, next⟩ := ih left (by simpa using enough) fun line member => fits line (by simp [member])
      rw [Lines.complete_closed unbroken]
      refine ⟨?_, last, lastTape, ?_⟩
      · simp [boundedCalls, answer, buf, calls]
      · rw [next, nextLine, nextLine, Lines.complete_closed unbroken, Lines.unfinished_closed unbroken]
        simp

/-- The stream whose bytes come in the given chunks. -/
def chunkReader (chunks : List Chunk) : BufReader := .new (chunks.map .data)

theorem chunkReader_tape (chunks : List Chunk) : (chunkReader chunks).tape = (chunks.flatMap Chunk.bytes).map byte := by
  induction chunks with
  | nil => rfl
  | cons chunk chunks ih =>
    rw [chunkReader, BufReader.tape_new] at ih ⊢
    simp [Arrival.signals, ih]

/-- The framing does not depend on the chunks. Repeated steady reads give the
lines of the stream in order and what is left at its end, with a line over the
cap skipped, and hold no more than the cap; the bounded reader gives the same
lines as long as they are within the cap and fails on the first that is not. -/
theorem framing_ignores_chunks (maxLen : Nat) (chunks : List Chunk) :
    let bytes := chunks.flatMap Chunk.bytes
    let lines := Lines.complete newline bytes
    steadyCalls maxLen (chunkReader chunks) =
        lines.map (closedAnswer maxLen) ++ openAnswers maxLen (Lines.unfinished newline bytes) ∧
      (∀ reader s, (steadyLoop 0 maxLen).Visits ⟨[], false, reader⟩ s → s.buf.length ≤ maxLen) ∧
      (∀ reader, (readSteadyLine reader [] maxLen).buf.length ≤ maxLen) ∧
      ∀ k ≤ lines.length, (∀ line ∈ lines.take k, line.length ≤ maxLen) →
        (boundedCalls maxLen k (chunkReader chunks)).1 = (lines.take k).map (fun line => (.ok line.length, line)) ∧
        ((nextLine bytes k).length ≤ maxLen →
          (readLineBounded (boundedCalls maxLen k (chunkReader chunks)).2 [] maxLen).answer = .ok (nextLine bytes k).length ∧
          (readLineBounded (boundedCalls maxLen k (chunkReader chunks)).2 [] maxLen).buf = nextLine bytes k) ∧
        ((∃ size, (readLineBounded (boundedCalls maxLen k (chunkReader chunks)).2 [] maxLen).answer =
          .error (.failed (.packetTooLarge size maxLen))) ↔ maxLen < (nextLine bytes k).length) := by
  intro bytes lines
  have tape := chunkReader_tape chunks
  refine ⟨?_, fun reader s visits => ?_, fun reader => readSteadyLine_buf reader maxLen, fun k enough fits => ?_⟩
  · exact steadyCalls_eq maxLen [] tape
  · exact steadyLoop_visits_buf visits (Nat.zero_le _)
  · obtain ⟨calls, rest, restTape, next⟩ := boundedCalls_eq maxLen k tape enough fits
    have reads := readsBounded_next maxLen restTape
    rw [next] at reads
    exact ⟨calls, reads.within, reads.tooLarge_iff⟩

end RustConnect
