import RustConnect.LineReaders

namespace RustConnect

open Signal

variable {maxLen : Nat} {reader after : BufReader} {seen body available : Bytes}

/-- What `read_steady_line` makes of a line that has come to its newline. -/
def closedAnswer (maxLen : Nat) (line : Bytes) : SteadyLine × Bytes :=
  if line.length ≤ maxLen then (.line line.length, line) else (.oversizeSkipped, [])

/-- What it makes of a line that the end of the stream has left open. -/
def openAnswer (maxLen : Nat) (line : Bytes) : SteadyLine × Bytes :=
  if line = [] ∨ maxLen < line.length then (.eof, []) else (.line line.length, line)

/-- `read_steady_line` byte by byte: what it answers and what it leaves to be
read, when it has already seen the beginning of a line. -/
def steadyTape (maxLen : Nat) (seen : Bytes) : List Signal → Except Interrupt (SteadyLine × Bytes) × List Signal
  | [] => (.ok (openAnswer maxLen seen), [])
  | .interrupt cause :: rest => (.error cause, rest)
  | .byte b :: rest =>
    if b = newline then (.ok (closedAnswer maxLen (seen ++ [b])), rest) else steadyTape maxLen (seen ++ [b]) rest

/-- `read_line_bounded` byte by byte; of a line that is too long it leaves nothing said. -/
def boundedTape (maxLen : Nat) (seen : Bytes) : List Signal → Option (Except Interrupt Bytes × List Signal)
  | [] => if seen.length ≤ maxLen then some (.ok seen, []) else none
  | .interrupt cause :: rest => if seen.length ≤ maxLen then some (.error cause, rest) else none
  | .byte b :: rest =>
    if b = newline then if seen.length + 1 ≤ maxLen then some (.ok (seen ++ [b]), rest) else none
    else boundedTape maxLen (seen ++ [b]) rest

theorem steadyTape_open (unbroken : newline ∉ body) (rest : List Signal) :
    steadyTape maxLen seen (body.map byte ++ rest) = steadyTape maxLen (seen ++ body) rest := by
  induction body generalizing seen with
  | nil => simp
  | cons b body ih =>
    obtain ⟨other, later⟩ := not_or.mp (List.mem_cons.not.mp unbroken)
    simp [steadyTape, Ne.symm other, ih later]

theorem boundedTape_open (unbroken : newline ∉ body) (rest : List Signal) :
    boundedTape maxLen seen (body.map byte ++ rest) = boundedTape maxLen (seen ++ body) rest := by
  induction body generalizing seen with
  | nil => simp
  | cons b body ih =>
    obtain ⟨other, later⟩ := not_or.mp (List.mem_cons.not.mp unbroken)
    simp [boundedTape, Ne.symm other, ih later]

theorem boundedTape_too_long (long : maxLen < seen.length) (tape : List Signal) : boundedTape maxLen seen tape = none := by
  induction tape generalizing seen with
  | nil => simp [boundedTape, Nat.not_le.mpr long]
  | cons signal rest ih =>
    cases signal with
    | interrupt cause => simp [boundedTape, Nat.not_le.mpr long]
    | byte b =>
      have longer : boundedTape maxLen (seen ++ [b]) rest = none := ih (by simp; omega)
      simp only [boundedTape, longer]
      split
      · exact if_neg (by omega)
      · rfl

/-- The state of `read_steady_line` after the beginning of a line, told from that beginning alone. -/
def SteadyRead.mid (maxLen : Nat) (seen : Bytes) (reader : BufReader) : SteadyRead :=
  if seen.length ≤ maxLen then ⟨seen, false, reader⟩ else ⟨[], true, reader⟩

/-- A filled buffer that has no newline joins the line; one that has gives the line up to it. -/
theorem available_cases (filled : reader.fillBuf = (.ok available, after)) (nonempty : available ≠ []) :
    (newline ∉ available ∧ reader.tape = available.map byte ++ (after.consume (lineTake available)).tape) ∨
    ∃ body rest, available = body ++ newline :: rest ∧ newline ∉ body ∧
      reader.tape = body.map byte ++ byte newline :: (after.consume (lineTake available)).tape := by
  rcases reader.fillBuf_cases with ⟨-, empty⟩ | ⟨cause, end_, interrupted, -⟩ | ⟨first, more, after', here, held, same⟩
  · rw [empty] at filled
    cases filled
    exact absurd rfl nonempty
  · rw [interrupted] at filled
    cases filled
  · rw [here] at filled
    cases filled
    have split := after.tape_consume (lineTake (first :: more))
    rw [same, held] at split
    rcases Lines.broken_or_open newline (first :: more) with unbroken | ⟨body, rest, cut, unbroken⟩
    · refine .inl ⟨unbroken, ?_⟩
      rw [split, lineTake_open unbroken, List.take_length]
    · refine .inr ⟨body, rest, cut, unbroken, ?_⟩
      have taken : (first :: more).take (lineTake (first :: more)) = body ++ [newline] := by
        rw [cut, take_lineTake unbroken]
      rw [split, taken]
      simp

section Steady

theorem SteadyRead.mid_short (fits : seen.length ≤ maxLen) : SteadyRead.mid maxLen seen reader = ⟨seen, false, reader⟩ :=
  if_pos fits

theorem SteadyRead.mid_long (long : maxLen < seen.length) : SteadyRead.mid maxLen seen reader = ⟨[], true, reader⟩ :=
  if_neg (Nat.not_le.mpr long)

theorem closedAnswer_short (fits : body.length ≤ maxLen) : closedAnswer maxLen body = (.line body.length, body) :=
  if_pos fits

theorem closedAnswer_long (long : maxLen < body.length) : closedAnswer maxLen body = (.oversizeSkipped, []) :=
  if_neg (Nat.not_le.mpr long)

theorem steadyPass_interrupt {cause : Interrupt} (s : SteadyRead) (filled : s.reader.fillBuf = (.error cause, after)) :
    steadyPass 0 maxLen s = .inr ⟨.error cause, s.buf, after⟩ := by
  simp [steadyPass, filled]

theorem steadyPass_eof (filled : reader.fillBuf = (.ok [], after)) :
    steadyPass 0 maxLen (.mid maxLen seen reader) =
      .inr ⟨.ok (openAnswer maxLen seen).1, (openAnswer maxLen seen).2, after⟩ := by
  rcases Nat.lt_or_ge maxLen seen.length with long | fits
  · rw [SteadyRead.mid_long long, openAnswer, if_pos (.inr long)]
    simp [steadyPass, filled]
  · rw [SteadyRead.mid_short fits]
    cases seen with
    | nil => simp [steadyPass, filled, openAnswer]
    | cons b seen =>
      have neither : ¬(b :: seen = [] ∨ maxLen < (b :: seen).length) := by simp at fits ⊢; omega
      rw [openAnswer, if_neg neither]
      simp [steadyPass, filled]

theorem steadyPass_open (filled : reader.fillBuf = (.ok available, after)) (nonempty : available ≠ [])
    (unbroken : newline ∉ available) :
    steadyPass 0 maxLen (.mid maxLen seen reader) =
      .inl (.mid maxLen (seen ++ available) (after.consume (lineTake available))) := by
  have absent := newlineAt_open unbroken
  have whole := lineTake_open unbroken
  have length : (seen ++ available).length = seen.length + available.length := List.length_append
  rcases Nat.lt_or_ge maxLen seen.length with long | fits
  · rw [SteadyRead.mid_long long, SteadyRead.mid_long (by omega)]
    simp [steadyPass, filled, absent]
  · rw [SteadyRead.mid_short fits]
    rcases Nat.lt_or_ge maxLen (seen ++ available).length with long | still
    · rw [SteadyRead.mid_long long]
      rw [length] at long
      simp [steadyPass, filled, absent, whole, long]
    · rw [SteadyRead.mid_short still]
      rw [length] at still
      simp [steadyPass, filled, absent, whole, Nat.not_lt.mpr still]

theorem steadyPass_closed {rest : Bytes} (filled : reader.fillBuf = (.ok (body ++ newline :: rest), after))
    (unbroken : newline ∉ body) :
    steadyPass 0 maxLen (.mid maxLen seen reader) =
      .inr ⟨.ok (closedAnswer maxLen (seen ++ body ++ [newline])).1, (closedAnswer maxLen (seen ++ body ++ [newline])).2,
        after.consume (lineTake (body ++ newline :: rest))⟩ := by
  have found := newlineAt_closed unbroken rest
  have upTo := lineTake_closed unbroken rest
  have length : (seen ++ body ++ [newline]).length = seen.length + (body.length + 1) := by simp
  have taken := take_lineTake unbroken rest
  rcases Nat.lt_or_ge maxLen seen.length with long | fits
  · rw [SteadyRead.mid_long long, closedAnswer_long (by omega)]
    simp [steadyPass, filled, found]
  · rw [SteadyRead.mid_short fits]
    rcases Nat.lt_or_ge maxLen (seen ++ body ++ [newline]).length with long | still
    · rw [closedAnswer_long long]
      rw [length] at long
      simp [steadyPass, filled, found, upTo, long]
    · rw [closedAnswer_short still]
      rw [length] at still
      rw [upTo] at taken
      simp [steadyPass, filled, found, upTo, taken, Nat.not_lt.mpr still]

/-- However the line is cut into chunks, the loop answers as the byte by byte reader does. -/
theorem steadyLoop_result (maxLen : Nat) (seen : Bytes) (reader : BufReader) :
    let result := (steadyLoop 0 maxLen).result (.mid maxLen seen reader)
    (∀ cause, (steadyTape maxLen seen reader.tape).1 = .error cause → result.answer = .error cause) ∧
    (∀ value, (steadyTape maxLen seen reader.tape).1 = .ok value → result.answer = .ok value.1 ∧ result.buf = value.2) ∧
    result.reader.tape = (steadyTape maxLen seen reader.tape).2 := by
  induction bound : reader.tape.length using Nat.strongRecOn generalizing seen reader with
  | ind n ih =>
    rcases reader.fillBuf_cases with ⟨tape, filled⟩ | ⟨cause, after, filled, tape⟩ | ⟨first, more, after, filled, -, -⟩
    · rw [Loop.result_ended (steadyPass_eof filled), tape]
      simp [steadyTape, tape]
    · have reading : (SteadyRead.mid maxLen seen reader).reader.fillBuf = (.error cause, after) := by
        rw [← filled]
        unfold SteadyRead.mid
        split <;> rfl
      rw [Loop.result_ended (steadyPass_interrupt _ reading), tape]
      simp [steadyTape]
    · rcases available_cases filled (by simp) with ⟨unbroken, tape⟩ | ⟨body, rest, cut, unbroken, tape⟩
      · have shorter := consume_lineTake_shrinks filled
        have later := ih _ (bound ▸ shorter) (seen ++ first :: more) (after.consume (lineTake (first :: more))) rfl
        rw [Loop.result_again (steadyPass_open filled (by simp) unbroken), tape, steadyTape_open unbroken]
        exact later
      · rw [cut] at filled
        rw [Loop.result_ended (steadyPass_closed filled unbroken), tape, steadyTape_open unbroken, cut]
        simp [steadyTape]

/-- A line reader called with an empty buffer on what is still to be read. -/
theorem readSteadyLine_tape (reader : BufReader) (maxLen : Nat) :
    (∀ cause, (steadyTape maxLen [] reader.tape).1 = .error cause → (readSteadyLine reader [] maxLen).answer = .error cause) ∧
    (∀ value, (steadyTape maxLen [] reader.tape).1 = .ok value →
      (readSteadyLine reader [] maxLen).answer = .ok value.1 ∧ (readSteadyLine reader [] maxLen).buf = value.2) ∧
    (readSteadyLine reader [] maxLen).reader.tape = (steadyTape maxLen [] reader.tape).2 := by
  have start : SteadyRead.mid maxLen [] reader = ⟨[], false, reader⟩ := SteadyRead.mid_short (Nat.zero_le _)
  have result := steadyLoop_result maxLen [] reader
  rwa [start] at result

theorem readSteadyLine_closed (maxLen : Nat) {rest : List Signal} (unbroken : newline ∉ body)
    (tape : reader.tape = body.map byte ++ byte newline :: rest) :
    (readSteadyLine reader [] maxLen).answer = .ok (closedAnswer maxLen (body ++ [newline])).1 ∧
      (readSteadyLine reader [] maxLen).buf = (closedAnswer maxLen (body ++ [newline])).2 ∧
      (readSteadyLine reader [] maxLen).reader.tape = rest := by
  obtain ⟨-, answered, left⟩ := readSteadyLine_tape reader maxLen
  have read : steadyTape maxLen [] reader.tape = (.ok (closedAnswer maxLen (body ++ [newline])), rest) := by
    rw [tape, steadyTape_open unbroken]
    simp [steadyTape]
  rw [read] at answered left
  obtain ⟨answer, buf⟩ := answered _ rfl
  exact ⟨answer, buf, left⟩

theorem readSteadyLine_open (maxLen : Nat) (unbroken : newline ∉ body) (tape : reader.tape = body.map byte) :
    (readSteadyLine reader [] maxLen).answer = .ok (openAnswer maxLen body).1 ∧
      (readSteadyLine reader [] maxLen).buf = (openAnswer maxLen body).2 ∧
      (readSteadyLine reader [] maxLen).reader.tape = [] := by
  obtain ⟨-, answered, left⟩ := readSteadyLine_tape reader maxLen
  have read : steadyTape maxLen [] reader.tape = (.ok (openAnswer maxLen body), []) := by
    rw [tape, ← List.append_nil (body.map byte), steadyTape_open unbroken]
    simp [steadyTape]
  rw [read] at answered left
  obtain ⟨answer, buf⟩ := answered _ rfl
  exact ⟨answer, buf, left⟩

theorem readSteadyLine_interrupt (maxLen : Nat) {cause : Interrupt} {rest : List Signal} (unbroken : newline ∉ body)
    (tape : reader.tape = body.map byte ++ interrupt cause :: rest) :
    (readSteadyLine reader [] maxLen).answer = .error cause ∧ (readSteadyLine reader [] maxLen).reader.tape = rest := by
  obtain ⟨interrupted, -, left⟩ := readSteadyLine_tape reader maxLen
  have read : steadyTape maxLen [] reader.tape = (.error cause, rest) := by
    rw [tape, steadyTape_open unbroken]
    simp [steadyTape]
  rw [read] at interrupted left
  exact ⟨interrupted _ rfl, left⟩

/-- Whatever is to be read begins with a line, and the line is closed, cut off or left open. -/
theorem tape_cases (tape : List Signal) :
    ∃ body : Bytes, newline ∉ body ∧ (tape = body.map byte ∨ (∃ rest, tape = body.map byte ++ byte newline :: rest) ∨
      ∃ cause rest, tape = body.map byte ++ interrupt cause :: rest) := by
  induction tape with
  | nil => exact ⟨[], by simp, .inl rfl⟩
  | cons signal rest ih =>
    cases signal with
    | interrupt cause => exact ⟨[], by simp, .inr (.inr ⟨cause, rest, rfl⟩)⟩
    | byte b =>
      by_cases stop : b = newline
      · exact ⟨[], by simp, .inr (.inl ⟨rest, by simp [stop]⟩)⟩
      · obtain ⟨body, unbroken, cases⟩ := ih
        refine ⟨b :: body, by simp [Ne.symm stop, unbroken], ?_⟩
        simpa using cases

/-- While a line is read, no more of it is kept than the cap allows. -/
theorem steadyPass_buf (s : SteadyRead) (bound : s.buf.length ≤ maxLen) :
    ((steadyPass 0 maxLen s).elim SteadyRead.buf LineResult.buf).length ≤ maxLen := by
  unfold steadyPass
  split
  · exact bound
  · exact bound
  · rename_i available reader _ _
    split
    · split <;> exact bound
    · split
      · split <;> simp
      · rename_i fits
        have room : (s.buf ++ available.take (lineTake available)).length ≤ maxLen := by
          simp only [List.length_append, List.length_take]
          omega
        split <;> exact room

theorem steadyLoop_visits_buf {s t : SteadyRead} (visits : (steadyLoop 0 maxLen).Visits s t) (bound : s.buf.length ≤ maxLen) :
    t.buf.length ≤ maxLen := by
  refine visits.invariant (I := fun s => s.buf.length ≤ maxLen) (fun s t again bound => ?_) bound
  have kept := steadyPass_buf s bound
  rwa [show steadyPass 0 maxLen s = .inl t from again] at kept

theorem readSteadyLine_buf (reader : BufReader) (maxLen : Nat) : (readSteadyLine reader [] maxLen).buf.length ≤ maxLen := by
  refine Loop.result_rule (P := fun (s : SteadyRead) (value : LineResult SteadyLine) => s.buf.length ≤ maxLen → value.buf.length ≤ maxLen) (fun s value ended bound => ?_)
    (fun s t again kept bound => ?_) ⟨[], false, reader⟩ (Nat.zero_le _)
  · have kept := steadyPass_buf s bound
    rwa [show steadyPass 0 maxLen s = .inr value from ended] at kept
  · have bounded := steadyPass_buf s bound
    rw [show steadyPass 0 maxLen s = .inl t from again] at bounded
    exact kept bounded

end Steady

section Bounded

theorem boundedPass_interrupt {cause : Interrupt} (filled : reader.fillBuf = (.error cause, after)) :
    boundedPass 0 maxLen ⟨seen, reader⟩ = .inr ⟨.error cause, seen, after⟩ := by
  simp [boundedPass, filled]

theorem boundedPass_eof (filled : reader.fillBuf = (.ok [], after)) :
    boundedPass 0 maxLen ⟨seen, reader⟩ = .inr ⟨.ok seen.length, seen, after⟩ := by
  simp [boundedPass, filled]

theorem boundedPass_too_long (filled : reader.fillBuf = (.ok available, after)) (nonempty : available ≠ [])
    (long : maxLen < seen.length + lineTake available) :
    boundedPass 0 maxLen ⟨seen, reader⟩ =
      .inr ⟨.error (.failed (.packetTooLarge (seen.length + lineTake available) maxLen)), seen, after⟩ := by
  simp [boundedPass, filled, long]

theorem boundedPass_open (filled : reader.fillBuf = (.ok available, after)) (nonempty : available ≠ [])
    (unbroken : newline ∉ available) (fits : seen.length + lineTake available ≤ maxLen) :
    boundedPass 0 maxLen ⟨seen, reader⟩ = .inl ⟨seen ++ available, after.consume (lineTake available)⟩ := by
  have taken : available.take (lineTake available) = available := by rw [lineTake_open unbroken, List.take_length]
  simp [boundedPass, filled, newlineAt_open unbroken, Nat.not_lt.mpr fits, taken]

theorem boundedPass_closed {rest : Bytes} (filled : reader.fillBuf = (.ok (body ++ newline :: rest), after))
    (unbroken : newline ∉ body) (fits : seen.length + lineTake (body ++ newline :: rest) ≤ maxLen) :
    boundedPass 0 maxLen ⟨seen, reader⟩ =
      .inr ⟨.ok (seen ++ body ++ [newline]).length, seen ++ body ++ [newline],
        after.consume (lineTake (body ++ newline :: rest))⟩ := by
  simp [boundedPass, filled, newlineAt_closed unbroken, Nat.not_lt.mpr fits, take_lineTake unbroken]

/-- However the line is cut into chunks, the loop answers as the byte by byte
reader does, and where that one says nothing the line is too long. -/
theorem boundedLoop_result (maxLen : Nat) (seen : Bytes) (reader : BufReader) (fits : seen.length ≤ maxLen) :
    let result := (boundedLoop 0 maxLen).result ⟨seen, reader⟩
    match boundedTape maxLen seen reader.tape with
    | some (.ok line, rest) => result.answer = .ok line.length ∧ result.buf = line ∧ result.reader.tape = rest
    | some (.error cause, rest) => result.answer = .error cause ∧ result.reader.tape = rest
    | none => ∃ size, maxLen < size ∧ result.answer = .error (.failed (.packetTooLarge size maxLen)) := by
  induction bound : reader.tape.length using Nat.strongRecOn generalizing seen reader with
  | ind n ih =>
    rcases reader.fillBuf_cases with ⟨tape, filled⟩ | ⟨cause, after, filled, tape⟩ | ⟨first, more, after, filled, -, -⟩
    · rw [Loop.result_ended (boundedPass_eof filled), tape]
      simp [boundedTape, fits, tape]
    · rw [Loop.result_ended (boundedPass_interrupt filled), tape]
      simp [boundedTape, fits]
    · rcases Nat.lt_or_ge maxLen (seen.length + lineTake (first :: more)) with long | still
      · rw [Loop.result_ended (boundedPass_too_long filled (by simp) long)]
        have nothing : boundedTape maxLen seen reader.tape = none := by
          rcases available_cases filled (by simp) with ⟨unbroken, tape⟩ | ⟨body, rest, cut, unbroken, tape⟩
          · rw [lineTake_open unbroken] at long
            rw [tape, boundedTape_open unbroken, boundedTape_too_long (by simpa using long)]
          · rw [cut, lineTake_closed unbroken] at long
            have longer : ¬(seen ++ body).length + 1 ≤ maxLen := by
              rw [List.length_append]
              omega
            rw [tape, boundedTape_open unbroken, boundedTape, if_pos rfl, if_neg longer]
        rw [nothing]
        exact ⟨_, long, rfl⟩
      · rcases available_cases filled (by simp) with ⟨unbroken, tape⟩ | ⟨body, rest, cut, unbroken, tape⟩
        · have shorter := consume_lineTake_shrinks filled
          have room : (seen ++ first :: more).length ≤ maxLen := by
            rw [List.length_append, ← lineTake_open unbroken]
            exact still
          have later := ih _ (bound ▸ shorter) (seen ++ first :: more) (after.consume (lineTake (first :: more))) room rfl
          rw [Loop.result_again (boundedPass_open filled (by simp) unbroken still), tape, boundedTape_open unbroken]
          exact later
        · have room : (seen ++ body).length + 1 ≤ maxLen := by
            rw [cut, lineTake_closed unbroken] at still
            rw [List.length_append]
            omega
          rw [cut] at filled still
          rw [Loop.result_ended (boundedPass_closed filled unbroken still), tape, boundedTape_open unbroken, boundedTape,
            if_pos rfl, if_pos room, cut]
          exact ⟨rfl, rfl, rfl⟩

theorem readLineBounded_closed (maxLen : Nat) {rest : List Signal} (unbroken : newline ∉ body)
    (tape : reader.tape = body.map byte ++ byte newline :: rest) (fits : (body ++ [newline]).length ≤ maxLen) :
    (readLineBounded reader [] maxLen).answer = .ok (body ++ [newline]).length ∧
      (readLineBounded reader [] maxLen).buf = body ++ [newline] ∧ (readLineBounded reader [] maxLen).reader.tape = rest := by
  have result := boundedLoop_result maxLen [] reader (Nat.zero_le _)
  have read : boundedTape maxLen [] reader.tape = some (.ok (body ++ [newline]), rest) := by
    rw [List.length_append] at fits
    rw [tape, boundedTape_open unbroken]
    simpa [boundedTape] using fits
  rwa [read] at result

theorem readLineBounded_open (maxLen : Nat) (unbroken : newline ∉ body) (tape : reader.tape = body.map byte) (fits : body.length ≤ maxLen) :
    (readLineBounded reader [] maxLen).answer = .ok body.length ∧ (readLineBounded reader [] maxLen).buf = body ∧
      (readLineBounded reader [] maxLen).reader.tape = [] := by
  have result := boundedLoop_result maxLen [] reader (Nat.zero_le _)
  have read : boundedTape maxLen [] reader.tape = some (.ok body, []) := by
    rw [tape, ← List.append_nil (body.map byte), boundedTape_open unbroken]
    simpa [boundedTape] using fits
  rwa [read] at result

/-- A line over the cap fails the read, wherever it ends. -/
theorem readLineBounded_too_long {rest : List Signal} (unbroken : newline ∉ body) (tape : reader.tape = body.map byte ++ rest)
    (long : maxLen < body.length ∨ maxLen ≤ body.length ∧ ∃ more, rest = byte newline :: more) :
    ∃ size, maxLen < size ∧ (readLineBounded reader [] maxLen).answer = .error (.failed (.packetTooLarge size maxLen)) := by
  have result := boundedLoop_result maxLen [] reader (Nat.zero_le _)
  have read : boundedTape maxLen [] reader.tape = none := by
    rw [tape, boundedTape_open unbroken, List.nil_append]
    rcases long with long | ⟨long, more, rfl⟩
    · exact boundedTape_too_long long rest
    · rw [boundedTape, if_pos rfl, if_neg (by omega)]
  rwa [read] at result

end Bounded

end RustConnect
