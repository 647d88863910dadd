import RustConnect.BufReader
import RustConnect.Base.Loop
import RustConnect.Base.Lines

namespace RustConnect

def maxPacketSize : Nat := 524288

def maxSteadyPacketSize : Nat := 32 * 1024 * 1024

def newline : UInt8 := 10

/-- Where the first newline stands, and how much of the bytes belongs to the line they begin with. -/
def newlineAt (available : Bytes) : Option Nat := available.findIdx? (· == newline)

def lineTake (available : Bytes) : Nat := (newlineAt available).elim available.length (· + 1)

theorem newlineAt_open {available : Bytes} (unbroken : newline ∉ available) : newlineAt available = none := by
  unfold newlineAt
  rw [List.findIdx?_eq_none_iff]
  intro b member
  simp only [beq_eq_false_iff_ne]
  rintro rfl
  exact unbroken member

theorem newlineAt_closed {body : Bytes} (unbroken : newline ∉ body) (rest : Bytes) :
    newlineAt (body ++ newline :: rest) = some body.length := by
  have absent := newlineAt_open unbroken
  unfold newlineAt at *
  simp [List.findIdx?_append, absent, List.findIdx?_cons]

theorem lineTake_open {available : Bytes} (unbroken : newline ∉ available) : lineTake available = available.length := by
  simp [lineTake, newlineAt_open unbroken]

theorem lineTake_closed {body : Bytes} (unbroken : newline ∉ body) (rest : Bytes) :
    lineTake (body ++ newline :: rest) = body.length + 1 := by
  simp [lineTake, newlineAt_closed unbroken]

theorem take_lineTake {body : Bytes} (unbroken : newline ∉ body) (rest : Bytes) :
    (body ++ newline :: rest).take (lineTake (body ++ newline :: rest)) = body ++ [newline] := by
  have length : body.length + 1 = (body ++ [newline]).length := by simp
  rw [lineTake_closed unbroken, List.append_cons, length, List.take_left]

theorem lineTake_pos (first : UInt8) (more : Bytes) : 0 < lineTake (first :: more) := by
  unfold lineTake
  cases newlineAt (first :: more) <;> simp

/-- `SteadyLine`. -/
inductive SteadyLine
  | line (length : Nat)
  | oversizeSkipped
  | eof
  deriving DecidableEq, Repr

/-- What a line reader returns: its answer, its buffer, and where it leaves the stream. -/
structure LineResult (α : Type) where
  answer : Except Interrupt α
  buf : Bytes
  reader : BufReader

structure BoundedRead where
  buf : Bytes
  reader : BufReader

structure SteadyRead where
  buf : Bytes
  discarding : Bool
  reader : BufReader

/-- One pass of `read_line_bounded`. -/
def boundedPass (start maxLen : Nat) (s : BoundedRead) : BoundedRead ⊕ LineResult Nat :=
  match s.reader.fillBuf with
  | (.error cause, reader) => .inr ⟨.error cause, s.buf, reader⟩
  | (.ok [], reader) => .inr ⟨.ok (s.buf.length - start), s.buf, reader⟩
  | (.ok available, reader) =>
    if s.buf.length + lineTake available > maxLen then
      .inr ⟨.error (.failed (.packetTooLarge (s.buf.length + lineTake available) maxLen)), s.buf, reader⟩
    else
      let buf := s.buf ++ available.take (lineTake available)
      let reader := reader.consume (lineTake available)
      if (newlineAt available).isSome then .inr ⟨.ok (buf.length - start), buf, reader⟩ else .inl ⟨buf, reader⟩

/-- One pass of `read_steady_line`. -/
def steadyPass (start maxLen : Nat) (s : SteadyRead) : SteadyRead ⊕ LineResult SteadyLine :=
  match s.reader.fillBuf with
  | (.error cause, reader) => .inr ⟨.error cause, s.buf, reader⟩
  | (.ok [], reader) =>
    .inr ⟨.ok (if s.discarding then .eof else if s.buf.length = start then .eof else .line (s.buf.length - start)),
      s.buf, reader⟩
  | (.ok available, reader) =>
    let reader := reader.consume (lineTake available)
    if s.discarding then
      if (newlineAt available).isSome then .inr ⟨.ok .oversizeSkipped, s.buf, reader⟩ else .inl { s with reader }
    else if s.buf.length + lineTake available > maxLen then
      let buf := s.buf.take start
      if (newlineAt available).isSome then .inr ⟨.ok .oversizeSkipped, buf, reader⟩ else .inl ⟨buf, true, reader⟩
    else
      let buf := s.buf ++ available.take (lineTake available)
      if (newlineAt available).isSome then .inr ⟨.ok (.line (buf.length - start)), buf, reader⟩
      else .inl { s with buf, reader }

/-- A chunk that was read and consumed up to its first newline leaves less to read. -/
theorem consume_lineTake_shrinks {reader after : BufReader} {first : UInt8} {more : Bytes}
    (filled : reader.fillBuf = (.ok (first :: more), after)) :
    (after.consume (lineTake (first :: more))).tape.length < reader.tape.length := by
  rcases reader.fillBuf_cases with ⟨-, empty⟩ | ⟨cause, end_, interrupted, -⟩ | ⟨first', more', after', here, held, same⟩
  · rw [empty] at filled
    cases filled
  · rw [interrupted] at filled
    cases filled
  · rw [here] at filled
    cases filled
    have positive := lineTake_pos first more
    have split := after.tape_consume (lineTake (first :: more))
    rw [same] at split
    rw [split, held]
    simp only [List.length_append, List.length_map, List.length_take, List.length_cons]
    omega

def boundedLoop (start maxLen : Nat) : Loop BoundedRead (LineResult Nat) where
  pass := boundedPass start maxLen
  size s := s.reader.tape.length
  shrinks s t again := by
    unfold boundedPass at again
    split at again
    · cases again
    · cases again
    · rename_i available reader nonempty filled
      obtain ⟨first, more, rfl⟩ := List.exists_cons_of_ne_nil (l := available) nonempty
      split at again
      · cases again
      · split at again
        · cases again
        · cases again
          exact consume_lineTake_shrinks filled

def steadyLoop (start maxLen : Nat) : Loop SteadyRead (LineResult SteadyLine) where
  pass := steadyPass start maxLen
  size s := s.reader.tape.length
  shrinks s t again := by
    unfold steadyPass at again
    split at again
    · cases again
    · cases again
    · rename_i available reader nonempty filled
      obtain ⟨first, more, rfl⟩ := List.exists_cons_of_ne_nil (l := available) nonempty
      split at again
      · split at again <;> cases again
        exact consume_lineTake_shrinks filled
      · split at again
        · split at again <;> cases again
          exact consume_lineTake_shrinks filled
        · split at again <;> cases again
          exact consume_lineTake_shrinks filled

/-- `read_line_bounded`. -/
def readLineBounded (reader : BufReader) (buf : Bytes) (maxLen : Nat) : LineResult Nat :=
  (boundedLoop buf.length maxLen).result ⟨buf, reader⟩

/-- `read_steady_line`. -/
def readSteadyLine (reader : BufReader) (buf : Bytes) (maxLen : Nat) : LineResult SteadyLine :=
  (steadyLoop buf.length maxLen).result ⟨buf, false, reader⟩

end RustConnect
