import RustConnect.Types

namespace RustConnect

/-- What a single read of the inner stream hands over: an empty read means end
of file and is not a chunk. -/
structure Chunk where
  bytes : Bytes
  nonempty : bytes ≠ []

/-- Why a read can end without an answer: the timeout around it runs out
and drops it, or the stream fails. -/
inductive Interrupt
  | elapsed
  | failed (e : Error)
  deriving DecidableEq, Repr

/-- What happens next on the inner stream while a reader waits for it. -/
inductive Arrival
  | data (chunk : Chunk)
  | interrupt (cause : Interrupt)

/-- One byte, or an interrupt between two bytes. -/
inductive Signal
  | byte (value : UInt8)
  | interrupt (cause : Interrupt)
  deriving DecidableEq, Repr

def Arrival.signals : Arrival → List Signal
  | data chunk => chunk.bytes.map .byte
  | interrupt cause => [.interrupt cause]

/-- `BufReader`: the bytes it holds that were not consumed yet, and what is
still to come on the stream below it, which ends when nothing is. -/
structure BufReader where
  buffer : Bytes
  inner : List Arrival

namespace BufReader

def new (inner : List Arrival) : BufReader := { buffer := [], inner }

/-- `fill_buf`: the unconsumed bytes, and if there are none the next read of the stream. -/
def fillBuf (reader : BufReader) : Except Interrupt Bytes × BufReader :=
  match reader.buffer, reader.inner with
  | [], .data chunk :: rest => (.ok chunk.bytes, { buffer := chunk.bytes, inner := rest })
  | [], .interrupt cause :: rest => (.error cause, { buffer := [], inner := rest })
  | available, _ => (.ok available, reader)

def consume (amount : Nat) (reader : BufReader) : BufReader := { reader with buffer := reader.buffer.drop amount }

def intoInner (reader : BufReader) : List Arrival := reader.inner

/-- Everything still to be read, with the chunk boundaries forgotten. -/
def tape (reader : BufReader) : List Signal := reader.buffer.map .byte ++ reader.inner.flatMap Arrival.signals

@[simp] theorem tape_new (inner : List Arrival) : (new inner).tape = inner.flatMap Arrival.signals := rfl

/-- Consuming takes the front of the buffer off what is still to be read. -/
theorem tape_consume (reader : BufReader) (amount : Nat) :
    reader.tape = (reader.buffer.take amount).map .byte ++ (reader.consume amount).tape := by
  unfold tape consume
  rw [← List.append_assoc, ← List.map_append, List.take_append_drop]

/-- The three answers of `fill_buf`, told by what is still to be read. -/
theorem fillBuf_cases (reader : BufReader) :
    (reader.tape = [] ∧ reader.fillBuf = (.ok [], reader)) ∨
    (∃ cause after, reader.fillBuf = (.error cause, after) ∧ reader.tape = .interrupt cause :: after.tape) ∨
    (∃ first more after, reader.fillBuf = (.ok (first :: more), after) ∧ after.buffer = first :: more ∧
      after.tape = reader.tape) := by
  obtain ⟨buffer, inner⟩ := reader
  cases buffer with
  | cons first more => exact .inr (.inr ⟨first, more, _, rfl, rfl, rfl⟩)
  | nil =>
    cases inner with
    | nil => exact .inl ⟨rfl, rfl⟩
    | cons arrival rest =>
      cases arrival with
      | interrupt cause => exact .inr (.inl ⟨cause, _, rfl, rfl⟩)
      | data chunk =>
        obtain ⟨bytes, nonempty⟩ := chunk
        obtain ⟨first, more, rfl⟩ := List.exists_cons_of_ne_nil nonempty
        exact .inr (.inr ⟨first, more, _, rfl, rfl, rfl⟩)

end BufReader

end RustConnect
