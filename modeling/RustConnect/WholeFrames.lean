import Mathlib
import RustConnect.Daemon
import RustConnect.LinkGenerations

namespace RustConnect

open Program DaemonAction Daemon

/-- The tasks that register, write on and remove links: what is asked of the
manager, the packets that are sent from anywhere in the daemon, and the
identity exchange of an accepted link. -/
inductive LinkTask
  | manager (op : ManagerOp)
  | send (deviceId : DeviceId) (packet : Packet)
  | exchange (patience : Nat) (plaintextIdentity : Identity) (deviceId : DeviceId) (generation : UInt64)

def LinkTask.program (print : Json → String) (codec : JsonCodec) (platform : Platform) (our : Identity) :
    LinkTask → DaemonProgram Unit
  | manager op => onManager (op.program codec platform)
  | send d packet => attempt (sendPacket print d packet)
  | exchange patience plaintextIdentity d generation => do
    let _ ← runExchange print codec platform our patience plaintextIdentity d generation

namespace WholeFrames

/-- The handle that a sender has of a link and the packet it is to write
there: it has looked the link up and not written yet, and was not refused or
cut off in between. -/
abbrev Handle := Option (Nat × Packet)

def hold : Handle → (Σ action : DaemonAction, action.Answer) → Handle
  | _, ⟨lookupLink _ packet, link⟩ => link.map fun link => (link.id, packet)
  | some (link, packet), ⟨peerCapabilities _, some incoming⟩ =>
    if incoming.contains packet.packetType then some (link, packet) else none
  | _, ⟨writeFramed _ _ _, _⟩ => none
  | _, ⟨timeoutElapsed, _⟩ => none
  | handle, _ => handle

/-- The handle that a task has. -/
def handle (trace : List (Nat × Σ action : DaemonAction, action.Answer)) (task : Nat) : Handle :=
  trace.foldl (fun held entry => if entry.1 = task then hold held entry.2 else held) none

def isTorn (s : DaemonState) (link : Nat) : Bool := (s.framesOf link).any Frame.torn

/-- No sender is left behind by a torn frame: when one is torn, no other task
has a handle of the link, and no sender looks a link up on which one was torn. -/
def Undisturbed (pool : Pool DaemonAction DaemonAction.Answer DaemonState) : Turn LinkTask → Prop
  | .spawn _ => True
  | .take task => ∀ action, pool.next task = some action →
    match action with
    | writeFramed _ link bytes => Frame.torn ⟨bytes, pool.shared.outcomes.headD {}⟩ →
      ∀ other ≠ task, ∀ held packet, handle pool.trace other = some (held, packet) → held ≠ link
    | lookupLink d _ => ∀ link, pool.shared.manager.connections.lookup d = some link → isTorn pool.shared link.id = false
    | _ => True

variable (print : Json → String)

def line (packet : Packet) : Bytes := toUtf8 (print packet.encode) ++ [newline]

/-- A task writes only what it was given, on the link that it has a handle of. -/
def move : Handle → (action : DaemonAction) → action.Answer → Option Handle
  | some (held, packet), writeFramed _ link bytes, _ => if link = held ∧ bytes = line print packet then some none else none
  | none, writeFramed _ _ _, _ => none
  | held, action, answer => some (hold held ⟨action, answer⟩)

section Tasks

variable {print} {α : Type}

theorem move_quiet {held : Handle} {action : DaemonAction} {answer : action.Answer}
    (quiet : match action with
      | writeFramed _ _ _ | lookupLink _ _ | peerCapabilities _ | timeoutElapsed => False
      | _ => True) : move print held action answer = some held := by
  cases action <;> first | exact quiet.elim | (cases held <;> rfl)

theorem follows_onManager (program : ManagerProgram α) (held : Handle) :
    Follows (move print) held (onManager program) fun later _ => later = held := by
  have quiet : (onManager program).Only (fun action => ∃ inner, action = manager inner) fun _ => True :=
    (only_trivial program).hoist fun action _ => ⟨⟨action, rfl⟩, fun _ => trivial⟩
  refine (quiet.follows fun action inside answer => ?_).weaken fun _ _ same => same.1
  obtain ⟨inner, rfl⟩ := inside
  exact move_quiet trivial

theorem follows_deliver (d : DeviceId) (link : Link) (packet : Packet) :
    Follows (move print) (some (link.id, packet)) (Daemon.deliver d link (line print packet)) fun later _ => later = none := by
  refine (follows_bind _ _ _).mpr fun outcome => ⟨none, by simp [move], (follows_pure _ _).mpr ?_⟩
  cases outcome.writeFramed d with
  | ok => rfl
  | error e =>
    show Follows (move print) none (onManager (ConnectionManager.disconnect d link.generation) >>= fun _ => pure _) _
    exact (follows_bind _ _ _).mpr ((follows_onManager _ none).weaken fun _ _ same => same)

theorem follows_checkCapability (d : DeviceId) (link : Nat) (packet : Packet) :
    Follows (move print) (some (link, packet)) (checkCapability d packet).run fun later result =>
      match result with
      | .ok () => later = some (link, packet)
      | .error _ => later = none := by
  unfold checkCapability
  split
  · refine (follows_except_bind _ _ _).mpr ((follows_except_lift _ _).mpr fun capabilities => ?_)
    cases capabilities with
    | none => exact ⟨some (link, packet), rfl, rfl⟩
    | some incoming =>
      by_cases listed : packet.packetType ∈ incoming
      · refine ⟨some (link, packet), by simp [move, hold, listed], ?_⟩
        simp [listed]
      · refine ⟨none, by simp [move, hold, listed], ?_⟩
        simp [listed]
  · rfl

/-- A sender has no handle when `send_packet` is over. -/
theorem follows_sendPacket (d : DeviceId) (packet : Packet) (held : Handle) :
    Follows (move print) held (sendPacket print d packet).run fun later _ => later = none := by
  unfold sendPacket
  refine fun _ => ⟨held, move_quiet trivial, fun found => ?_⟩
  cases found with
  | none => exact ⟨none, by cases held <;> rfl, rfl⟩
  | some link =>
    refine ⟨some (link.id, packet), by cases held <;> rfl, ?_⟩
    refine (follows_except_bind _ _ _).mpr ((follows_checkCapability d link.id packet).weaken fun later result came => ?_)
    cases result with
    | error e => exact came
    | ok =>
      subst came
      exact follows_deliver d link packet

variable (print) in
theorem follows_identityExchange (codec : JsonCodec) (platform : Platform) (our plaintextIdentity : Identity)
    (d : DeviceId) (generation : UInt64) :
    Follows (move print) none (identityExchange print codec platform our plaintextIdentity d generation).run
      fun later _ => later = none := by
  unfold identityExchange
  refine (follows_except_bind _ _ _).mpr ((follows_except_adapt _ _ _).mpr ?_)
  refine (follows_onManager _ none).weaken fun later result same => ?_
  subst same
  cases result with
  | error e => rfl
  | ok received =>
    refine (follows_except_bind _ _ _).mpr ?_
    cases checkEncrypted codec platform plaintextIdentity d received with
    | error e => rfl
    | ok =>
      refine fun id => ⟨none, move_quiet trivial, ?_⟩
      exact (follows_except_adapt _ _ _).mpr (follows_sendPacket d _ none)

theorem follows_tearDown (d : DeviceId) (generation : UInt64) :
    Follows (move print) none (tearDown d generation) fun later _ => later = none := by
  refine (follows_bind _ _ _).mpr ((follows_onManager _ none).weaken fun later owned same => ?_)
  subst same
  cases owned with
  | false => rfl
  | true => exact fun _ => ⟨none, move_quiet trivial, fun _ => ⟨none, move_quiet trivial, rfl⟩⟩

theorem follows_task {codec : JsonCodec} {platform : Platform} {our : Identity} (task : LinkTask) :
    Follows (move print) none (task.program print codec platform our) fun _ _ => True := by
  cases task with
  | manager op => exact (follows_onManager _ none).weaken fun _ _ _ => trivial
  | send d packet => exact (follows_map _ _ _).mpr ((follows_sendPacket d packet none).weaken fun _ _ _ => trivial)
  | exchange patience plaintextIdentity d generation =>
    have drops (held : Handle) (answer : timeoutElapsed.Answer) :
        ∃ later, move print held timeoutElapsed answer = some later ∧ later = none := ⟨none, by cases held <;> rfl, rfl⟩
    have exchange := (follows_identityExchange print codec platform our plaintextIdentity d generation).cutOff drops patience
    refine (follows_bind _ _ _).mpr ((follows_bind _ _ _).mpr (exchange.weaken fun later result came => ?_))
    have none : later = none := by cases result <;> exact came
    subst none
    rcases result with _ | _ | _
    · exact (follows_bind _ _ _).mpr ((follows_tearDown d generation).weaken fun _ _ _ => trivial)
    · exact (follows_bind _ _ _).mpr ((follows_tearDown d generation).weaken fun _ _ _ => trivial)
    · trivial

end Tasks

/-- A torn frame is the last of its link, and no task has a handle of the link any more. -/
structure Whole (s : DaemonState) (handles : Nat → Handle) (trace : List (Nat × Σ action : DaemonAction, action.Answer)) :
    Prop where
  same : ∀ task, handle trace task = handles task
  packets : ∀ link, ∀ frame ∈ s.framesOf link, ∃ packet, PacketSerializer.serialize print packet = .ok frame.bytes
  last : ∀ link, ∀ frame ∈ (s.framesOf link).dropLast, frame.torn = false
  alone : ∀ link, isTorn s link → ∀ task held packet, handles task = some (held, packet) → held ≠ link

variable {print} {s t : DaemonState} {handles : Nat → Handle} {trace : List (Nat × Σ action : DaemonAction, action.Answer)}
  {task : Nat} {later : Handle}

theorem handle_append (entry : Nat × Σ action : DaemonAction, action.Answer) (task : Nat) :
    handle (trace ++ [entry]) task = if entry.1 = task then hold (handle trace task) entry.2 else handle trace task := by
  unfold handle
  rw [List.foldl_append]
  rfl

theorem hold_of_move {held : Handle} {action : DaemonAction} {answer : action.Answer}
    (moved : move print held action answer = some later) : hold held ⟨action, answer⟩ = later := by
  cases action with
  | writeFramed d link bytes =>
    cases held with
    | none => cases moved
    | some held =>
      simp only [move] at moved
      split at moved
      · exact Option.some.inj moved
      · cases moved
  | _ => cases held <;> exact Option.some.inj moved

/-- A task that writes has a handle of the link. -/
theorem write_of_move {held : Handle} {d : DeviceId} {link : Nat} {bytes : Bytes} {answer : WriteOutcome}
    (moved : move print held (writeFramed d link bytes) answer = some later) :
    ∃ packet, held = some (link, packet) ∧ bytes = line print packet ∧ later = none := by
  cases held with
  | none => cases moved
  | some held =>
    simp only [move] at moved
    split at moved
    · rename_i own
      obtain ⟨rfl, rfl⟩ := own
      exact ⟨held.2, rfl, rfl, (Option.some.inj moved).symm⟩
    · cases moved

/-- The handles are told by the trace. -/
theorem Whole.sameHandles (whole : Whole print s handles trace) {action : DaemonAction} {answer : action.Answer}
    (moved : move print (handles task) action answer = some later) (other : Nat) :
    handle (trace ++ [(task, ⟨action, answer⟩)]) other = Function.update handles task later other := by
  rw [handle_append]
  by_cases here : task = other
  · subst here
    simp [whole.same, hold_of_move moved]
  · simp [here, whole.same, Function.update_of_ne (Ne.symm here)]

/-- Nothing is written; if the task gets a handle, then of a link on which no frame was torn. -/
theorem Whole.frame (whole : Whole print s handles trace) {action : DaemonAction} {answer : action.Answer}
    (moved : move print (handles task) action answer = some later) (frames : t.frames = s.frames)
    (fresh : ∀ held packet, later = some (held, packet) → handles task = some (held, packet) ∨ isTorn s held = false) :
    Whole print t (Function.update handles task later) (trace ++ [(task, ⟨action, answer⟩)]) := by
  have written (link : Nat) : t.framesOf link = s.framesOf link := by rw [DaemonState.framesOf, frames]; rfl
  have torn (link : Nat) : isTorn t link = isTorn s link := by rw [isTorn, written]; rfl
  refine ⟨whole.sameHandles moved, fun link => ?_, fun link => ?_, fun link broken other held packet has => ?_⟩
  · rw [written]
    exact whole.packets link
  · rw [written]
    exact whole.last link
  · rw [torn] at broken
    by_cases here : other = task
    · subst here
      rw [Function.update_self] at has
      rcases fresh held packet has with before | sound
      · exact whole.alone link broken other held packet before
      · rintro rfl
        rw [broken] at sound
        cases sound
    · rw [Function.update_of_ne here] at has
      exact whole.alone link broken other held packet has

/-- A task writes on the link that it has a handle of. -/
theorem Whole.write (whole : Whole print s handles trace) {d : DeviceId} {link : Nat} {bytes : Bytes}
    (moved : move print (handles task) (writeFramed d link bytes) (s.write link bytes).1 = some later)
    (undisturbed : Frame.torn ⟨bytes, s.outcomes.headD {}⟩ →
      ∀ other ≠ task, ∀ held packet, handle trace other = some (held, packet) → held ≠ link) :
    Whole print (s.write link bytes).2 (Function.update handles task later)
      (trace ++ [(task, ⟨writeFramed d link bytes, (s.write link bytes).1⟩)]) := by
  obtain ⟨packet, has, given, rfl⟩ := write_of_move moved
  have sound : isTorn s link = false := by
    by_contra broken
    exact whole.alone link (by simpa using broken) task link packet has rfl
  have here := s.framesOf_write link bytes
  have elsewhere {other : Nat} (apart : other ≠ link) := s.framesOf_write_ne bytes apart
  refine ⟨whole.sameHandles moved, fun other => ?_, fun other => ?_, fun other broken third held packet' also => ?_⟩
  · by_cases same : other = link
    · subst same
      intro frame member
      rw [here, List.mem_append, List.mem_singleton] at member
      rcases member with before | rfl
      · exact whole.packets other frame before
      · exact ⟨packet, by rw [given]; rfl⟩
    · rw [elsewhere same]
      exact whole.packets other
  · by_cases same : other = link
    · subst same
      intro frame member
      rw [here, List.dropLast_concat] at member
      simp only [isTorn, List.any_eq_false, Bool.not_eq_true] at sound
      exact sound frame member
    · rw [elsewhere same]
      exact whole.last other
  · have busy : third ≠ task ∧ handles third = some (held, packet') := by
      by_cases own : third = task
      · subst own
        simp at also
      · exact ⟨own, by rwa [Function.update_of_ne own] at also⟩
    by_cases same : other = link
    · subst same
      have torn : Frame.torn ⟨bytes, s.outcomes.headD {}⟩ = true := by
        rw [isTorn, here, List.any_append] at broken
        rw [isTorn] at sound
        simpa [sound] using broken
      exact undisturbed torn third busy.1 held packet' ((whole.same third).trans busy.2)
    · rw [isTorn, elsewhere same] at broken
      exact whole.alone other broken third held packet' busy.2

/-- What a task can come to hold without looking a link up, it held before. -/
theorem kept_of_move {held : Handle} {action : DaemonAction} {answer : action.Answer}
    (moved : move print held action answer = some later) (noLookup : ∀ d packet, action ≠ lookupLink d packet)
    {kept : Nat × Packet} (holds : later = some kept) : held = some kept := by
  have holding := hold_of_move moved
  rw [holds] at holding
  cases action with
  | lookupLink d packet => exact absurd rfl (noLookup d packet)
  | writeFramed d link bytes => cases held <;> cases holding
  | timeoutElapsed => cases held <;> cases holding
  | peerCapabilities d =>
    cases held with
    | none => cases answer <;> cases holding
    | some held =>
      cases answer with
      | none => exact holding
      | some incoming =>
        simp only [hold] at holding
        split at holding
        · exact holding
        · cases holding
  | _ => cases held <;> exact holding

theorem Whole.exec {codec : JsonCodec} {pool : Pool DaemonAction DaemonAction.Answer DaemonState}
    (whole : Whole print pool.shared handles pool.trace) {action : DaemonAction} (next : pool.next task = some action)
    (undisturbed : Undisturbed pool (.take task))
    (moved : move print (handles task) action (action.exec codec pool.shared).1 = some later) :
    Whole print (action.exec codec pool.shared).2 (Function.update handles task later)
      (pool.trace ++ [(task, ⟨action, (action.exec codec pool.shared).1⟩)]) := by
  have allowed := undisturbed action next
  cases action with
  | writeFramed d link bytes => exact whole.write moved allowed
  | lookupLink d packet =>
    refine whole.frame moved rfl fun held packet' got => .inr ?_
    have holding := (hold_of_move moved).trans got
    cases found : pool.shared.manager.connections.lookup d with
    | none => simp [DaemonAction.exec, found, hold] at holding
    | some link =>
      obtain ⟨rfl, -⟩ : link.id = held ∧ packet = packet' := by simpa [DaemonAction.exec, found, hold] using holding
      exact allowed link found
  | _ => exact whole.frame moved rfl fun held packet got => .inl (kept_of_move moved (by simp) got)

/-- The bytes that were written on a link. -/
def stream (s : DaemonState) (link : Nat) : Bytes := (s.framesOf link).flatMap Frame.reached

theorem reached_of_sound {frames : List Frame} (sound : ∀ frame ∈ frames, frame.torn = false) :
    frames.flatMap Frame.reached = (frames.filter Frame.finished).flatMap Frame.bytes := by
  induction frames with
  | nil => rfl
  | cons frame rest ih =>
    have tail := ih fun other member => sound other (List.mem_cons_of_mem _ member)
    have head := sound frame (List.mem_cons_self ..)
    cases finished : frame.finished with
    | true => simp [finished, Frame.reached, tail]
    | false =>
      have empty : frame.reached = [] := by simpa [Frame.torn, finished] using head
      simp [finished, empty, tail]

/-- The stream is what was finished, and then at most a part of one packet. -/
theorem stream_of_last {frames : List Frame} (last : ∀ frame ∈ frames.dropLast, frame.torn = false) :
    ∃ rest, frames.flatMap Frame.reached = (frames.filter Frame.finished).flatMap Frame.bytes ++ rest ∧
      (rest = [] ∨ ∃ frame ∈ frames, frame.finished = false ∧ rest = frame.reached) := by
  rcases List.eq_nil_or_concat frames with rfl | ⟨whole, final, rfl⟩
  · exact ⟨[], rfl, .inl rfl⟩
  · rw [List.concat_eq_append, List.dropLast_concat] at last
    rw [List.concat_eq_append, List.flatMap_append, List.filter_append, List.flatMap_append, reached_of_sound last]
    cases finished : final.finished with
    | true => exact ⟨[], by simp [finished, Frame.reached], .inl rfl⟩
    | false => exact ⟨final.reached, by simp [finished], .inr ⟨final, by simp, finished, rfl⟩⟩

/-- The daemon as it starts, with no links; what the streams are going to do
and the ids that are going to be drawn are given. -/
def fresh (files : Files) (own : DeviceId) (now : Time) (outcomes : List WriteOutcome) (packetIds : List Int64) : DaemonState where
  pairing := { files, now }
  manager := { deviceId := own }
  outcomes := outcomes
  packetIds := packetIds

/-- The tasks after the first `k` turns. -/
def atTurn (print : Json → String) (codec : JsonCodec) (platform : Platform) (our : Identity) (start : DaemonState)
    (turns : List (Turn LinkTask)) (k : Nat) : Pool DaemonAction DaemonAction.Answer DaemonState :=
  Pool.after (DaemonAction.exec codec) (LinkTask.program print codec platform our) start turns k

/-- Where no sender is left behind by a torn frame, what is written on a link
are the packets that were written to their end, one after the other, and then
at most a part of one packet, in whatever order the tasks take their turns. -/
theorem no_bytes_follow_torn_frame (print : Json → String) (codec : JsonCodec) (platform : Platform) (our : Identity)
    (files : Files) (own : DeviceId) (now : Time) (outcomes : List WriteOutcome) (packetIds : List Int64)
    (turns : List (Turn LinkTask))
    (undisturbed : ∀ k turn, turns[k]? = some turn →
      Undisturbed (atTurn print codec platform our (fresh files own now outcomes packetIds) turns k) turn)
    (k link : Nat) :
    (∀ frame ∈ (atTurn print codec platform our (fresh files own now outcomes packetIds) turns k).shared.framesOf link,
      ∃ packet, PacketSerializer.serialize print packet = .ok frame.bytes) ∧
    ∃ rest, stream (atTurn print codec platform our (fresh files own now outcomes packetIds) turns k).shared link =
      (((atTurn print codec platform our (fresh files own now outcomes packetIds) turns k).shared.framesOf link).filter
        Frame.finished).flatMap Frame.bytes ++ rest ∧
      (rest = [] ∨
        ∃ frame ∈ (atTurn print codec platform our (fresh files own now outcomes packetIds) turns k).shared.framesOf link,
          frame.finished = false ∧ rest = frame.reached) := by
  have invariant : Pool.Invariant (move print) none (fun _ => True) (DaemonAction.exec codec)
      (LinkTask.program print codec platform our) Undisturbed (Whole print) :=
    ⟨follows_task, fun _ _ _ _ _ whole next allowed moved => whole.exec next allowed moved⟩
  have first : Whole print (fresh files own now outcomes packetIds) (fun _ => none) [] :=
    ⟨by simp [handle], by simp [fresh, DaemonState.framesOf], by simp [fresh, DaemonState.framesOf], by simp⟩
  obtain ⟨handles, -, whole⟩ := invariant.run first undisturbed k
  exact ⟨whole.packets link, stream_of_last (whole.last link)⟩

section Sample

open RefusedAttempts LinkGenerations

theorem exists_entry_of_handle {other : Nat} {held : Nat × Packet} (has : handle trace other = some held) :
    ∃ entry ∈ trace, entry.1 = other := by
  induction trace using List.reverseRecOn with
  | nil => cases has
  | append_singleton trace entry ih =>
    rw [handle_append] at has
    by_cases here : entry.1 = other
    · exact ⟨entry, by simp, here⟩
    · rw [if_neg here] at has
      obtain ⟨found, member, same⟩ := ih has
      exact ⟨found, List.mem_append_left _ member, same⟩

/-- What `Undisturbed` asks of a turn, as a check. -/
def calm (pool : Pool DaemonAction DaemonAction.Answer DaemonState) (task : Nat) : Bool :=
  match pool.next task with
  | some (writeFramed _ link bytes) => !Frame.torn ⟨bytes, pool.shared.outcomes.headD {}⟩ ||
    pool.trace.all fun entry => entry.1 == task || (handle pool.trace entry.1).all fun held => held.1 != link
  | some (lookupLink d _) => (pool.shared.manager.connections.lookup d).all fun link => !isTorn pool.shared link.id
  | _ => true

theorem undisturbed_of_calm {pool : Pool DaemonAction DaemonAction.Answer DaemonState} (checked : calm pool task = true) :
    Undisturbed pool (.take task) := by
  intro action next
  rw [calm, next] at checked
  cases action with
  | writeFramed d link bytes =>
    intro torn other apart held packet has
    obtain ⟨entry, member, rfl⟩ := exists_entry_of_handle has
    simp only [torn, Bool.not_true, Bool.false_or, List.all_eq_true] at checked
    have free := checked entry member
    simp only [has, beq_eq_false_iff_ne.mpr apart, Bool.false_or, Option.all_some, bne_iff_ne] at free
    exact free
  | lookupLink d packet =>
    intro link found
    simpa [found] using checked
  | _ => trivial

def batteryText : String := "\x7b" ++ "\"id\":1,\"type\":\"kdeconnect.battery\",\"body\":\x7b\x7d" ++ "\x7d"

def batteryPacket : Packet := .new 1 "kdeconnect.battery" (.obj [])

def shortTask : LinkTask → DaemonProgram Unit
  | .manager op => onManager (shortProgram op)
  | other => other.program (fun _ => batteryText) phoneCodec phonePlatform phoneIdentity

/-- The phone as it connects to the daemon, in nine turns. -/
def phoneLinks : List (Turn LinkTask) := .spawn (.manager phoneOp) :: List.replicate 8 (.take 0)

abbrev phoneAt (outcomes : List WriteOutcome) (turns : List (Turn LinkTask)) (k : Nat) :
    Pool DaemonAction DaemonAction.Answer DaemonState :=
  atTurn (fun _ => batteryText) phoneCodec phonePlatform phoneIdentity (fresh ∅ "" 0 outcomes []) turns k

theorem phoneAt_short {outcomes : List WriteOutcome} {turns : List (Turn LinkTask)}
    (phones : ∀ op, .spawn (.manager op) ∈ turns → op = phoneOp) (k : Nat) :
    phoneAt outcomes turns k = Pool.after (DaemonAction.exec phoneCodec) shortTask (fresh ∅ "" 0 outcomes []) turns k := by
  refine Pool.after_congr (fun task spawned => ?_) k
  cases task with
  | manager op =>
    rw [phones op spawned]
    exact congrArg onManager program_phoneOp
  | _ => rfl

/-- Two packets are sent to the phone one after the other, and only a part of the second is written. -/
def oneAfterTheOther : List (Turn LinkTask) :=
  phoneLinks ++ (.spawn (.send phoneId batteryPacket) :: List.replicate 4 (.take 1) : List (Turn LinkTask)) ++
  (.spawn (.send phoneId batteryPacket) :: List.replicate 6 (.take 2) : List (Turn LinkTask))

theorem torn_frame_last :
    (phoneAt [{}, { writeAll := .timedOut, written := 5 }] oneAfterTheOther 21).shared.framesOf 0 =
      [⟨toUtf8 batteryText ++ [newline], {}⟩, ⟨toUtf8 batteryText ++ [newline], { writeAll := .timedOut, written := 5 }⟩] ∧
    ∃ rest, stream (phoneAt [{}, { writeAll := .timedOut, written := 5 }] oneAfterTheOther 21).shared 0 =
      (((phoneAt [{}, { writeAll := .timedOut, written := 5 }] oneAfterTheOther 21).shared.framesOf 0).filter
        Frame.finished).flatMap Frame.bytes ++ rest ∧
      (rest = [] ∨ ∃ frame ∈ (phoneAt [{}, { writeAll := .timedOut, written := 5 }] oneAfterTheOther 21).shared.framesOf 0,
        frame.finished = false ∧ rest = frame.reached) := by
  have short : ∀ k, phoneAt [{}, { writeAll := .timedOut, written := 5 }] oneAfterTheOther k = _ :=
    phoneAt_short (by simp [oneAfterTheOther, phoneLinks])
  have checked : ∀ k < 21, ∀ task < 3, calm (Pool.after (DaemonAction.exec phoneCodec) shortTask
      (fresh ∅ "" 0 [{}, { writeAll := .timedOut, written := 5 }] []) oneAfterTheOther k) task = true := by decide +kernel
  refine ⟨by rw [short]; decide +kernel, (no_bytes_follow_torn_frame (fun _ => batteryText) phoneCodec phonePlatform phoneIdentity ∅ "" 0
    [{}, { writeAll := .timedOut, written := 5 }] [] oneAfterTheOther (fun k turn here => ?_) 21 0).2⟩
  have inside : k < 21 := (List.getElem?_eq_some_iff.mp here).1
  cases turn with
  | spawn task => trivial
  | take task =>
    have small : task < 3 := by
      have cases : task = 0 ∨ task = 1 ∨ task = 2 := by simpa [oneAfterTheOther, phoneLinks] using List.mem_of_getElem? here
      omega
    have fine := checked k inside task small
    rw [← short] at fine
    exact undisturbed_of_calm fine

/-- Two senders have looked the link up when the first of them writes only a part of its packet. -/
def bothLookUp : List (Turn LinkTask) :=
  phoneLinks ++ ([.spawn (.send phoneId batteryPacket), .spawn (.send phoneId batteryPacket)] : List (Turn LinkTask)) ++
  List.replicate 3 (Turn.take 1) ++ List.replicate 3 (Turn.take 2) ++ [Turn.take 1, .take 2]

theorem packet_after_torn_frame :
    ¬ ∃ rest, stream (phoneAt [{ writeAll := .timedOut, written := 5 }] bothLookUp 19).shared 0 =
      (((phoneAt [{ writeAll := .timedOut, written := 5 }] bothLookUp 19).shared.framesOf 0).filter
        Frame.finished).flatMap Frame.bytes ++ rest ∧
      (rest = [] ∨ ∃ frame ∈ (phoneAt [{ writeAll := .timedOut, written := 5 }] bothLookUp 19).shared.framesOf 0,
        frame.finished = false ∧ rest = frame.reached) := by
  have frames : (phoneAt [{ writeAll := .timedOut, written := 5 }] bothLookUp 19).shared.framesOf 0 =
      [⟨toUtf8 batteryText ++ [newline], { writeAll := .timedOut, written := 5 }⟩, ⟨toUtf8 batteryText ++ [newline], {}⟩] := by
    rw [phoneAt_short (by simp [bothLookUp, phoneLinks])]
    decide +kernel
  rintro ⟨rest, same, -⟩
  rw [stream, frames] at same
  have early : toUtf8 batteryText ++ [newline] <+:
      (toUtf8 batteryText ++ [newline]).take 5 ++ (toUtf8 batteryText ++ [newline]) :=
    ⟨rest, by simpa [Frame.reached, Frame.finished] using same.symm⟩
  exact absurd early (by decide +kernel)

end Sample

end WholeFrames

end RustConnect
