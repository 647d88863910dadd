import RustConnect.WholeFrames

namespace RustConnect

open Program DaemonAction Daemon

namespace ManagerState

/-- The links that the slots hold have numbers that were given out. -/
def Numbered (s : ManagerState) : Prop := ∀ d link, s.connections.lookup d = some link → link.id < s.nextLink

theorem Numbered.putLink {s : ManagerState} (numbered : s.Numbered) (e : DeviceId) (generation : UInt64)
    (peerCert : Option Bytes) (stream : BufReader) : (s.putLink e generation peerCert stream).Numbered := by
  intro d link found
  simp only [ManagerState.putLink, Table.lookup_insert_of] at found
  split at found
  · obtain rfl := Option.some.inj found
    exact Nat.lt_succ_self _
  · exact Nat.lt_succ_of_lt (numbered d link found)

theorem Numbered.exec {s : ManagerState} (numbered : s.Numbered) (codec : JsonCodec) (action : ManagerAction) :
    (action.exec codec s).2.Numbered ∧ s.nextLink ≤ (action.exec codec s).2.nextLink := by
  cases action with
  | insertConnection e generation peerCert stream => exact ⟨numbered.putLink e generation peerCert stream, Nat.le_succ _⟩
  | registerIncoming e peerCert stream =>
    simp only [ManagerAction.exec, ManagerState.registerIncoming]
    split
    · exact ⟨numbered, Nat.le_refl _⟩
    · have counted : (s.countGeneration e).Numbered := numbered
      exact ⟨counted.putLink e (s.nextGeneration e) peerCert stream, Nat.le_succ _⟩
  | removeConnection e generation =>
    simp only [ManagerAction.exec, ManagerState.removeConnection]
    split
    · exact ⟨numbered, Nat.le_refl _⟩
    · refine ⟨fun d link found => ?_, Nat.le_refl _⟩
      simp only [Table.lookup_erase_of] at found
      split at found
      · cases found
      · exact numbered d link found
  | admitAttempt ip =>
    simp only [ManagerAction.exec, ManagerState.admitAttempt]
    split <;> exact ⟨numbered, Nat.le_refl _⟩
  | cancelLoop e =>
    simp only [ManagerAction.exec]
    split <;> exact ⟨numbered, Nat.le_refl _⟩
  | registerCancelTokenIfCurrent e token generation =>
    simp only [ManagerAction.exec]
    split <;> exact ⟨numbered, Nat.le_refl _⟩
  | removeCancelTokenIfCurrent e generation =>
    simp only [ManagerAction.exec]
    split <;> exact ⟨numbered, Nat.le_refl _⟩
  | _ => exact ⟨numbered, Nat.le_refl _⟩

end ManagerState

theorem DaemonState.noteInbound_cases (s : DaemonState) (codec : JsonCodec) (action : ManagerAction) :
    s.noteInbound action (action.exec codec s.view).1 = s.inbound ∨
      s.noteInbound action (action.exec codec s.view).1 = s.manager.nextLink :: s.inbound ∧
        s.manager.nextLink < (action.exec codec s.view).2.nextLink := by
  cases action with
  | registerIncoming e peerCert stream =>
    simp only [ManagerAction.exec, ManagerState.registerIncoming]
    split
    · exact .inl rfl
    · exact .inr ⟨rfl, Nat.lt_succ_self _⟩
  | _ => exact .inl rfl

namespace IdentityFirst

open WholeFrames

/-- Nothing has reached the stream of the link. -/
def Silent (s : DaemonState) (link : Nat) : Prop := ∀ frame ∈ s.framesOf link, frame.reached = []

variable (print : Json → String) (our : Identity)

def IsOwnIdentity (packet : Packet) : Prop := ∃ id, packet = our.toTcpPacket id

/-- A sender finds a link that was accepted only once something was written on
it, unless it is the one that sends our identity. -/
def Greeted (pool : Pool DaemonAction DaemonAction.Answer DaemonState) : Turn LinkTask → Prop
  | .spawn _ => True
  | .take task => ∀ d packet, pool.next task = some (lookupLink d packet) →
    ∀ link, pool.shared.manager.connections.lookup d = some link → link.id ∈ pool.shared.inbound →
      Silent pool.shared link.id → IsOwnIdentity our packet

/-- The first bytes on an accepted link are those of our identity; until they
are written, every handle of the link is one for our identity. -/
structure First (s : DaemonState) (handles : Nat → Handle) : Prop where
  numbered : s.manager.Numbered
  held : ∀ task held packet, handles task = some (held, packet) → held < s.manager.nextLink
  unused : ∀ link, s.manager.nextLink ≤ link → s.framesOf link = []
  given : ∀ link ∈ s.inbound, link < s.manager.nextLink
  greets : ∀ link ∈ s.inbound, Silent s link → ∀ task packet, handles task = some (link, packet) → IsOwnIdentity our packet
  first : ∀ link ∈ s.inbound, ∀ frame, (s.framesOf link).find? (fun frame => !frame.reached.isEmpty) = some frame →
    ∃ id, PacketSerializer.serialize print (our.toTcpPacket id) = .ok frame.bytes

variable {print our} {s t : DaemonState} {handles : Nat → Handle} {task : Nat} {later : Handle}

theorem silent_congr (frames : t.frames = s.frames) (link : Nat) : Silent t link ↔ Silent s link := by
  simp only [Silent, DaemonState.framesOf, frames]

/-- Nothing is written and no link is accepted; if the task gets a handle, the
link is in a slot, and the handle one for our identity where it has to be. -/
theorem First.frame (first : First print our s handles) (frames : t.frames = s.frames) (inbound : t.inbound = s.inbound)
    (numbered : t.manager.Numbered) (next : s.manager.nextLink ≤ t.manager.nextLink)
    (fresh : ∀ held packet, later = some (held, packet) → handles task = some (held, packet) ∨
      held < s.manager.nextLink ∧ (held ∈ s.inbound → Silent s held → IsOwnIdentity our packet)) :
    First print our t (Function.update handles task later) := by
  have written (link : Nat) : t.framesOf link = s.framesOf link := by rw [DaemonState.framesOf, frames]; rfl
  refine ⟨numbered, fun other held packet has => ?_, fun link beyond => ?_, fun link member => ?_,
    fun link member silent other packet has => ?_, fun link member => ?_⟩
  · refine Nat.lt_of_lt_of_le ?_ next
    rcases eq_or_ne other task with rfl | apart
    · rw [Function.update_self] at has
      rcases fresh held packet has with before | ⟨inside, -⟩
      · exact first.held other held packet before
      · exact inside
    · rw [Function.update_of_ne apart] at has
      exact first.held other held packet has
  · rw [written]
    exact first.unused link (Nat.le_trans next beyond)
  · rw [inbound] at member
    exact Nat.lt_of_lt_of_le (first.given link member) next
  · rw [inbound] at member
    rw [silent_congr frames] at silent
    rcases eq_or_ne other task with rfl | apart
    · rw [Function.update_self] at has
      rcases fresh link packet has with before | ⟨-, own⟩
      · exact first.greets link member silent other packet before
      · exact own member silent
    · rw [Function.update_of_ne apart] at has
      exact first.greets link member silent other packet has
  · rw [inbound] at member
    rw [written]
    exact first.first link member

/-- A link is accepted: nothing was written on it and no task has a handle of it. -/
theorem First.accept (first : First print our s handles) (frames : t.frames = s.frames)
    (inbound : t.inbound = s.manager.nextLink :: s.inbound) (numbered : t.manager.Numbered)
    (next : s.manager.nextLink < t.manager.nextLink) : First print our t handles := by
  have written (link : Nat) : t.framesOf link = s.framesOf link := by rw [DaemonState.framesOf, frames]; rfl
  refine ⟨numbered, fun other held packet has => Nat.lt_trans (first.held other held packet has) next,
    fun link beyond => ?_, fun link member => ?_, fun link member silent other packet has => ?_, fun link member frame found => ?_⟩
  · rw [written]
    exact first.unused link (Nat.le_of_lt (Nat.lt_of_lt_of_le next beyond))
  · rw [inbound, List.mem_cons] at member
    rcases member with rfl | before
    · exact next
    · exact Nat.lt_trans (first.given link before) next
  · rw [silent_congr frames] at silent
    rw [inbound, List.mem_cons] at member
    rcases member with rfl | before
    · exact absurd (first.held other _ packet has) (Nat.lt_irrefl _)
    · exact first.greets link before silent other packet has
  · rw [written] at found
    rw [inbound, List.mem_cons] at member
    rcases member with rfl | before
    · rw [first.unused _ (Nat.le_refl _)] at found
      cases found
    · exact first.first link before frame found

/-- A task writes on the link that it has a handle of. -/
theorem First.write (first : First print our s handles) {d : DeviceId} {link : Nat} {bytes : Bytes}
    (moved : move print (handles task) (writeFramed d link bytes) (s.write link bytes).1 = some later) :
    First print our (s.write link bytes).2 (Function.update handles task later) := by
  obtain ⟨packet, has, given, rfl⟩ := write_of_move moved
  have here := s.framesOf_write link bytes
  have elsewhere {other : Nat} (apart : other ≠ link) := s.framesOf_write_ne bytes apart
  have silent_before (other : Nat) (silent : Silent (s.write link bytes).2 other) : Silent s other := by
    intro frame member
    rcases eq_or_ne other link with rfl | apart
    · exact silent frame (by rw [here]; exact List.mem_append_left _ member)
    · exact silent frame (by rwa [elsewhere apart])
  have kept (other held : Nat) (packet : Packet) (also : Function.update handles task none other = some (held, packet)) :
      handles other = some (held, packet) := by
    rcases eq_or_ne other task with rfl | apart
    · simp at also
    · rwa [Function.update_of_ne apart] at also
  refine ⟨first.numbered, fun other held packet also => first.held other held packet (kept _ _ _ also),
    fun other beyond => ?_, first.given,
    fun other member silent third packet also => first.greets other member (silent_before other silent) third packet (kept _ _ _ also),
    fun other member frame found => ?_⟩
  · have inside := first.held task link packet has
    have apart : other ≠ link := fun same => Nat.not_lt_of_le beyond (same ▸ inside)
    rw [elsewhere apart]
    exact first.unused other beyond
  · rcases eq_or_ne other link with rfl | apart
    · rw [here, List.find?_append] at found
      cases before : (s.framesOf other).find? fun frame => !frame.reached.isEmpty with
      | some old =>
        rw [before] at found
        obtain rfl : old = frame := Option.some.inj found
        exact first.first other member old before
      | none =>
        have silent : Silent s other := by
          intro old inside
          have reached := List.find?_eq_none.mp before old inside
          simpa using reached
        obtain ⟨id, rfl⟩ := first.greets other member silent task packet has
        have own : frame.bytes = bytes := by
          rw [before, Option.none_or] at found
          have only := List.mem_of_find?_eq_some found
          rw [List.mem_singleton.mp only]
        exact ⟨id, by rw [own, given]; rfl⟩
    · rw [elsewhere apart] at found
      exact first.first other member frame found

theorem First.exec {codec : JsonCodec} {pool : Pool DaemonAction DaemonAction.Answer DaemonState}
    (first : First print our pool.shared handles) {action : DaemonAction} (next : pool.next task = some action)
    (greeted : Greeted our pool (.take task))
    (moved : move print (handles task) action (action.exec codec pool.shared).1 = some later) :
    First print our (action.exec codec pool.shared).2 (Function.update handles task later) := by
  cases action with
  | writeFramed d link bytes => exact first.write moved
  | lookupLink d packet =>
    refine first.frame rfl rfl first.numbered (Nat.le_refl _) fun held packet' got => .inr ?_
    have holding := (hold_of_move moved).trans got
    cases found : pool.shared.manager.connections.lookup d with
    | none => simp [DaemonAction.exec, found, hold] at holding
    | some link =>
      obtain ⟨rfl, rfl⟩ : link.id = held ∧ packet = packet' := by simpa [DaemonAction.exec, found, hold] using holding
      exact ⟨first.numbered d link found, greeted d packet next link found⟩
  | manager action =>
    obtain rfl : later = handles task := by
      have same := hold_of_move moved
      cases held : handles task <;> rw [held] at same <;> exact same.symm
    have numbered : pool.shared.view.Numbered := first.numbered
    obtain ⟨after, grown⟩ := numbered.exec codec action
    rcases pool.shared.noteInbound_cases codec action with same | ⟨added, new⟩
    · exact first.frame rfl same after grown fun _ _ got => .inl got
    · rw [Function.update_eq_self]
      exact first.accept rfl added after new
  | _ =>
    exact first.frame rfl rfl first.numbered (Nat.le_refl _) fun held packet got => .inl (kept_of_move moved (by simp) got)

/-- Where nobody but the identity exchange finds an accepted link on which
nothing was written yet, the first packet that is written on it is our
identity, in whatever order the tasks take their turns. -/
theorem identity_comes_first (print : Json → String) (codec : JsonCodec) (platform : Platform) (our : Identity)
    (files : Files) (own : DeviceId) (now : Time) (outcomes : List WriteOutcome) (packetIds : List Int64)
    (turns : List (Turn LinkTask))
    (greeted : ∀ k turn, turns[k]? = some turn →
      Greeted our (atTurn print codec platform our (fresh files own now outcomes packetIds) turns k) turn)
    (k : Nat) :
    ∀ link ∈ (atTurn print codec platform our (fresh files own now outcomes packetIds) turns k).shared.inbound,
      ∀ frame, ((atTurn print codec platform our (fresh files own now outcomes packetIds) turns k).shared.framesOf link).find?
        (fun frame => !frame.reached.isEmpty) = some frame →
        ∃ id, PacketSerializer.serialize print (our.toTcpPacket id) = .ok frame.bytes := by
  have invariant : Pool.Invariant (move print) none (fun _ => True) (DaemonAction.exec codec)
      (LinkTask.program print codec platform our) (Greeted our) (fun s handles _ => First print our s handles) :=
    ⟨follows_task, fun _ _ _ _ _ first next allowed moved => first.exec next allowed moved⟩
  have start : First print our (fresh files own now outcomes packetIds) fun _ => none :=
    ⟨by simp [ManagerState.Numbered, fresh], by simp, by simp [fresh, DaemonState.framesOf], by simp [fresh], by simp [fresh],
      by simp [fresh]⟩
  obtain ⟨handles, -, first⟩ := invariant.run start greeted k
  exact first.first

section Sample

open RefusedAttempts LinkGenerations

def desktop : Identity := ⟨"desktop_0123456789abcdef0123456789", "Desktop", "desktop", 8, [], [], some 1716, none, none⟩

def desktopText : String :=
  "\x7b" ++ "\"id\":7,\"type\":\"kdeconnect.identity\",\"body\":\x7b\"deviceId\":\"desktop_0123456789abcdef0123456789\"," ++
    "\"deviceName\":\"Desktop\",\"deviceType\":\"desktop\",\"incomingCapabilities\":[],\"outgoingCapabilities\":[]," ++
    "\"protocolVersion\":8\x7d" ++ "\x7d"

/-- The texts of the two packets that are written. -/
def samplePrint (value : Json) : String :=
  match value.get "type" with
  | some (.str "kdeconnect.identity") => desktopText
  | _ => batteryText

def sampleTask : LinkTask → DaemonProgram Unit
  | .manager op => onManager (shortProgram op)
  | other => other.program samplePrint phoneCodec phonePlatform desktop

abbrev daemonAt (turns : List (Turn LinkTask)) (k : Nat) : Pool DaemonAction DaemonAction.Answer DaemonState :=
  atTurn samplePrint phoneCodec phonePlatform desktop (fresh ∅ "" 0 [] []) turns k

theorem daemonAt_short {turns : List (Turn LinkTask)} (phones : ∀ op, .spawn (.manager op) ∈ turns → op = phoneOp) (k : Nat) :
    daemonAt turns k = Pool.after (DaemonAction.exec phoneCodec) sampleTask (fresh ∅ "" 0 [] []) turns k := by
  refine Pool.after_congr (fun task spawned => ?_) k
  cases task with
  | manager op =>
    rw [phones op spawned]
    exact congrArg onManager program_phoneOp
  | _ => rfl

/-- The phone connects and is sent our identity, and then a packet. -/
def greetedFirst : List (Turn LinkTask) :=
  phoneLinks ++ (.spawn (.send phoneId (desktop.toTcpPacket 7)) :: List.replicate 3 (.take 1) : List (Turn LinkTask)) ++
  (.spawn (.send phoneId batteryPacket) :: List.replicate 4 (.take 2) : List (Turn LinkTask))

/-- What `Greeted` asks of a turn, as a check. -/
def greets (pool : Pool DaemonAction DaemonAction.Answer DaemonState) (task : Nat) : Bool :=
  match pool.next task with
  | some (lookupLink d packet) => (pool.shared.manager.connections.lookup d).all fun link =>
    !(pool.shared.framesOf link.id).all (fun frame => frame.reached.isEmpty) || packet == desktop.toTcpPacket packet.id
  | _ => true

theorem greeted_of_greets {pool : Pool DaemonAction DaemonAction.Answer DaemonState} (checked : greets pool task = true) :
    Greeted desktop pool (.take task) := by
  intro d packet next link found _ silent
  have quiet : (pool.shared.framesOf link.id).all (fun frame => frame.reached.isEmpty) = true := by
    simpa [Silent] using silent
  rw [greets, next] at checked
  exact ⟨packet.id, by simpa [found, quiet] using checked⟩

theorem phone_greeted :
    (daemonAt greetedFirst 18).shared.inbound = [0] ∧
    (daemonAt greetedFirst 18).shared.framesOf 0 =
      [⟨toUtf8 desktopText ++ [newline], {}⟩, ⟨toUtf8 batteryText ++ [newline], {}⟩] ∧
    ∀ link ∈ (daemonAt greetedFirst 18).shared.inbound,
      ∀ frame, ((daemonAt greetedFirst 18).shared.framesOf link).find? (fun frame => !frame.reached.isEmpty) = some frame →
        ∃ id, PacketSerializer.serialize samplePrint (desktop.toTcpPacket id) = .ok frame.bytes := by
  have short : ∀ k, daemonAt greetedFirst k = _ := daemonAt_short (by simp [greetedFirst, phoneLinks])
  have checked : ∀ k < 18, ∀ task < 3, greets (Pool.after (DaemonAction.exec phoneCodec) sampleTask (fresh ∅ "" 0 [] [])
      greetedFirst k) task = true := by decide +kernel
  have greeted : ∀ k turn, greetedFirst[k]? = some turn → Greeted desktop (daemonAt greetedFirst k) turn := by
    intro k turn here
    have inside : k < 18 := (List.getElem?_eq_some_iff.mp here).1
    cases turn with
    | spawn task => trivial
    | take task =>
      have small : task < 3 := by
        have cases : task = 0 ∨ task = 1 ∨ task = 2 := by simpa [greetedFirst, phoneLinks] using List.mem_of_getElem? here
        omega
      have fine := checked k inside task small
      rw [← short] at fine
      exact greeted_of_greets fine
  have first := identity_comes_first samplePrint phoneCodec phonePlatform desktop ∅ "" 0 [] [] greetedFirst greeted 18
  refine ⟨?_, ?_, ?_⟩
  · rw [short]
    decide +kernel
  · rw [short]
    decide +kernel
  · unfold daemonAt
    exact first

/-- The phone has connected, and a packet is sent to it before our identity is. -/
def greetedLate : List (Turn LinkTask) :=
  phoneLinks ++ (.spawn (.send phoneId batteryPacket) :: List.replicate 4 (.take 1) : List (Turn LinkTask))

theorem packet_before_identity :
    0 ∈ (daemonAt greetedLate 14).shared.inbound ∧
    ∃ frame, ((daemonAt greetedLate 14).shared.framesOf 0).find? (fun frame => !frame.reached.isEmpty) = some frame ∧
      ¬ ∃ id, PacketSerializer.serialize samplePrint (desktop.toTcpPacket id) = .ok frame.bytes := by
  rw [daemonAt_short (by simp [greetedLate, phoneLinks])]
  refine ⟨by decide +kernel, ⟨toUtf8 batteryText ++ [newline], {}⟩, by decide +kernel, ?_⟩
  rintro ⟨id, same⟩
  have printed : samplePrint (desktop.toTcpPacket id).encode = desktopText := by
    simp [samplePrint, Packet.encode, Identity.toTcpPacket, Identity.toPacket, Packet.new, Json.get]
  rw [PacketSerializer.serialize, printed] at same
  exact absurd (Except.ok.inj same) (by decide +kernel)

end Sample

end IdentityFirst

end RustConnect
