import Mathlib
import RustConnect.FanOut
import RustConnect.SystemVolume

namespace RustConnect

open Program

/-- What the supervisor of the system volume does: what it does to the daemon,
where a pass of `sync_peers` begins and ends, and what its sends came to. -/
inductive VolumeAction
  | daemon (action : DaemonAction)
  | passStart
  | returned (deviceId : DeviceId) (packet : Packet) (result : Except Error Unit)
  | passEnd

@[reducible] def VolumeAction.Answer : VolumeAction → Type
  | daemon action => action.Answer
  | _ => Unit

def VolumeAction.exec (codec : JsonCodec) : (action : VolumeAction) → DaemonState → action.Answer × DaemonState
  | daemon action, s => action.exec codec s
  | passStart, s => ((), s)
  | returned _ _ _, s => ((), s)
  | passEnd, s => ((), s)

abbrev VolumeProgram := Program VolumeAction VolumeAction.Answer

/-- A round of the supervisor: an event, with the sinks that are listed after
it unless it is ignored or the listing fails, or a tick. Between two rounds a
`requestSinks` may have put other sinks in the map that is sent. -/
inductive VolumeRound
  | event (newList : Option (List LocalSinkState))
  | tick
  | requested (sinks : SinkMap)

namespace VolumeSync

open VolumeAction SystemVolume

@[simp] def perform (action : VolumeAction) : VolumeProgram action.Answer := Program.call action

def onDaemon {α : Type} (program : DaemonProgram α) : VolumeProgram α := program.hoist fun action => perform (daemon action)

def consumes (peer : Device) : Bool := peer.incomingCapabilities.contains "kdeconnect.systemvolume"

def provides (peer : Device) : Bool := peer.outgoingCapabilities.contains "kdeconnect.systemvolume"

variable (print : Json → String)

/-- `Packet::new` and `send_packet`. -/
def sendNew (d : DeviceId) (packetType : String) (body : Json) : VolumeProgram Unit := do
  let id ← perform (daemon .generatePacketId)
  let result ← onDaemon (Daemon.sendPacket print d (.new id packetType body)).run
  perform (returned d (.new id packetType body) result)

/-- What a peer that was not synced yet is sent. -/
def syncPeer (sinks : List SinkState) (d : DeviceId) (peer : Device) : VolumeProgram Unit := do
  if consumes peer then
    sendNew print d "kdeconnect.systemvolume" (sinkListBody sinks)
  if provides peer then
    sendNew print d "kdeconnect.systemvolume.request" (.obj [("requestSinks", .bool true)])

/-- The loop of `sync_peers` over the connected devices. -/
def syncEach (sinks : List SinkState) : List DeviceId → List DeviceId → VolumeProgram (List DeviceId)
  | synced, [] => return synced
  | synced, d :: rest => do
    if synced.contains d then
      syncEach sinks synced rest
    else
      match ← perform (daemon (.registryGet d)) with
      | none => syncEach sinks synced rest
      | some peer =>
        syncPeer print sinks d peer
        syncEach sinks (d :: synced) rest

/-- `sync_peers`: the devices that are synced afterwards. -/
def syncPeers (sinks : List SinkState) (synced : List DeviceId) : VolumeProgram (List DeviceId) := do
  perform passStart
  let connected ← perform (daemon .fanOutTargets)
  let synced ← syncEach print sinks (synced.filter connected.contains) connected
  perform passEnd
  return synced

/-- `Packet::new` for each of the deltas. -/
def newDeltas : List Json → DaemonProgram (List Packet)
  | [] => return []
  | body :: rest => do
    let id ← Daemon.perform .generatePacketId
    return .new id "kdeconnect.systemvolume" body :: (← newDeltas rest)

/-- What `push_local_state` sends for the sinks that were listed. -/
def push (iterate : SinkMap → List SinkState) (newList : List LocalSinkState) (snapshots : Snapshots) : DaemonProgram Unit := do
  let deltas ← newDeltas (buildDeltas snapshots.localSinks newList)
  let moved := snapshots.defaultSink ≠ newDefault iterate newList || setChanged snapshots.localSinks (newMap newList)
  let sinkList := if moved then some (sinkListBody (iterate (newMap newList))) else none
  BackgroundEvent.program print (.pushLocalState deltas sinkList)

/-- The supervisor from a round on; `iterate` is the order in which a map's values are visited. -/
def supervise (iterate : SinkMap → List SinkState) : Snapshots → List DeviceId → List VolumeRound → VolumeProgram Unit
  | _, _, [] => return
  | snapshots, synced, .event (some newList) :: rest => do
    onDaemon (push print iterate newList snapshots)
    let later := (pushLocalState iterate newList snapshots).1
    let synced ← syncPeers print (iterate later.liveSinks) synced
    supervise iterate later synced rest
  | snapshots, synced, .requested sinks :: rest => supervise iterate { snapshots with liveSinks := sinks } synced rest
  | snapshots, synced, _ :: rest => do
    let synced ← syncPeers print (iterate snapshots.liveSinks) synced
    supervise iterate snapshots synced rest

end VolumeSync

/-- The supervisor, and whatever else the daemon does. -/
inductive VolumeTask
  | supervisor (snapshots : SystemVolume.Snapshots) (rounds : List VolumeRound)
  | other (program : DaemonProgram Unit)

/-- What the supervisor is built with. -/
structure VolumeSettings where
  print : Json → String
  codec : JsonCodec
  iterate : SinkMap → List SinkState

def VolumeTask.program (config : VolumeSettings) : VolumeTask → VolumeProgram Unit
  | supervisor snapshots rounds => VolumeSync.supervise config.print config.iterate snapshots [] rounds
  | other program => VolumeSync.onDaemon program

namespace VolumeSync

open VolumeAction SystemVolume

abbrev VolumePool := Pool VolumeAction VolumeAction.Answer DaemonState

/-- The daemon after the first `k` turns. -/
def atTurn (config : VolumeSettings) (start : DaemonState) (turns : List (Turn VolumeTask)) (k : Nat) : VolumePool :=
  Pool.after (VolumeAction.exec config.codec) (VolumeTask.program config) start turns k

def IsSinkList (packet : Packet) : Bool := packet.packetType == "kdeconnect.systemvolume" && (packet.body.get "sinkList").isSome

/-- A sink list was sent on the link. -/
def HasList (print : Json → String) (d : DeviceId) (link : Link) (s : DaemonState) : Prop :=
  ∃ frame ∈ s.framesOf link.id, frame.outcome.writeFramed d = .ok () ∧
    ∃ packet, IsSinkList packet = true ∧ PacketSerializer.serialize print packet = .ok frame.bytes

/-- The registry's record of the device lists the system volume among its incoming capabilities. -/
def Consumer (d : DeviceId) (s : DaemonState) : Prop := ∃ peer, s.registry.lookup d = some peer ∧ consumes peer = true

/-- The turns from the start of a pass of the task to its end. -/
structure PassTurns (config : VolumeSettings) (start : DaemonState) (turns : List (Turn VolumeTask)) (task first last : Nat) :
    Prop where
  starts : turns[first]? = some (.take task) ∧ (atTurn config start turns first).next task = some passStart
  ends : turns[last]? = some (.take task) ∧ (atTurn config start turns last).next task = some passEnd
  before : first < last
  within : ∀ j, first < j → j < last → turns[j]? = some (.take task) → (atTurn config start turns j).next task ≠ some passEnd

/-- The link of a consumer stays registered. -/
structure StaysLinked (d : DeviceId) (link : Link) (s : DaemonState) : Prop where
  linked : s.manager.connections.lookup d = some link
  consumer : Consumer d s

/-- How a supervisor stands to a device: whether it counts it as synced, and
how far it is with it in a pass. -/
inductive SyncPhase
  | idle (synced : Bool)
  | begun (synced : Bool)
  | due
  | past (synced : Bool)
  | listing
  | bound (link : Link) (packet : Packet)
  | wrote (link : Link) (packet : Packet)
  | failing
  deriving DecidableEq

namespace SyncPhase

/-- The device counts as synced. -/
def synced : SyncPhase → Bool
  | idle synced | begun synced | past synced => synced
  | _ => false

/-- A pass is under way that may yet sync the device, or has. -/
def engaged : SyncPhase → Bool
  | idle _ => false
  | past synced => synced
  | _ => true

/-- The list goes to a certain link. -/
def settled : SyncPhase → Bool
  | idle synced | begun synced | past synced => synced
  | bound _ _ | wrote _ _ => true
  | _ => false

end SyncPhase

open SyncPhase

/-- What follows when the record of a device that is not synced is read. -/
def afterRecord : Option Device → SyncPhase
  | none => past false
  | some peer => if consumes peer then listing else past true

variable (print : Json → String) (d : DeviceId)

def move : SyncPhase → (action : VolumeAction) → action.Answer → Option SyncPhase
  | idle synced, passStart, _ => some (begun synced)
  | idle synced, daemon _, _ => some (idle synced)
  | begun synced, daemon .fanOutTargets, connected =>
    some (if connected.contains d then (if synced then past true else due) else past false)
  | due, daemon (.registryGet e), record => some (if e = d then afterRecord record else due)
  | due, daemon _, _ => some due
  | due, returned _ _ _, _ => some due
  | past false, daemon (.registryGet e), record => some (if e = d then afterRecord record else past false)
  | past synced, daemon _, _ => some (past synced)
  | past synced, returned _ _ _, _ => some (past synced)
  | past synced, passEnd, _ => some (idle synced)
  | listing, daemon (.lookupLink e packet), found =>
    if e = d ∧ IsSinkList packet then some (match found with | none => failing | some link => bound link packet) else none
  | listing, daemon _, _ => some listing
  | bound link packet, daemon (.writeFramed e id bytes), outcome =>
    if e = d ∧ id = link.id ∧ PacketSerializer.serialize print packet = .ok bytes then
      some (if outcome.writeFramed d = .ok () then wrote link packet else failing)
    else none
  | bound link packet, daemon (.peerCapabilities _), _ => some (bound link packet)
  | bound _ packet, returned e other (.error _), _ => if e = d ∧ other = packet then some (past true) else none
  | wrote _ packet, returned e other (.ok ()), _ => if e = d ∧ other = packet then some (past true) else none
  | failing, daemon _, _ => some failing
  | failing, returned e packet (.error _), _ => if e = d ∧ IsSinkList packet then some (past true) else none
  | _, _, _ => none

section Follows

variable {print d} {α : Type}

/-- The moves of what the daemon is asked to do. -/
def daemonMove (print : Json → String) (d : DeviceId) (phase : SyncPhase) (action : DaemonAction) (answer : action.Answer) :
    Option SyncPhase :=
  move print d phase (daemon action) answer

theorem follows_onDaemon {phase : SyncPhase} {program : DaemonProgram α} {Q : SyncPhase → α → Prop}
    (follows : Follows (daemonMove print d) phase program Q) : Follows (move print d) phase (onDaemon program) Q := by
  refine follows.hoist fun phase action defined answer => ?_
  obtain ⟨later, moved⟩ := Option.isSome_iff_exists.mp (defined answer)
  exact ⟨later, moved, moved⟩

/-- How a send of the list can end, in the phase and with the result. -/
def Sent (packet : Packet) (later : SyncPhase) (result : Except Error Unit) : Prop :=
  (later = failing ∨ ∃ link, later = bound link packet) ∧ (∃ e, result = .error e) ∨
    (∃ link, later = wrote link packet) ∧ result = .ok ()

theorem follows_failing (program : DaemonProgram α) :
    Follows (daemonMove print d) failing program fun later _ => later = failing := by
  induction program with
  | done value => rfl
  | act action next ih => exact fun answer => ⟨failing, rfl, ih answer⟩

theorem follows_deliver {packet : Packet} {bytes : Bytes} (written : PacketSerializer.serialize print packet = .ok bytes) (link : Link) :
    Follows (daemonMove print d) (bound link packet) (Daemon.deliver d link bytes) (Sent packet) := by
  refine fun outcome => ⟨if outcome.writeFramed d = .ok () then wrote link packet else failing, if_pos ⟨rfl, rfl, written⟩, ?_⟩
  dsimp only [Program.bind]
  cases ended : outcome.writeFramed d with
  | ok => exact .inr ⟨⟨link, if_pos rfl⟩, rfl⟩
  | error e =>
    rw [if_neg (by simp)]
    refine (follows_bind _ _ _).mpr ((follows_failing _).weaken ?_)
    rintro _ _ rfl
    exact .inl ⟨.inl rfl, e, rfl⟩

theorem follows_sendList {packet : Packet} (isList : IsSinkList packet = true) :
    Follows (daemonMove print d) listing (Daemon.sendPacket print d packet).run (Sent packet) := by
  refine fun _ => ⟨listing, rfl, fun found => ?_⟩
  cases found with
  | none => exact ⟨failing, if_pos ⟨rfl, isList⟩, .inl ⟨.inl rfl, _, rfl⟩⟩
  | some link =>
    refine ⟨bound link packet, if_pos ⟨rfl, isList⟩, ?_⟩
    have checks : Follows (daemonMove print d) (bound link packet) (Daemon.checkCapability d packet).run fun later _ =>
        later = bound link packet ∧ True := by
      refine (Daemon.only_checkCapability (P := fun action => action = .peerCapabilities d) rfl packet).follows ?_
      rintro _ rfl answer
      rfl
    show Follows (daemonMove print d) (bound link packet) (do
      Daemon.checkCapability d packet
      let bytes ← PacketSerializer.serialize print packet
      ExceptT.mk (Daemon.deliver d link bytes) : ExceptT Error DaemonProgram Unit).run (Sent packet)
    refine (follows_except_bind _ _ _).mpr (checks.weaken ?_)
    rintro _ checked ⟨rfl, -⟩
    cases checked with
    | error e => exact .inl ⟨.inr ⟨link, rfl⟩, e, rfl⟩
    | ok =>
      refine (follows_except_bind _ _ _).mpr ((follows_except_ofExcept _ _).mpr ?_)
      cases written : PacketSerializer.serialize print packet with
      | error e => exact .inl ⟨.inr ⟨link, rfl⟩, e, rfl⟩
      | ok bytes => exact follows_deliver written link

/-- The list is sent, and then the device counts as synced. -/
theorem follows_sendNew_list (sinks : List SinkState) :
    Follows (move print d) listing (sendNew print d "kdeconnect.systemvolume" (sinkListBody sinks)) fun later _ => later = past true := by
  refine fun id => ⟨listing, rfl, ?_⟩
  have isList : IsSinkList (.new id "kdeconnect.systemvolume" (sinkListBody sinks)) = true := rfl
  refine (follows_bind (onDaemon _) _ _).mpr ((follows_onDaemon (follows_sendList isList)).weaken ?_)
  rintro later result (⟨rfl | ⟨link, rfl⟩, e, rfl⟩ | ⟨⟨link, rfl⟩, rfl⟩)
  · exact fun _ => ⟨past true, if_pos ⟨rfl, isList⟩, rfl⟩
  · exact fun _ => ⟨past true, if_pos ⟨rfl, rfl⟩, rfl⟩
  · exact fun _ => ⟨past true, if_pos ⟨rfl, rfl⟩, rfl⟩

/-- What a send does. -/
def Sends : VolumeAction → Prop
  | daemon (.registryGet _) | passStart | passEnd => False
  | _ => True

theorem sends_sendNew (e : DeviceId) (packetType : String) (body : Json) :
    (sendNew print e packetType body).Only Sends fun _ => True := by
  refine ⟨trivial, fun id => (only_bind (onDaemon _) _ _).mpr (Only.followedBy ?_ fun result => ⟨trivial, fun _ => trivial⟩)⟩
  have inner : Only (Daemon.sendPacket print e (.new id packetType body)).run (fun action => Sends (daemon action)) fun _ => True :=
    Daemon.only_sendPacket trivial trivial trivial (fun _ _ => trivial) fun _ _ => trivial
  exact inner.hoist fun action sends => ⟨sends, fun _ => trivial⟩

/-- A device that is due or done with is not touched by what is sent to another, or besides the list. -/
theorem move_sends {phase : SyncPhase} (apart : phase = due ∨ ∃ synced, phase = past synced) {action : VolumeAction} (sends : Sends action)
    (answer : action.Answer) : move print d phase action answer = some phase := by
  rcases apart with rfl | ⟨synced, rfl⟩
  · cases action with
    | daemon action => cases action <;> first | exact sends.elim | rfl
    | returned => rfl
    | _ => exact sends.elim
  · cases action with
    | daemon action => cases synced <;> cases action <;> first | exact sends.elim | rfl
    | returned => cases synced <;> rfl
    | _ => exact sends.elim

theorem follows_sends {phase : SyncPhase} (apart : phase = due ∨ ∃ synced, phase = past synced) {program : VolumeProgram α}
    (only : program.Only Sends fun _ => True) : Follows (move print d) phase program fun later _ => later = phase :=
  (only.follows fun _ sends answer => move_sends apart sends answer).weaken fun _ _ same => same.1

theorem sends_syncPeer (sinks : List SinkState) (e : DeviceId) (peer : Device) :
    (syncPeer print sinks e peer).Only Sends fun _ => True := by
  have requests : (if provides peer then sendNew print e "kdeconnect.systemvolume.request" (.obj [("requestSinks", .bool true)])
      else pure ()).Only Sends fun _ => True :=
    (only_ite _ _ _ _).mpr ⟨fun _ => sends_sendNew e _ _, fun _ => trivial⟩
  unfold syncPeer
  cases consumes peer with
  | false => exact requests
  | true => exact (only_bind _ _ _).mpr ((sends_sendNew e _ _).followedBy fun _ => requests)

/-- A peer whose record is read is sent the list, if it takes it, and counts as synced. -/
theorem follows_syncPeer (sinks : List SinkState) (peer : Device) :
    Follows (move print d) (afterRecord (some peer)) (syncPeer print sinks d peer) fun later _ => later = past true := by
  have requests : Follows (move print d) (past true) (if provides peer then
      sendNew print d "kdeconnect.systemvolume.request" (.obj [("requestSinks", .bool true)]) else pure ()) fun later _ =>
      later = past true :=
    follows_sends (.inr ⟨true, rfl⟩) ((only_ite _ _ _ _).mpr ⟨fun _ => sends_sendNew d _ _, fun _ => trivial⟩)
  unfold syncPeer
  rw [show afterRecord (some peer) = if consumes peer then listing else past true from rfl]
  cases consumes peer with
  | false => exact requests
  | true =>
    refine (follows_bind _ _ _).mpr ((follows_sendNew_list sinks).weaken ?_)
    rintro _ - rfl
    exact requests

/-- The device is still to come, or it is settled whether it is synced. -/
def Stands (d : DeviceId) (phase : SyncPhase) (synced rest : List DeviceId) : Prop :=
  phase = due ∧ d ∉ synced ∧ d ∈ rest ∨ phase = past (synced.contains d)

theorem follows_syncEach (sinks : List SinkState) {phase : SyncPhase} {synced rest : List DeviceId} (stands : Stands d phase synced rest) :
    Follows (move print d) phase (syncEach print sinks synced rest) fun later done => later = past (done.contains d) := by
  induction rest generalizing phase synced with
  | nil =>
    rcases stands with ⟨-, -, member⟩ | known
    · cases member
    · exact known
  | cons e rest ih =>
    unfold syncEach
    by_cases before : synced.contains e = true
    · rw [if_pos before]
      refine ih (stands.imp (fun ⟨same, outside, member⟩ => ⟨same, outside, ?_⟩) id)
      refine (List.mem_cons.mp member).resolve_left ?_
      rintro rfl
      exact outside (by simpa using before)
    · rw [if_neg before]
      have absent : e ∉ synced := by simpa using before
      by_cases here : e = d
      · subst here
        have outside : synced.contains e = false := by simpa using absent
        refine fun record => ⟨afterRecord record, ?_, ?_⟩
        · rcases stands with ⟨rfl, -, -⟩ | known
          · exact congrArg some (if_pos rfl)
          · rw [known, outside]
            exact congrArg some (if_pos rfl)
        · cases record with
          | none => exact ih (.inr (congrArg past outside.symm))
          | some peer =>
            refine (follows_bind (syncPeer print sinks e peer) _ _).mpr ((follows_syncPeer sinks peer).weaken ?_)
            rintro _ - rfl
            exact ih (.inr (congrArg past (by simp)))
      · have apart : phase = due ∨ ∃ synced, phase = past synced := stands.imp (fun due => due.1) fun known => ⟨_, known⟩
        have onward : Stands d phase synced rest := by
          refine stands.imp (fun ⟨same, outside, member⟩ => ⟨same, outside, ?_⟩) id
          exact (List.mem_cons.mp member).resolve_left (Ne.symm here)
        refine fun record => ⟨phase, ?_, ?_⟩
        · rcases apart with rfl | ⟨synced, rfl⟩
          · exact congrArg some (if_neg here)
          · cases synced with
            | true => rfl
            | false => exact congrArg some (if_neg here)
        · cases record with
          | none => exact ih onward
          | some peer =>
            refine (follows_bind (syncPeer print sinks e peer) _ _).mpr ((follows_sends apart (sends_syncPeer sinks e peer)).weaken ?_)
            rintro _ - rfl
            rcases onward with ⟨same, outside, member⟩ | known
            · exact ih (.inl ⟨same, fun inside => (List.mem_cons.mp inside).elim (Ne.symm here) outside, member⟩)
            · refine ih (.inr ?_)
              have other : (d == e) = false := by simpa using Ne.symm here
              rw [known, List.contains_cons, other, Bool.false_or]

theorem follows_syncPeers (sinks : List SinkState) (synced : List DeviceId) :
    Follows (move print d) (idle (synced.contains d)) (syncPeers print sinks synced) fun later done => later = idle (done.contains d) := by
  refine fun _ => ⟨begun (synced.contains d), rfl, fun connected => ⟨_, rfl, ?_⟩⟩
  have stands : Stands d (if connected.contains d then (if synced.contains d then past true else due) else past false)
      (synced.filter connected.contains) connected := by
    by_cases present : d ∈ connected <;> by_cases before : d ∈ synced <;> simp [Stands, present, before]
  refine (follows_bind (syncEach print sinks _ connected) _ _).mpr ((follows_syncEach sinks stands).weaken ?_)
  rintro _ done rfl
  refine fun _ => ⟨idle (done.contains d), ?_, rfl⟩
  cases done.contains d <;> rfl

theorem follows_idle (program : DaemonProgram α) (synced : Bool) :
    Follows (move print d) (idle synced) (onDaemon program) fun later _ => later = idle synced := by
  induction program with
  | done value => rfl
  | act action next ih => exact fun answer => ⟨idle synced, rfl, ih answer⟩

theorem follows_supervise (iterate : SinkMap → List SinkState) (rounds : List VolumeRound) (snapshots : Snapshots)
    (synced : List DeviceId) :
    Follows (move print d) (idle (synced.contains d)) (supervise print iterate snapshots synced rounds) fun _ _ => True := by
  have syncs {sinks : List SinkState} {synced : List DeviceId} {later : List DeviceId → VolumeProgram Unit}
      (rest : ∀ done, Follows (move print d) (idle (done.contains d)) (later done) fun _ _ => True) :
      Follows (move print d) (idle (synced.contains d)) (syncPeers print sinks synced >>= later) fun _ _ => True := by
    refine (follows_bind _ _ _).mpr ((follows_syncPeers sinks synced).weaken ?_)
    rintro _ done rfl
    exact rest done
  induction rounds generalizing snapshots synced with
  | nil => trivial
  | cons round rest ih =>
    cases round with
    | tick => exact syncs fun done => ih snapshots done
    | requested sinks => exact ih _ synced
    | event newList =>
      cases newList with
      | none => exact syncs fun done => ih snapshots done
      | some newList =>
        refine (follows_bind _ _ _).mpr ((follows_idle (push print iterate newList snapshots) _).weaken ?_)
        rintro _ - rfl
        exact syncs fun done => ih _ done

theorem follows_task (config : VolumeSettings) (task : VolumeTask) :
    Follows (move config.print d) (idle false) (task.program config) fun _ _ => True := by
  cases task with
  | supervisor snapshots rounds => exact follows_supervise config.iterate rounds snapshots []
  | other program => exact (follows_idle program false).weaken fun _ _ _ => trivial

end Follows

variable {config : VolumeSettings} {start : DaemonState} {turns : List (Turn VolumeTask)} {print : Json → String} {d : DeviceId}

def phaseOf (config : VolumeSettings) (d : DeviceId) (pool : VolumePool) (task : Nat) : SyncPhase :=
  Pool.reached (move config.print d) (idle false) pool.trace task

/-- No link is registered for the device that is not its link already. -/
def KeepsLink (d : DeviceId) (s t : DaemonState) : Prop :=
  ∀ link, t.manager.connections.lookup d = some link → s.manager.connections.lookup d = some link

/-- The device gets no link, and does not turn into a consumer, while a
supervisor counts it as synced or has looked its link up for the list, and no
list that a pass sends to it fails while it has a link. -/
structure Undisturbed (config : VolumeSettings) (d : DeviceId) (pool : VolumePool) (turn : Turn VolumeTask) : Prop where
  link : ∀ task action, turn = .take task → pool.next task = some action →
    ∀ supervisor, (phaseOf config d pool supervisor).settled = true →
      KeepsLink d pool.shared (action.exec config.codec pool.shared).2
  record : ∀ task action, turn = .take task → pool.next task = some action →
    ∀ supervisor, (phaseOf config d pool supervisor).synced = true →
      Consumer d (action.exec config.codec pool.shared).2 → Consumer d pool.shared
  list : ∀ task packet e, turn = .take task → pool.next task = some (returned d packet (.error e)) → IsSinkList packet = true →
    pool.shared.manager.connections.lookup d = none

/-- The device's link, if it takes the list, has it. -/
def Covered (print : Json → String) (d : DeviceId) (s : DaemonState) : Prop :=
  ∀ link, s.manager.connections.lookup d = some link → Consumer d s → HasList print d link s

/-- No other link is the device's. -/
def OnlyLink (d : DeviceId) (link : Link) (s : DaemonState) : Prop :=
  ∀ other, s.manager.connections.lookup d = some other → other = link

def Holds (print : Json → String) (d : DeviceId) (s : DaemonState) : SyncPhase → Prop
  | idle true | begun true | past true => Covered print d s
  | bound link packet => IsSinkList packet = true ∧ OnlyLink d link s
  | wrote link _ => HasList print d link s ∧ OnlyLink d link s
  | _ => True

theorem frame_kept (codec : JsonCodec) (action : VolumeAction) (s : DaemonState) {link : Nat} {frame : Frame}
    (member : frame ∈ s.framesOf link) : frame ∈ (action.exec codec s).2.framesOf link := by
  cases action with
  | daemon action =>
    cases action with
    | writeFramed e id bytes =>
      show frame ∈ (s.write id bytes).2.framesOf link
      by_cases same : link = id
      · subst same
        rw [DaemonState.framesOf_write]
        exact List.mem_append_left _ member
      · rw [DaemonState.framesOf_write_ne _ _ same]
        exact member
    | _ => exact member
  | _ => exact member

theorem HasList.exec {link : Link} {s : DaemonState} (has : HasList print d link s) (codec : JsonCodec) (action : VolumeAction) :
    HasList print d link (action.exec codec s).2 := by
  obtain ⟨frame, member, sent⟩ := has
  exact ⟨frame, frame_kept codec action s member, sent⟩

/-- What holds in a phase is kept by an action that disturbs nothing. -/
theorem Holds.exec {s : DaemonState} {phase : SyncPhase} (holds : Holds print d s phase) (codec : JsonCodec) {action : VolumeAction}
    (link : phase.settled = true → KeepsLink d s (action.exec codec s).2)
    (record : phase.synced = true → Consumer d (action.exec codec s).2 → Consumer d s) :
    Holds print d (action.exec codec s).2 phase := by
  have covered (settled : phase.settled = true) (synced : phase.synced = true) (before : Covered print d s) :
      Covered print d (action.exec codec s).2 := fun found here consumer =>
    (before found (link settled found here) (record synced consumer)).exec codec action
  cases phase with
  | idle synced | begun synced | past synced =>
    cases synced with
    | false => trivial
    | true => exact covered rfl rfl holds
  | bound bound packet => exact ⟨holds.1, fun other here => holds.2 other (link rfl other here)⟩
  | wrote bound packet => exact ⟨holds.1.exec codec action, fun other here => holds.2 other (link rfl other here)⟩
  | due | listing | failing => trivial

theorem covered_of_unlinked {s : DaemonState} (unlinked : s.manager.connections.lookup d = none) : Covered print d s := by
  intro link found
  rw [unlinked] at found
  cases found

theorem holds_afterRecord (s : DaemonState) : Holds print d s (afterRecord (s.registry.lookup d)) := by
  cases found : s.registry.lookup d with
  | none => trivial
  | some peer =>
    show Holds print d s (if consumes peer then listing else past true)
    cases taken : consumes peer with
    | true => trivial
    | false =>
      rintro link - ⟨other, same, takes⟩
      obtain rfl : peer = other := Option.some.inj (found.symm.trans same)
      rw [taken] at takes
      cases takes

theorem covered_of_list {link : Link} {s : DaemonState} (has : HasList print d link s) (only : OnlyLink d link s) : Covered print d s := by
  intro other found _
  obtain rfl := only other found
  exact has

/-- A frame of the list that is written on a link is on it afterwards. -/
theorem hasList_write {packet : Packet} {bytes : Bytes} (isList : IsSinkList packet = true)
    (written : PacketSerializer.serialize print packet = .ok bytes) (link : Link) (s : DaemonState)
    (sent : (s.write link.id bytes).1.writeFramed d = .ok ()) : HasList print d link (s.write link.id bytes).2 := by
  refine ⟨⟨bytes, (s.write link.id bytes).1⟩, ?_, sent, packet, isList, written⟩
  rw [DaemonState.framesOf_write]
  exact List.mem_append_right _ (List.mem_singleton_self _)

/-- A move leads to a phase in which what belongs to it holds. -/
theorem Holds.move {codec : JsonCodec} {s : DaemonState} {phase later : SyncPhase} {action : VolumeAction}
    (holds : Holds print d (action.exec codec s).2 phase)
    (moved : VolumeSync.move print d phase action (action.exec codec s).1 = some later)
    (list : ∀ packet e, action = returned d packet (.error e) → IsSinkList packet = true →
      s.manager.connections.lookup d = none) : Holds print d (action.exec codec s).2 later := by
  cases phase with
  | idle synced =>
    cases action with
    | passStart =>
      obtain rfl := Option.some.inj moved
      cases synced <;> exact holds
    | daemon action =>
      obtain rfl := Option.some.inj moved
      exact holds
    | _ => cases moved
  | begun synced =>
    cases action with
    | daemon action =>
      cases action with
      | fanOutTargets =>
        obtain rfl := Option.some.inj moved
        split
        · cases synced <;> exact holds
        · trivial
      | _ => cases moved
    | _ => cases moved
  | due =>
    cases action with
    | daemon action =>
      cases action with
      | registryGet e =>
        obtain rfl := Option.some.inj moved
        split
        · rename_i same
          subst same
          exact holds_afterRecord s
        · trivial
      | _ =>
        obtain rfl := Option.some.inj moved
        trivial
    | returned e packet result =>
      obtain rfl := Option.some.inj moved
      trivial
    | _ => cases moved
  | past synced =>
    cases action with
    | daemon action =>
      cases synced with
      | true =>
        obtain rfl := Option.some.inj moved
        exact holds
      | false =>
        cases action with
        | registryGet e =>
          obtain rfl := Option.some.inj moved
          split
          · rename_i same
            subst same
            exact holds_afterRecord s
          · trivial
        | _ =>
          obtain rfl := Option.some.inj moved
          trivial
    | passStart => cases synced <;> cases moved
    | _ => cases synced <;> obtain rfl := Option.some.inj moved <;> exact holds
  | listing =>
    cases action with
    | daemon action =>
      cases action with
      | lookupLink e packet =>
        obtain ⟨⟨rfl, isList⟩, led⟩ := Option.ite_none_right_eq_some.mp moved
        obtain rfl := Option.some.inj led
        have same : (VolumeAction.exec codec (daemon (.lookupLink e packet)) s).1 = s.manager.connections.lookup e := rfl
        rw [same]
        cases found : s.manager.connections.lookup e with
        | none => trivial
        | some link => exact ⟨isList, fun other here => Option.some.inj (here.symm.trans found)⟩
      | _ =>
        obtain rfl := Option.some.inj moved
        trivial
    | _ => cases moved
  | bound link packet =>
    cases action with
    | daemon action =>
      cases action with
      | writeFramed e id bytes =>
        obtain ⟨⟨rfl, rfl, written⟩, led⟩ := Option.ite_none_right_eq_some.mp moved
        obtain rfl := Option.some.inj led
        split
        · rename_i sent
          exact ⟨hasList_write holds.1 written link s sent, holds.2⟩
        · trivial
      | peerCapabilities e =>
        obtain rfl := Option.some.inj moved
        exact holds
      | _ => cases moved
    | returned e other result =>
      cases result with
      | ok => cases moved
      | error e =>
        obtain ⟨⟨rfl, rfl⟩, led⟩ := Option.ite_none_right_eq_some.mp moved
        obtain rfl := Option.some.inj led
        exact covered_of_unlinked (list _ _ rfl holds.1)
    | _ => cases moved
  | wrote link packet =>
    cases action with
    | returned e other result =>
      cases result with
      | ok =>
        obtain ⟨-, led⟩ := Option.ite_none_right_eq_some.mp moved
        obtain rfl := Option.some.inj led
        exact covered_of_list holds.1 holds.2
      | error e => cases moved
    | _ => cases moved
  | failing =>
    cases action with
    | daemon action =>
      obtain rfl := Option.some.inj moved
      trivial
    | returned e packet result =>
      cases result with
      | ok => cases moved
      | error e =>
        obtain ⟨⟨rfl, isList⟩, led⟩ := Option.ite_none_right_eq_some.mp moved
        obtain rfl := Option.some.inj led
        exact covered_of_unlinked (list _ _ rfl isList)
    | _ => cases moved

/-- Every task is in the phase its trace led it to, and what belongs to the phase holds. -/
structure Kept (config : VolumeSettings) (d : DeviceId) (s : DaemonState) (phases : Nat → SyncPhase)
    (trace : List (Nat × Σ action, VolumeAction.Answer action)) : Prop where
  reached : ∀ task, Pool.reached (move config.print d) (idle false) trace task = phases task
  holds : ∀ task, Holds config.print d s (phases task)

theorem invariant (config : VolumeSettings) (d : DeviceId) :
    Pool.Invariant (move config.print d) (idle false) (fun _ => True) (VolumeAction.exec config.codec) (VolumeTask.program config)
      (Undisturbed config d) (Kept config d) where
  follows task := follows_task config task
  kept := by
    intro pool phases task action later kept next undisturbed moved
    have stays (other : Nat) : Holds config.print d (action.exec config.codec pool.shared).2 (phases other) := by
      refine (kept.holds other).exec config.codec (fun settled => ?_) fun synced => ?_
      · exact undisturbed.link task action rfl next other (by rw [phaseOf, kept.reached]; exact settled)
      · exact undisturbed.record task action rfl next other (by rw [phaseOf, kept.reached]; exact synced)
    refine ⟨Pool.reached_append kept.reached moved, fun other => ?_⟩
    by_cases same : other = task
    · subst same
      rw [Function.update_self]
      refine (stays other).move moved fun packet e same => ?_
      subst same
      exact undisturbed.list other packet e rfl next
    · rw [Function.update_of_ne same]
      exact stays other

theorem phased_atTurn (config : VolumeSettings) (start : DaemonState) (turns : List (Turn VolumeTask)) (d : DeviceId) (k : Nat) :
    ∃ phases, Pool.Phased (move config.print d) (idle false) (fun _ => True) (atTurn config start turns k) phases ∧
      ∀ task, phaseOf config d (atTurn config start turns k) task = phases task := by
  have traced : Pool.Invariant (move config.print d) (idle false) (fun _ => True) (VolumeAction.exec config.codec)
      (VolumeTask.program config) (fun _ _ => True)
      (fun _ phases trace => ∀ task, Pool.reached (move config.print d) (idle false) trace task = phases task) :=
    ⟨fun task => follows_task config task, fun _ _ _ _ _ reached _ _ moved => Pool.reached_append reached moved⟩
  exact traced.run (fun _ => rfl) (fun _ _ _ => trivial) k

/-- The states in a run that nothing disturbs. -/
theorem kept_atTurn (undisturbed : ∀ k turn, turns[k]? = some turn → Undisturbed config d (atTurn config start turns k) turn) (k : Nat) :
    ∃ phases, Pool.Phased (move config.print d) (idle false) (fun _ => True) (atTurn config start turns k) phases ∧
      Kept config d (atTurn config start turns k).shared phases (atTurn config start turns k).trace :=
  (invariant config d).run ⟨fun _ => rfl, fun _ => trivial⟩ undisturbed k

/-- A pass does not leave out a consumer that has a link. -/
theorem engaged_move {codec : JsonCodec} {s : DaemonState} {phase later : SyncPhase} {action : VolumeAction} {link : Link}
    (engaged : phase.engaged = true) (moved : move print d phase action (action.exec codec s).1 = some later) (going : action ≠ passEnd)
    (stays : StaysLinked d link s) : later.engaged = true := by
  cases phase with
  | idle synced => cases engaged
  | begun synced =>
    cases action with
    | daemon action =>
      cases action with
      | fanOutTargets =>
        obtain rfl := Option.some.inj moved
        have member : d ∈ s.manager.connections.keys := AList.mem_keys.mp (AList.lookup_isSome.mp (by rw [stays.linked]; rfl))
        have sampled : ((daemon .fanOutTargets).exec codec s).1.contains d = true := List.contains_iff_mem.mpr member
        rw [if_pos sampled]
        cases synced <;> rfl
      | _ => cases moved
    | _ => cases moved
  | due =>
    cases action with
    | daemon action =>
      cases action with
      | registryGet e =>
        obtain rfl := Option.some.inj moved
        split
        · rename_i same
          subst same
          obtain ⟨peer, found, consumed⟩ := stays.consumer
          have read : ((daemon (.registryGet e)).exec codec s).1 = some peer := found
          rw [read, afterRecord, if_pos consumed]
          rfl
        · rfl
      | _ =>
        obtain rfl := Option.some.inj moved
        rfl
    | returned e packet result =>
      obtain rfl := Option.some.inj moved
      rfl
    | _ => cases moved
  | past synced =>
    obtain rfl : synced = true := engaged
    cases action with
    | passEnd => exact absurd rfl going
    | passStart => cases moved
    | _ =>
      obtain rfl := Option.some.inj moved
      rfl
  | listing =>
    cases action with
    | daemon action =>
      cases action with
      | lookupLink e packet =>
        obtain ⟨-, led⟩ := Option.ite_none_right_eq_some.mp moved
        obtain rfl := Option.some.inj led
        split <;> rfl
      | _ =>
        obtain rfl := Option.some.inj moved
        rfl
    | _ => cases moved
  | bound other packet =>
    cases action with
    | daemon action =>
      cases action with
      | writeFramed e id bytes =>
        obtain ⟨-, led⟩ := Option.ite_none_right_eq_some.mp moved
        obtain rfl := Option.some.inj led
        split <;> rfl
      | peerCapabilities e =>
        obtain rfl := Option.some.inj moved
        rfl
      | _ => cases moved
    | returned e other result =>
      cases result with
      | ok => cases moved
      | error e =>
        obtain ⟨-, led⟩ := Option.ite_none_right_eq_some.mp moved
        obtain rfl := Option.some.inj led
        rfl
    | _ => cases moved
  | wrote other packet =>
    cases action with
    | returned e other result =>
      cases result with
      | ok =>
        obtain ⟨-, led⟩ := Option.ite_none_right_eq_some.mp moved
        obtain rfl := Option.some.inj led
        rfl
      | error e => cases moved
    | _ => cases moved
  | failing =>
    cases action with
    | daemon action =>
      obtain rfl := Option.some.inj moved
      rfl
    | returned e packet result =>
      cases result with
      | ok => cases moved
      | error e =>
        obtain ⟨-, led⟩ := Option.ite_none_right_eq_some.mp moved
        obtain rfl := Option.some.inj led
        rfl
    | _ => cases moved

/-- The move that a task makes in its turn. -/
theorem phaseOf_take {task : Nat} {action : VolumeAction} {k : Nat} (here : turns[k]? = some (.take task))
    (about : (atTurn config start turns k).next task = some action) :
    ∃ later, move config.print d (phaseOf config d (atTurn config start turns k) task) action
        (action.exec config.codec (atTurn config start turns k).shared).1 = some later ∧
      phaseOf config d (atTurn config start turns (k + 1)) task = later := by
  obtain ⟨phases, phased, reached⟩ := phased_atTurn config start turns d k
  obtain ⟨later, moved⟩ := phased.moves about (action.exec config.codec (atTurn config start turns k).shared).1
  have onward : atTurn config start turns (k + 1) = (atTurn config start turns k).step (VolumeAction.exec config.codec)
      (VolumeTask.program config) (.take task) := History.stateAt_succ here
  rw [← reached task] at moved
  refine ⟨later, moved, ?_⟩
  unfold phaseOf at moved ⊢
  rw [onward, Pool.trace_of_next about, Pool.reached_concat, moved, Option.getD_some]

theorem phaseOf_still {task k : Nat} (still : turns[k]? = some (.take task) → (atTurn config start turns k).next task = none) :
    phaseOf config d (atTurn config start turns (k + 1)) task = phaseOf config d (atTurn config start turns k) task := by
  cases here : turns[k]? with
  | none =>
    have onward : atTurn config start turns (k + 1) = atTurn config start turns k := History.stateAt_past_end here
    rw [onward]
  | some turn =>
    have onward : atTurn config start turns (k + 1) = (atTurn config start turns k).step (VolumeAction.exec config.codec)
        (VolumeTask.program config) turn := History.stateAt_succ here
    rw [onward]
    refine Pool.reached_still fun same => ?_
    subst same
    exact still here

/-- Between its start and its end a pass is engaged with a consumer that keeps its link. -/
theorem engaged_within {task first last : Nat} (pass : PassTurns config start turns task first last) {link : Link}
    (stays : ∀ j, first ≤ j → j ≤ last → StaysLinked d link (atTurn config start turns j).shared) (j : Nat) (after : first < j)
    (before : j ≤ last) : (phaseOf config d (atTurn config start turns j) task).engaged = true := by
  induction j, after using Nat.le_induction with
  | base =>
    obtain ⟨later, moved, same⟩ := phaseOf_take (d := d) pass.starts.1 pass.starts.2
    rw [same]
    cases begins : phaseOf config d (atTurn config start turns first) task with
    | idle synced =>
      rw [begins] at moved
      obtain rfl := Option.some.inj moved
      rfl
    | past synced =>
      rw [begins] at moved
      cases synced <;> cases moved
    | _ =>
      rw [begins] at moved
      cases moved
  | succ j after ih =>
    have engaged := ih (Nat.le_of_succ_le before)
    by_cases taken : turns[j]? = some (.take task) ∧ ((atTurn config start turns j).next task).isSome
    · obtain ⟨action, about⟩ := Option.isSome_iff_exists.mp taken.2
      obtain ⟨later, moved, same⟩ := phaseOf_take (d := d) taken.1 about
      rw [same]
      refine engaged_move engaged moved ?_ (stays j (Nat.le_of_lt after) (Nat.le_of_succ_le before))
      rintro rfl
      exact pass.within j after before taken.1 about
    · rw [phaseOf_still fun here => Option.not_isSome_iff_eq_none.mp fun some => taken ⟨here, some⟩]
      exact engaged

/-- In a run in which the device gets no link and does not turn into a
consumer while a supervisor counts it as synced, and in which no list fails
that a pass sends to it while it has a link, a consumer that keeps its link
throughout a pass has had the list on it when the pass ends. -/
theorem list_on_link (config : VolumeSettings) (start : DaemonState) (turns : List (Turn VolumeTask)) (d : DeviceId)
    (undisturbed : ∀ k turn, turns[k]? = some turn → Undisturbed config d (atTurn config start turns k) turn)
    (task first last : Nat) (pass : PassTurns config start turns task first last) (link : Link)
    (stays : ∀ j, first ≤ j → j ≤ last → StaysLinked d link (atTurn config start turns j).shared) :
    HasList config.print d link (atTurn config start turns last).shared := by
  have engaged := engaged_within pass stays last pass.before (Nat.le_refl last)
  obtain ⟨later, moved, -⟩ := phaseOf_take (d := d) pass.ends.1 pass.ends.2
  obtain ⟨phases, -, kept⟩ := kept_atTurn undisturbed last
  have here := stays last (Nat.le_of_lt pass.before) (Nat.le_refl last)
  have holds := kept.holds task
  rw [← kept.reached task] at holds
  change Holds config.print d _ (phaseOf config d (atTurn config start turns last) task) at holds
  cases ended : phaseOf config d (atTurn config start turns last) task with
  | past synced =>
    rw [ended] at engaged holds
    obtain rfl : synced = true := engaged
    exact holds link here.linked here.consumer
  | _ =>
    rw [ended] at moved
    cases moved

/-- No send to the device fails between the two turns, and nothing that was written on its link failed. -/
structure SendsSucceed (config : VolumeSettings) (start : DaemonState) (turns : List (Turn VolumeTask)) (d : DeviceId) (link : Link)
    (first last : Nat) : Prop where
  returns : ∀ j, first ≤ j → j ≤ last → ∀ task packet result, turns[j]? = some (.take task) →
    (atTurn config start turns j).next task = some (returned d packet result) → result = .ok ()
  frames : ∀ frame ∈ (atTurn config start turns last).shared.framesOf link.id, frame.outcome.writeFramed d = .ok ()

section Sample

/-- A phone that takes the list. -/
def listener : Device := { Device.new "phone" "Phone" .phone 8 0 with incomingCapabilities := ["kdeconnect.systemvolume"] }

def phoneLinked : DaemonState where
  manager := { connections := AList.insert "phone" ⟨0, 1, some [1]⟩ ∅, generations := AList.insert "phone" 1 ∅, nextLink := 1 }
  registry := AList.insert "phone" listener ∅

def desk : VolumeSettings where
  print _ := ""
  codec := RefusedAttempts.phoneCodec
  iterate _ := []

/-- A pass that sends the list to the phone. -/
def firstPass : List (Turn VolumeTask) := .spawn (.supervisor {} [.tick, .tick]) :: List.replicate 10 (.take 0)

def fails : VolumeAction → Bool
  | returned _ _ (.error _) => true
  | _ => false

/-- The action changes neither the link nor the record of the phone, and tells of no failure. -/
def Calm (s : DaemonState) (action : VolumeAction) : Prop :=
  (action.exec desk.codec s).2.manager.connections.lookup "phone" = s.manager.connections.lookup "phone" ∧
    (action.exec desk.codec s).2.registry.lookup "phone" = s.registry.lookup "phone" ∧ fails action = false

instance (s : DaemonState) (action : VolumeAction) : Decidable (Calm s action) := inferInstanceAs (Decidable (_ ∧ _))

def calm (pool : VolumePool) : Turn VolumeTask → Bool
  | .spawn _ => true
  | .take task => (pool.next task).all fun action => Calm pool.shared action

theorem undisturbed_of_calm {pool : VolumePool} {turn : Turn VolumeTask} (passes : calm pool turn = true) :
    Undisturbed desk "phone" pool turn := by
  have each (task : Nat) (action : VolumeAction) (same : turn = .take task) (about : pool.next task = some action) :
      Calm pool.shared action := by
    rw [same, calm, about, Option.all_some] at passes
    exact of_decide_eq_true passes
  refine ⟨fun task action same about _ _ link found => ?_, fun task action same about _ _ => ?_, fun task packet e same about => ?_⟩
  · rw [← (each task action same about).1]
    exact found
  · rintro ⟨peer, found, consumed⟩
    exact ⟨peer, (each task action same about).2.1 ▸ found, consumed⟩
  · exact absurd (each task _ same about).2.2 nofun

theorem firstPass_turns : PassTurns desk phoneLinked firstPass 0 1 10 where
  starts := ⟨rfl, rfl⟩
  ends := ⟨rfl, rfl⟩
  before := by decide
  within := by
    intro j after before taken about
    interval_cases j <;> cases about

/-- The phone that is linked when the pass starts has the list when it ends. -/
theorem phone_has_list : HasList desk.print "phone" ⟨0, 1, some [1]⟩ (atTurn desk phoneLinked firstPass 10).shared := by
  refine list_on_link desk phoneLinked firstPass "phone" (fun k turn here => ?_) 0 1 10 firstPass_turns ⟨0, 1, some [1]⟩ fun j after before => ?_
  · have passes : Pool.along (VolumeAction.exec desk.codec) (VolumeTask.program desk) calm (fun _ => true) (Pool.start phoneLinked)
        firstPass = true := by decide +kernel
    exact undisturbed_of_calm ((Pool.along_after passes).1 k turn here)
  · interval_cases j <;> exact ⟨rfl, listener, rfl, rfl⟩

/-- The phone is dialled while it has a link. -/
def redial : DaemonProgram Unit := do
  let _ ← Daemon.onManager (ConnectionManager.registerOutbound
    ⟨"phone", "Phone", "phone", 8, ["kdeconnect.systemvolume"], [], none, none, none⟩ (some [1]) (.new []))

/-- The phone's link is replaced after a pass that sent it the list, and another pass follows. -/
def replacedLink : List (Turn VolumeTask) :=
  firstPass ++ (.spawn (.other redial) :: List.replicate 8 (.take 1) : List (Turn VolumeTask)) ++
  List.replicate 3 (Turn.take 0)

theorem replacedLink_turns : PassTurns desk phoneLinked replacedLink 0 20 22 where
  starts := ⟨rfl, rfl⟩
  ends := ⟨rfl, rfl⟩
  before := by decide
  within := by
    intro j after before taken about
    interval_cases j
    cases about

/-- The link that replaces the one with the list never gets it. -/
theorem replaced_link_without_list :
    ¬∀ (config : VolumeSettings) (start : DaemonState) (turns : List (Turn VolumeTask)) (d : DeviceId) (task first last : Nat)
      (link : Link), PassTurns config start turns task first last → SendsSucceed config start turns d link first last →
      (∀ j, first ≤ j → j ≤ last → StaysLinked d link (atTurn config start turns j).shared) →
      HasList config.print d link (atTurn config start turns last).shared := by
  intro all
  have silent : (atTurn desk phoneLinked replacedLink 22).shared.framesOf 1 = [] := rfl
  have succeed : SendsSucceed desk phoneLinked replacedLink "phone" ⟨1, 2, some [1]⟩ 20 22 := by
    refine ⟨fun j after before task packet result taken about => ?_, fun frame member => ?_⟩
    · interval_cases j <;> cases taken <;> cases about
    · rw [silent] at member
      cases member
  have linked (j : Nat) (after : 20 ≤ j) (before : j ≤ 22) :
      StaysLinked "phone" ⟨1, 2, some [1]⟩ (atTurn desk phoneLinked replacedLink j).shared := by
    interval_cases j <;> exact ⟨rfl, listener, rfl, rfl⟩
  obtain ⟨frame, member, -⟩ := all desk phoneLinked replacedLink "phone" 0 20 22 ⟨1, 2, some [1]⟩ replacedLink_turns succeed linked
  rw [silent] at member
  cases member

end Sample

end VolumeSync

end RustConnect
