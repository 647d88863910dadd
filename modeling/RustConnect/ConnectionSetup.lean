import RustConnect.Base.Trail
import RustConnect.IdentityFirst
import RustConnect.PairAccept

namespace RustConnect

open Program DaemonAction Daemon

namespace ConnectionSetup

variable (print : Json → String)

/-- `ensure_and_transition` to Connected: a device that is not known gets a
record, and a known one takes over what the identity tells. -/
def ensureConnected (deviceId : DeviceId) (identity : Identity) : DaemonProgram Unit := do
  if ← perform (registry (.contains deviceId)) then
    if ← perform (registry (.adoptIdentity deviceId identity)) then
      perform (tryTransition deviceId .connected)
  else
    let now ← perform (pairing .now)
    let _ ← perform (registry (.add (.ofIdentity deviceId identity now)))
    perform (tryTransition deviceId .connected)

/-- The request that a call to pair has left behind, sent when the link is up. -/
def sendQueuedRequest (deviceId : DeviceId) : DaemonProgram Unit := do
  if !(← onPairing (PairingHandler.isPaired deviceId)) then
    if let some timestamp ← onPairing (PairingHandler.pendingOutgoingTimestamp deviceId) then
      let id ← perform generatePacketId
      attempt (sendPacket print deviceId (.pairRequestWithTimestamp id timestamp))

def initPlugins (deviceId : DeviceId) : DaemonProgram Unit := do
  if ← onPairing (PairingHandler.isPaired deviceId) then
    perform (spawnPluginInit deviceId)

/-- `run_connection_setup`; `false` when the link was replaced in the meantime. -/
def runConnectionSetup (deviceId : DeviceId) (remoteIdentity : Identity) (generation : UInt64) : DaemonProgram Bool := do
  if ← onManager (ConnectionManager.startLoop deviceId generation) then
    ensureConnected deviceId remoteIdentity
    sendQueuedRequest print deviceId
    initPlugins deviceId
    return true
  else
    return false

/-- What `handle_connection` does with a link between the exchange of
identities and the packet loop. -/
def inboundSetup (deviceId : DeviceId) (remoteIdentity : Identity) (generation : UInt64) : DaemonProgram Bool := do
  if ← onManager (ConnectionManager.startLoop deviceId generation) then
    ensureConnected deviceId remoteIdentity
    initPlugins deviceId
    return true
  else
    return false

end ConnectionSetup

/-- A link is made ready after it is registered, by the side that dialled or by the one that accepted. -/
inductive SetUp
  | outbound (deviceId : DeviceId) (remoteIdentity : Identity) (generation : UInt64)
  | inbound (patience : Nat) (deviceId : DeviceId) (plaintextIdentity : Identity) (generation : UInt64)

namespace SetUp

def deviceId : SetUp → DeviceId
  | outbound d _ _ => d
  | inbound _ d _ _ => d

def generation : SetUp → UInt64
  | outbound _ _ generation => generation
  | inbound _ _ _ generation => generation

def dialled : SetUp → Bool
  | outbound _ _ _ => true
  | inbound _ _ _ _ => false

def program (config : DaemonSettings) : SetUp → DaemonProgram Bool
  | outbound d remoteIdentity generation => ConnectionSetup.runConnectionSetup config.print d remoteIdentity generation
  | inbound patience d plaintextIdentity generation => do
    if ← runExchange config.print config.codec config.platform config.our patience plaintextIdentity d generation then
      ConnectionSetup.inboundSetup d plaintextIdentity generation
    else
      return false

end SetUp

/-- `handle_connection` up to the packet loop, whose timeouts strike after so
many steps: the link that was made ready. -/
def handleConnection (config : DaemonSettings) (acceptPatience exchangePatience : Nat) (peer : InboundPeer) :
    DaemonProgram (Option (DeviceId × UInt64)) := do
  match ← (onManager (ConnectionManager.acceptIncoming config.codec config.platform peer).run).cutOff timeoutElapsed acceptPatience with
  | some (.ok (deviceId, remoteIdentity, generation)) =>
    if ← (SetUp.inbound exchangePatience deviceId remoteIdentity generation).program config then
      return some (deviceId, generation)
    else
      return none
  | _ => return none

/-- The tasks of the daemon, the calls of the API, and the set-ups of links. -/
inductive SetUpTask
  | api (task : ApiTask)
  | link (setUp : SetUp)

def SetUpTask.program (config : DaemonSettings) : SetUpTask → DaemonProgram Unit
  | api task => task.program config
  | link setUp => do let _ ← setUp.program config

namespace ConnectionSetup

/-- The daemon after the first `k` turns. -/
def atTurn (config : DaemonSettings) (start : DaemonState) (turns : List (Turn SetUpTask)) (k : Nat) :
    Pool DaemonAction DaemonAction.Answer DaemonState :=
  Pool.after (DaemonAction.exec config.codec) (SetUpTask.program config) start turns k

/-- The device is not paired, and this request of ours is waiting and has not expired. -/
structure Queued (d : DeviceId) (request : PairingRequest) (s : DaemonState) : Prop where
  unpaired : s.pairing.paired.lookup d = none
  waiting : s.pairing.outgoing.lookup d = some request
  live : request.expiredAt s.pairing.now = false

/-- The answers that a task gets while the request is queued. -/
def Answered (codec : JsonCodec) (d : DeviceId) (request : PairingRequest) (entry : Σ action : DaemonAction, action.Answer) : Prop :=
  ∃ s, Queued d request s ∧ entry.2 = (entry.1.exec codec s).1

variable {config : DaemonSettings} {codec : JsonCodec} {print : Json → String} {d : DeviceId} {request : PairingRequest}
  {trace : List (Σ action : DaemonAction, action.Answer)}

theorem isPaired_answer {answer : Bool} (trail : Trail (onPairing (PairingHandler.isPaired d)) trace (.done answer))
    (queued : ∀ entry ∈ trace, Answered codec d request entry) : answer = false := by
  obtain rfl := Trail.of_call trail
  obtain ⟨s, queued, same⟩ := queued _ List.mem_cons_self
  simpa [exec, PairingAction.exec, queued.unpaired] using same

theorem pendingOutgoingTimestamp_answer {answer : Option Int}
    (trail : Trail (onPairing (PairingHandler.pendingOutgoingTimestamp d)) trace (.done answer))
    (queued : ∀ entry ∈ trace, Answered codec d request entry) : answer = some request.pairTimestamp := by
  obtain ⟨found, rest, rfl, later⟩ := Trail.of_act trail
  obtain ⟨s, here, same⟩ := queued _ List.mem_cons_self
  obtain rfl : found = some request := by simpa [exec, PairingAction.exec, PairingState.queue, here.waiting] using same
  obtain ⟨moment, rest, rfl, checked⟩ := Trail.of_act later
  obtain ⟨s', here', clock⟩ := queued ⟨pairing .now, moment⟩ (by simp)
  have unexpired : request.expiredAt moment = false := by
    rw [show moment = s'.pairing.now from clock]
    exact here'.live
  have ended : Trail (Program.hoist (fun action => perform (pairing action))
      (if request.expiredAt moment = true then pure none else pure (some request.pairTimestamp))) rest (.done answer) := checked
  rw [unexpired] at ended
  cases (Trail.of_done ended).2
  rfl

/-- While the request is queued, it is handed to `send_packet`. -/
theorem sendQueuedRequest_sends (trail : Trail (sendQueuedRequest print d) trace (.done ()))
    (queued : ∀ entry ∈ trace, Answered codec d request entry) :
    ∃ id, ⟨sendStart d (.pairRequestWithTimestamp id request.pairTimestamp), ()⟩ ∈ trace := by
  obtain ⟨first, rest, paired, rfl, asked, unpaired⟩ := Trail.of_bind trail
  obtain rfl := isPaired_answer asked fun entry member => queued entry (List.mem_append_left _ member)
  obtain ⟨second, rest, answer, rfl, looked, found⟩ := Trail.of_bind unpaired
  obtain rfl := pendingOutgoingTimestamp_answer looked fun entry member =>
    queued entry (List.mem_append_right _ (List.mem_append_left _ member))
  obtain ⟨id, rest, rfl, numbered⟩ := Trail.of_act found
  obtain ⟨_, rest, rfl, -⟩ := Trail.of_act numbered
  exact ⟨id, by simp⟩

/-- It is not a request to be paired that is handed to `send_packet` for the device. -/
def NoRequest (d : DeviceId) (action : DaemonAction) : Prop :=
  ∀ id timestamp, action ≠ sendStart d (.pairRequestWithTimestamp id timestamp)

section Footprint

variable {P : DaemonAction → Prop}

theorem only_ensureConnected (identity : Identity) (known : P (registry (.contains d))) (adopts : P (registry (.adoptIdentity d identity)))
    (clock : P (pairing .now)) (adds : ∀ now, P (registry (.add (.ofIdentity d identity now))))
    (transition : P (tryTransition d .connected)) : (ensureConnected d identity).Only P fun _ => True := by
  refine ⟨known, fun there => ?_⟩
  cases there with
  | true =>
    refine ⟨adopts, fun still => ?_⟩
    cases still with
    | true => exact ⟨transition, fun _ => trivial⟩
    | false => trivial
  | false => exact ⟨clock, fun _ => ⟨adds _, fun _ => ⟨transition, fun _ => trivial⟩⟩⟩

theorem only_initPlugins (inner : ∀ action, P (pairing action)) (spawns : P (spawnPluginInit d)) :
    (initPlugins d).Only P fun _ => True := by
  refine ⟨inner _, fun paired => ?_⟩
  cases paired with
  | true => exact ⟨spawns, fun _ => trivial⟩
  | false => trivial

theorem only_sendQueuedRequest (inner : ∀ action, P (pairing action)) (number : P generatePacketId)
    (sends : ∀ id timestamp, Only (attempt (sendPacket print d (.pairRequestWithTimestamp id timestamp))) P fun _ => True) :
    (sendQueuedRequest print d).Only P fun _ => True := by
  refine (only_bind _ _ _).mpr ((only_onPairing inner _).followedBy fun paired => ?_)
  cases paired with
  | true => trivial
  | false =>
    refine (only_bind _ _ _).mpr ((only_onPairing inner _).followedBy fun timestamp => ?_)
    cases timestamp with
    | none => trivial
    | some timestamp => exact ⟨number, fun id => sends id timestamp⟩

end Footprint

/-- What is done to make a link ready. -/
def Prepares : DaemonAction → Prop
  | manager .newToken | manager (.registerCancelTokenIfCurrent _ _ _) => True
  | manager action => action.Serves
  | registry (.upsertDevice _) | dialing _ | fanOutTargets | pairCalled _ | pairReturned _ _ | keyShown _ _ | .pass _ => False
  | _ => True

theorem prepares_of_serves {action : ManagerAction} (serves : action.Serves) : Prepares (manager action) := by
  cases action <;> trivial

theorem prepares_sendPacket (d : DeviceId) (packet : Packet) : Only (sendPacket print d packet).run Prepares fun _ => True :=
  only_sendPacket trivial trivial trivial (fun _ _ => trivial) fun _ => prepares_of_serves

theorem prepares_ensureConnected (identity : Identity) : (ensureConnected d identity).Only Prepares fun _ => True :=
  only_ensureConnected identity trivial trivial trivial (fun _ => trivial) trivial

theorem prepares_initPlugins : (initPlugins d).Only Prepares fun _ => True := only_initPlugins (fun _ => trivial) trivial

theorem prepares_runConnectionSetup (identity : Identity) (generation : UInt64) :
    (runConnectionSetup print d identity generation).Only Prepares fun _ => True := by
  have queued : (sendQueuedRequest print d).Only Prepares fun _ => True :=
    only_sendQueuedRequest (fun _ => trivial) trivial fun _ _ => (only_attempt _ _).mpr (prepares_sendPacket d _)
  have starts : (onManager (ConnectionManager.startLoop d generation)).Only Prepares fun _ => True :=
    ⟨trivial, fun _ => ⟨trivial, fun _ => trivial⟩⟩
  refine (only_bind _ _ _).mpr (starts.followedBy fun up => ?_)
  cases up with
  | false => trivial
  | true =>
    refine (only_bind _ _ _).mpr ((prepares_ensureConnected identity).followedBy fun _ => ?_)
    refine (only_bind _ _ _).mpr (queued.followedBy fun _ => ?_)
    exact (only_bind _ _ _).mpr (prepares_initPlugins.followedBy fun _ => trivial)

theorem only_inboundSetup (identity : Identity) (generation : UInt64) :
    (inboundSetup d identity generation).Only (NoRequest d) fun _ => True := by
  refine (only_bind _ _ _).mpr ((only_onManager (fun _ _ _ => nofun) _).followedBy fun up => ?_)
  cases up with
  | false => trivial
  | true =>
    have connected : (ensureConnected d identity).Only (NoRequest d) fun _ => True :=
      only_ensureConnected identity (fun _ _ => nofun) (fun _ _ => nofun) (fun _ _ => nofun) (fun _ _ _ => nofun) fun _ _ => nofun
    have plugins : (initPlugins d).Only (NoRequest d) fun _ => True := only_initPlugins (fun _ _ _ => nofun) fun _ _ => nofun
    refine (only_bind _ _ _).mpr (connected.followedBy fun _ => ?_)
    exact (only_bind _ _ _).mpr (plugins.followedBy fun _ => trivial)

/-- The set-up of an accepted link hands no request over. -/
theorem only_inbound (config : DaemonSettings) (patience : Nat) (identity : Identity) (generation : UInt64) :
    ((SetUpTask.link (.inbound patience d identity generation)).program config).Only (NoRequest d) fun _ => True := by
  have sends (id : Int64) : Only (sendPacket config.print d (config.our.toTcpPacket id)).run (NoRequest d) fun _ => True := by
    refine only_sendPacket (fun id' timestamp same => ?_) (fun _ _ => nofun) (fun _ _ => nofun) (fun _ _ _ _ => nofun)
      fun _ _ _ _ => nofun
    have types : "kdeconnect.identity" = "kdeconnect.pair" := congrArg Packet.packetType (DaemonAction.sendStart.inj same).2
    exact absurd types (by decide)
  have exchange := only_runExchange config.codec config.platform (fun _ _ _ _ => nofun) (fun _ _ => nofun) sends (fun _ _ => nofun)
    (fun _ _ => nofun) (fun _ _ => nofun) patience identity generation
  refine (only_bind _ _ _).mpr (Only.followedBy ?_ fun _ => trivial)
  refine (only_bind _ _ _).mpr (exchange.followedBy fun exchanged => ?_)
  cases exchanged with
  | false => trivial
  | true => exact only_inboundSetup identity generation

theorem startLoop_trail {generation : UInt64} {up : Bool}
    (trail : Trail (onManager (ConnectionManager.startLoop d generation)) trace (.done up)) :
    ∃ token, trace = [⟨manager .newToken, token⟩, ⟨manager (.registerCancelTokenIfCurrent d token generation), up⟩] := by
  obtain ⟨token, rest, rfl, numbered⟩ := Trail.of_act trail
  obtain ⟨answer, rest, rfl, registered⟩ := Trail.of_act numbered
  obtain ⟨rfl, same⟩ := Trail.of_done registered
  cases same
  exact ⟨token, rfl⟩

/-- The set-up of a dialled link that is still current hands the queued request over. -/
theorem runConnectionSetup_sends {identity : Identity} {generation : UInt64} {up : Bool}
    (trail : Trail (runConnectionSetup print d identity generation) trace (.done up))
    (registered : ∃ token, ⟨manager (.registerCancelTokenIfCurrent d token generation), true⟩ ∈ trace)
    (queued : ∀ entry ∈ trace, Answered codec d request entry) :
    ∃ id, ⟨sendStart d (.pairRequestWithTimestamp id request.pairTimestamp), ()⟩ ∈ trace := by
  obtain ⟨first, rest, current, rfl, started, later⟩ := Trail.of_bind trail
  obtain ⟨token, rfl⟩ := startLoop_trail started
  cases current with
  | false =>
    obtain ⟨rfl, -⟩ := Trail.of_done later
    obtain ⟨other, member⟩ := registered
    simp at member
  | true =>
    obtain ⟨second, rest, _, rfl, -, connected⟩ := Trail.of_bind later
    obtain ⟨third, rest, _, rfl, sends, -⟩ := Trail.of_bind connected
    obtain ⟨id, member⟩ := sendQueuedRequest_sends sends fun entry member => queued entry (by simp [member])
    exact ⟨id, by simp [member]⟩

/-- When a link is set up while a request of ours for the device is queued,
the request is handed to `send_packet` in that set-up exactly when it is we
who dialled. -/
theorem queued_request_sent_iff (config : DaemonSettings) (start : DaemonState) (turns : List (Turn SetUpTask)) (m task : Nat)
    (setUp : SetUp) (request : PairingRequest)
    (spawned : (Pool.spawned (turns.take m))[task]? = some (.link setUp))
    (ended : (atTurn config start turns m).tasks[task]? = some (.done ()))
    (up : ∃ token, (task, ⟨manager (.registerCancelTokenIfCurrent setUp.deviceId token setUp.generation), true⟩) ∈
      (atTurn config start turns m).trace)
    (queued : ∀ k < m, turns[k]? = some (.take task) → Queued setUp.deviceId request (atTurn config start turns k).shared) :
    (∃ id, (task, ⟨sendStart setUp.deviceId (.pairRequestWithTimestamp id request.pairTimestamp), ()⟩) ∈
      (atTurn config start turns m).trace) ↔ setUp.dialled := by
  have onTrail := Pool.onTrail (DaemonAction.exec config.codec) (SetUpTask.program config) start turns m
  have trail := onTrail.trail task _ _ spawned ended
  have answers : ∀ entry ∈ Pool.own (atTurn config start turns m).trace task, Answered config.codec setUp.deviceId request entry := by
    rintro ⟨action, answer⟩ member
    obtain ⟨k, earlier, turn, -, same⟩ := Pool.answered (Pool.mem_own.mp member)
    exact ⟨_, queued k earlier turn, same⟩
  simp only [← Pool.mem_own] at up ⊢
  cases setUp with
  | outbound d identity generation =>
    obtain ⟨first, rest, result, split, sets, finish⟩ := Trail.of_bind trail
    obtain ⟨rfl, -⟩ := Trail.of_done finish
    rw [List.append_nil] at split
    change Pool.own (atTurn config start turns m).trace task = first at split
    rw [split] at answers up ⊢
    exact iff_of_true (runConnectionSetup_sends sets up answers) rfl
  | inbound patience d identity generation =>
    refine iff_of_false ?_ Bool.false_ne_true
    rintro ⟨id, member⟩
    exact trail.only (only_inbound config patience identity generation) _ member id request.pairTimestamp rfl

section Sample

open RefusedAttempts

def desktop : DaemonSettings where
  print value := if value.get "type" == some (.str "kdeconnect.identity") then IdentityFirst.desktopText else PairAccept.printPair value
  codec := phoneCodec
  platform := phonePlatform
  publicKey certDer := .ok certDer
  pairing := {}
  our := IdentityFirst.desktop

def queuedRequest : PairingRequest := ⟨phoneId, seconds 1000, seconds 30, 1000⟩

theorem line_ne_nil (text : String) : toUtf8 text ++ [newline] ≠ [] := by
  simp

/-- We have asked to pair with a phone, whose link is then registered. -/
def linkedPhone : DaemonState where
  pairing := { now := seconds 1000, outgoing := AList.insert phoneId queuedRequest ∅ }
  manager := {
    connections := AList.insert phoneId ⟨0, 1, some [0x30, 0x00]⟩ ∅
    streams := AList.insert 0 (.new [.data ⟨toUtf8 identityText ++ [newline], line_ne_nil identityText⟩]) ∅
    nextLink := 1 }
  packetIds := [7]

def setsUp (setUp : SetUp) : List (Turn SetUpTask) := .spawn (.link setUp) :: List.replicate 14 (.take 0)

/-- The request is queued, as a check. -/
def isQueued (s : DaemonState) : Bool :=
  (s.pairing.paired.lookup phoneId).isNone && s.pairing.outgoing.lookup phoneId == some queuedRequest &&
    !queuedRequest.expiredAt s.pairing.now

theorem queued_of_isQueued {s : DaemonState} (checked : isQueued s = true) : Queued phoneId queuedRequest s := by
  simp only [isQueued, Bool.and_eq_true, Option.isNone_iff_eq_none, beq_iff_eq, Bool.not_eq_true'] at checked
  exact ⟨checked.1.1, checked.1.2, checked.2⟩

def isDone (body : Option (DaemonProgram Unit)) : Bool :=
  match body with
  | some (.done _) => true
  | _ => false

theorem eq_done {body : Option (DaemonProgram Unit)} (ended : isDone body = true) : body = some (.done ()) := by
  unfold isDone at ended
  split at ended
  · rfl
  · cases ended

/-- The token was registered by the first task. -/
def isUp (trace : List (Nat × Σ action : DaemonAction, action.Answer)) : Bool :=
  trace.any fun entry => match entry with
    | (0, ⟨manager (.registerCancelTokenIfCurrent d 0 1), answer⟩) => answer && d == phoneId
    | _ => false

theorem registered_of_isUp {trace : List (Nat × Σ action : DaemonAction, action.Answer)} (checked : isUp trace = true) :
    (0, ⟨manager (.registerCancelTokenIfCurrent phoneId 0 1), true⟩) ∈ trace := by
  obtain ⟨entry, member, here⟩ := List.any_eq_true.mp checked
  split at here
  · simp only [Bool.and_eq_true, beq_iff_eq] at here
    rw [here.1, here.2] at member
    exact member
  · cases here

/-- The request is queued all along, and the link is set up at the end. -/
theorem runs_setUp (setUp : SetUp) (checked : Pool.along (DaemonAction.exec desktop.codec) (SetUpTask.program desktop)
      (fun pool _ => isQueued pool.shared) (fun pool => isDone pool.tasks[0]? && isUp pool.trace) (Pool.start linkedPhone)
      (setsUp setUp) = true) :
    (∀ k < 15, (setsUp setUp)[k]? = some (.take 0) → Queued phoneId queuedRequest (atTurn desktop linkedPhone (setsUp setUp) k).shared) ∧
      (atTurn desktop linkedPhone (setsUp setUp) 15).tasks[0]? = some (.done ()) ∧
      (0, ⟨manager (.registerCancelTokenIfCurrent phoneId 0 1), true⟩) ∈ (atTurn desktop linkedPhone (setsUp setUp) 15).trace := by
  obtain ⟨along, final⟩ := Pool.along_after checked
  obtain ⟨ended, up⟩ := Bool.and_eq_true _ _ ▸ final
  exact ⟨fun k _ here => queued_of_isQueued (along k _ here), eq_done ended, registered_of_isUp up⟩

example : queuedRequest.expiredAt linkedPhone.pairing.now = false := by decide +kernel

theorem queued_request_sent :
    ∃ id, (0, ⟨sendStart phoneId (.pairRequestWithTimestamp id 1000), ()⟩) ∈
      (atTurn desktop linkedPhone (setsUp (.outbound phoneId phoneIdentity 1)) 15).trace := by
  obtain ⟨queued, ended, up⟩ := runs_setUp (.outbound phoneId phoneIdentity 1) (by decide +kernel)
  exact (queued_request_sent_iff desktop linkedPhone (setsUp (.outbound phoneId phoneIdentity 1)) 15 0
    (.outbound phoneId phoneIdentity 1) queuedRequest rfl ended ⟨0, up⟩ queued).mpr rfl

/-- The phone dials in, and its link is set up without a word of the request. -/
theorem queued_request_kept_back :
    ¬(∀ (turns : List (Turn SetUpTask)) (m task : Nat) (setUp : SetUp) (request : PairingRequest),
      (Pool.spawned (turns.take m))[task]? = some (.link setUp) →
      (atTurn desktop linkedPhone turns m).tasks[task]? = some (.done ()) →
      (∃ token, (task, ⟨manager (.registerCancelTokenIfCurrent setUp.deviceId token setUp.generation), true⟩) ∈
        (atTurn desktop linkedPhone turns m).trace) →
      (∀ k < m, turns[k]? = some (.take task) → Queued setUp.deviceId request (atTurn desktop linkedPhone turns k).shared) →
      ∃ id, (task, ⟨sendStart setUp.deviceId (.pairRequestWithTimestamp id request.pairTimestamp), ()⟩) ∈
        (atTurn desktop linkedPhone turns m).trace) := by
  intro always
  obtain ⟨queued, ended, up⟩ := runs_setUp (.inbound 100 phoneId phoneIdentity 1) (by decide +kernel)
  obtain ⟨id, sent⟩ := always (setsUp (.inbound 100 phoneId phoneIdentity 1)) 15 0 (.inbound 100 phoneId phoneIdentity 1) queuedRequest
    rfl ended ⟨0, up⟩ queued
  have onTrail := Pool.onTrail (DaemonAction.exec desktop.codec) (SetUpTask.program desktop) linkedPhone
    (setsUp (.inbound 100 phoneId phoneIdentity 1)) 15
  exact (onTrail.trail 0 _ _ rfl ended).only (only_inbound desktop 100 phoneIdentity 1) _ (Pool.mem_own.mpr sent) id 1000 rfl

example : (SetUp.outbound phoneId phoneIdentity 1).dialled = true ∧ (SetUp.inbound 100 phoneId phoneIdentity 1).dialled = false := by
  decide +kernel

end Sample

end ConnectionSetup

end RustConnect
