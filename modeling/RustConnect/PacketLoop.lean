import RustConnect.PairingRuns

namespace RustConnect

inductive LoopResult
  | shutdown
  | disconnected
  deriving DecidableEq, Repr

/-- The fields of a registry record that the packet loop reads. -/
structure DeviceRecord where
  name : String
  protocolVersion : UInt32
  deriving DecidableEq, Repr

/-- What the pair arm of the packet loop does: the actions of the pairing
handler, and its calls to the rest of the daemon. -/
inductive LoopAction
  | pairing (action : PairingAction)
  | getPeerCertificate (deviceId : DeviceId)
  | registryGet (deviceId : DeviceId)
  | generatePacketId
  | sendPacket (deviceId : DeviceId) (packet : Packet)
  | disconnect (deviceId : DeviceId) (generation : UInt64)
  | tryTransitionDisconnected (deviceId : DeviceId)
  | notifyDisconnected (deviceId : DeviceId)
  | spawnPluginInit (deviceId : DeviceId)

@[reducible] def LoopAction.Answer : LoopAction → Type
  | pairing action => action.Answer
  | getPeerCertificate _ => Option Bytes
  | registryGet _ => Option DeviceRecord
  | generatePacketId => Int64
  | sendPacket _ _ => Except Error Unit
  | disconnect _ _ => Except Error Bool
  | tryTransitionDisconnected _ => Unit
  | notifyDisconnected _ => Unit
  | spawnPluginInit _ => Unit

/-- The answers of the rest of the daemon while one packet is handled. -/
structure LinkAnswers where
  peerCertificate : Option Bytes := none
  record : Option DeviceRecord := none
  packetId : Int64 := 0
  sent : Except Error Unit := .ok ()
  disconnected : Except Error Bool := .ok true

def LoopAction.exec (link : LinkAnswers) : (action : LoopAction) → PairingState → action.Answer × PairingState
  | pairing action, s => action.exec s
  | getPeerCertificate _, s => (link.peerCertificate, s)
  | registryGet _, s => (link.record, s)
  | generatePacketId, s => (link.packetId, s)
  | sendPacket _ _, s => (link.sent, s)
  | disconnect _ _, s => (link.disconnected, s)
  | tryTransitionDisconnected _, s => ((), s)
  | notifyDisconnected _, s => ((), s)
  | spawnPluginInit _, s => ((), s)

abbrev LoopProgram := Program LoopAction LoopAction.Answer

def pairDecision (packet : Packet) : Option Bool := (packet.body.get "pair").bind Json.asBool

def pairTimestampIsFresh (timestamp now : Int) : Bool := (timestamp - now).natAbs ≤ 1800

namespace PacketLoop

open LoopAction

variable (platform : Platform) (settings : PairingSettings)

@[simp] def perform (action : LoopAction) : LoopProgram action.Answer := Program.call action

def onPairing {α : Type} (program : PairingProgram α) : LoopProgram α :=
  program.hoist fun action => perform (pairing action)

/-- `cm.send_packet` of a pair response; the packet is stamped when it is built, and gets a random id. -/
def sendPairResponse (deviceId : DeviceId) (accepted : Bool) : LoopProgram (Except Error Unit) := do
  let now ← perform (pairing .now)
  let id ← perform generatePacketId
  perform (sendPacket deviceId (.pairResponse id now accepted))

/-- A refused accept is taken back from the peer, which already counts itself paired. -/
def afterAccept (deviceId : DeviceId) : Except Error Unit → LoopProgram Unit
  | .error _ => do let _ ← sendPairResponse deviceId false
  | .ok () => perform (spawnPluginInit deviceId)

/-- The arm for `pair: true` while our own request is out: it is the peer's accept. -/
def peerAccepted (deviceId : DeviceId) : LoopProgram Unit := do
  if let some certDer ← perform (getPeerCertificate deviceId) then
    onPairing (PairingHandler.setPendingPeerCert deviceId certDer)
  let result ← onPairing (PairingHandler.acceptPairing platform settings deviceId).run
  afterAccept deviceId result

/-- A request needs a fresh timestamp, except from a peer known to speak a
version below 8. -/
def timestampAdmitted (deviceId : DeviceId) (pairTs : Option Int) : LoopProgram Bool := do
  let record ← perform (registryGet deviceId)
  if (record.map DeviceRecord.protocolVersion).getD 8 ≥ 8 then
    match pairTs with
    | none => return false
    | some ts =>
      let now ← perform (pairing .now)
      return pairTimestampIsFresh ts (timestamp now)
  else
    return true

/-- A mutual request that was accepted on the spot is confirmed to the peer,
and undone when the confirmation cannot be sent. -/
def afterRequest (deviceId : DeviceId) : Except Error Unit → LoopProgram Unit
  | .error _ => return
  | .ok () => do
    if ← onPairing (PairingHandler.isPaired deviceId) then
      match ← sendPairResponse deviceId true with
      | .error _ => onPairing (Program.attempt (PairingHandler.unpair platform settings deviceId))
      | .ok () => perform (spawnPluginInit deviceId)
    else
      let record ← perform (registryGet deviceId)
      perform (pairing (.broadcast (.pairRequested deviceId ((record.map DeviceRecord.name).getD deviceId))))

/-- The arm for `pair: true` in every other state. -/
def peerRequested (deviceId : DeviceId) (pairTs : Option Int) : LoopProgram Unit := do
  if ← timestampAdmitted deviceId pairTs then
    let certDer ← perform (getPeerCertificate deviceId)
    let result ← onPairing
      (PairingHandler.receivePairRequestWithCert platform settings deviceId pairTs certDer).run
    afterRequest platform settings deviceId result

/-- The arm for `pair: false`. -/
def peerRejected (deviceId : DeviceId) (generation : UInt64) : PairState → LoopProgram (Option LoopResult)
  | .paired => do
    onPairing (Program.attempt (PairingHandler.unpair platform settings deviceId))
    if let .ok true ← perform (disconnect deviceId generation) then
      perform (tryTransitionDisconnected deviceId)
      perform (notifyDisconnected deviceId)
    return some .disconnected
  | .requested | .requestedByPeer => do
    onPairing (Program.attempt (PairingHandler.rejectPairing deviceId))
    return some .disconnected
  | .notPaired => return none

/-- The pair arm of `run_packet_loop`; `none` lets the loop go on. -/
def handlePairPacket (deviceId : DeviceId) (generation : UInt64) (packet : Packet) :
    LoopProgram (Option LoopResult) :=
  match pairDecision packet with
  | none => return none
  | some accepted => do
    let pairTs := (packet.body.get "timestamp").bind Json.asI64
    let state ← onPairing (PairingHandler.pairState deviceId)
    if accepted then
      if state = .requested then
        peerAccepted platform settings deviceId
      else
        peerRequested platform settings deviceId pairTs
      return none
    else
      peerRejected platform settings deviceId generation state

section Runs

open Program

variable (link : LinkAnswers) {α : Type}

@[simp] theorem run_onPairing (program : PairingProgram α) (s : PairingState) :
    run (exec link) (onPairing program) s = run PairingAction.exec program s :=
  run_hoist id (fun _ t => t) (fun _ _ => rfl) (fun _ => rfl) (fun _ _ _ => rfl) (fun _ _ => rfl) program s

@[simp] theorem actions_onPairing (program : PairingProgram α) (s : PairingState) :
    actions (exec link) (onPairing program) s = (actions PairingAction.exec program s).map pairing :=
  actions_hoist id (fun _ t => t) pairing (fun _ => rfl) (fun _ _ => rfl) (fun _ _ => rfl) program s

/-- The actions of the loop whose part in the pairing handler satisfies `P`. -/
def within (P : PairingAction → Prop) : LoopAction → Prop
  | pairing action => P action
  | _ => True

theorem within_mono {P P' : PairingAction → Prop} (mono : ∀ action, P action → P' action) (action : LoopAction)
    (inside : within P action) : within P' action := by
  cases action <;> first | exact mono _ inside | trivial

theorem only_onPairing {P : PairingAction → Prop} {Q : α → Prop} {program : PairingProgram α} (only : program.Only P Q) :
    (onPairing program).Only (within P) Q :=
  only.hoist fun _ inside => ⟨inside, fun _ => trivial⟩

variable (d : DeviceId)

theorem only_sendPairResponse {P : PairingAction → Prop} (clock : P .now) (accepted : Bool) :
    (sendPairResponse d accepted).Only (within P) fun _ => True := by
  simp [sendPairResponse, within, clock]

theorem only_attempt_unpair {P : PairingAction → Prop} (unpairing : ∀ action, action.unpairs d → P action) :
    (onPairing (attempt (PairingHandler.unpair platform settings d))).Only (within P) fun _ => True :=
  only_onPairing ((only_attempt _ _).mpr ((PairingHandler.only_unpair platform settings d).weaken unpairing
    fun _ _ => trivial))

theorem only_afterAccept (result : Except Error Unit) :
    (afterAccept d result).Only (within (PairingAction.receives d)) fun _ => True := by
  have clock : PairingAction.receives d .now := PairingAction.looks_receives d trivial
  cases result with
  | error e => simpa [afterAccept] using only_sendPairResponse d clock false
  | ok => simp [afterAccept, within]

theorem only_peerAccepted :
    (peerAccepted platform settings d).Only (within (PairingAction.receives d)) fun _ => True := by
  have accept : (onPairing (PairingHandler.acceptPairing platform settings d).run).Only
      (within (PairingAction.receives d)) fun _ => True :=
    only_onPairing ((PairingHandler.only_acceptPairing platform settings d).weaken (fun _ => PairingAction.accepts_receives)
      fun _ _ => trivial)
  have finish := accept.followedBy (only_afterAccept d)
  simp only [peerAccepted, perform, only_bind, only_call]
  refine ⟨trivial, ?_⟩
  rintro (_ | certDer)
  · simpa using finish
  · have stage : (onPairing (PairingHandler.setPendingPeerCert d certDer)).Only
        (within (PairingAction.receives d)) fun _ => True :=
      only_onPairing ⟨.inr (.inr rfl), fun _ => trivial⟩
    simpa using stage.followedBy fun _ => finish

theorem only_afterRequest (result : Except Error Unit) :
    (afterRequest platform settings d result).Only (within (PairingAction.unpairs d)) fun _ => True := by
  cases result with
  | error e => trivial
  | ok =>
    have paired : (onPairing (PairingHandler.isPaired d)).Only (within (PairingAction.unpairs d)) fun _ => True :=
      only_onPairing ⟨trivial, fun _ => trivial⟩
    refine (only_bind _ _ _).mpr (paired.followedBy fun isPaired => ?_)
    simp only [only_ite]
    refine ⟨fun _ => ?_, fun _ => by simp [within, PairingAction.unpairs, PairingAction.forgets, PairingAction.looks]⟩
    refine (only_bind _ _ _).mpr ((only_sendPairResponse d trivial true).followedBy fun sent => ?_)
    cases sent with
    | error e => exact only_attempt_unpair platform settings d fun _ inside => inside
    | ok => exact ⟨trivial, fun _ => trivial⟩

theorem only_timestampAdmitted (pairTs : Option Int) :
    (timestampAdmitted d pairTs).Only (within PairingAction.looks) fun _ => True := by
  cases pairTs <;> simp [timestampAdmitted, within, PairingAction.looks]

theorem only_peerRequested (pairTs : Option Int) :
    (peerRequested platform settings d pairTs).Only (within (PairingAction.receives d)) fun _ => True := by
  have finish (result : Except Error Unit) := (only_afterRequest platform settings d result).weaken
    (within_mono fun _ => PairingAction.unpairs_receives) fun _ _ => trivial
  have receive (certDer : Option Bytes) :=
    (only_onPairing (PairingHandler.only_receivePairRequest platform settings d pairTs certDer)).followedBy finish
  refine (only_bind _ _ _).mpr ((only_timestampAdmitted d pairTs).weaken
    (within_mono fun _ => PairingAction.looks_receives d) fun fresh _ => ?_)
  simpa [within] using fun _ => receive

theorem only_peerRejected (generation : UInt64) (state : PairState) :
    (peerRejected platform settings d generation state).Only
      (within fun action => action.unpairs d ∨ action.drops d) fun _ => True := by
  have reject : (onPairing (attempt (PairingHandler.rejectPairing d))).Only
      (within fun action => action.unpairs d ∨ action.drops d) fun _ => True :=
    only_onPairing ((only_attempt _ _).mpr ((PairingHandler.only_rejectPairing d).weaken
      (fun _ => Or.inr) fun _ _ => trivial))
  cases state with
  | notPaired => trivial
  | requested => simpa [peerRejected] using reject
  | requestedByPeer => simpa [peerRejected] using reject
  | paired =>
    refine (only_bind _ _ _).mpr ((only_attempt_unpair platform settings d fun _ => Or.inl).followedBy fun _ => ?_)
    simp only [perform, only_bind, only_call]
    refine ⟨trivial, ?_⟩
    rintro (_ | _ | _) <;> simp [within]

/-- For whatever packet, the pair arm does nothing to the pairing that a
request from the same device could not do. -/
theorem only_handlePairPacket (generation : UInt64) (packet : Packet) :
    (handlePairPacket platform settings d generation packet).Only (within (PairingAction.receives d)) fun _ => True := by
  have look : (onPairing (PairingHandler.pairState d)).Only (within (PairingAction.receives d)) fun _ => True :=
    only_onPairing ((PairingHandler.only_pairState d).weaken (fun _ => PairingAction.looks_receives d) fun _ _ => trivial)
  unfold handlePairPacket
  cases pairDecision packet with
  | none => trivial
  | some accepted =>
    refine (only_bind _ _ _).mpr (look.followedBy fun state => ?_)
    cases accepted with
    | false =>
      simpa using (only_peerRejected platform settings d generation state).weaken
        (within_mono fun _ inside => inside.elim PairingAction.unpairs_receives
          fun dropping => PairingAction.accepts_receives (PairingAction.drops_accepts dropping))
        fun _ _ => trivial
    | true =>
      by_cases requested : state = .requested
      · simpa [requested] using only_peerAccepted platform settings d
      · simpa [requested] using only_peerRequested platform settings d _

end Runs

end PacketLoop

end RustConnect
