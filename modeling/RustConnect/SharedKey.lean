import RustConnect.ConnectionSetup
import RustConnect.JsonFields
import RustConnect.PacketRoundTrip

namespace RustConnect

open Program

/-- Two daemons with links between them that lose nothing and keep the order:
what our daemon has written for theirs, and theirs has not read yet, is on the wire. -/
structure TwoDaemons where
  ours : DaemonState
  theirs : DaemonState
  wire : List Bytes := []

/-- What the two daemons are built with. -/
structure TwoSettings where
  ours : DaemonSettings
  theirs : DaemonSettings

namespace TwoSettings

def ourId (config : TwoSettings) : DeviceId := config.ours.our.deviceId

def theirId (config : TwoSettings) : DeviceId := config.theirs.our.deviceId

end TwoSettings

/-- What is done on either side, and where our calls of `pair_device` and our
set-ups of links begin and end and their daemon is done with a frame. -/
inductive TwoAction
  | ours (action : DaemonAction)
  | theirs (action : DaemonAction)
  | readFrame
  | callStart
  | setUpStart
  | ended
  | frameHandled

namespace TwoAction

@[reducible] def Answer : TwoAction → Type
  | ours action => action.Answer
  | theirs action => action.Answer
  | readFrame => Option (Except Error Packet)
  | _ => Unit

/-- What an action of ours puts on the wire. -/
def puts (theirId : DeviceId) : (action : DaemonAction) → action.Answer → List Bytes
  | .writeFramed d _ bytes, outcome => if d = theirId ∧ outcome.writeAll = .done then [bytes] else []
  | _, _ => []

def exec (config : TwoSettings) : (action : TwoAction) → TwoDaemons → action.Answer × TwoDaemons
  | ours action, s =>
    ((action.exec config.ours.codec s.ours).1,
      { s with
        ours := (action.exec config.ours.codec s.ours).2
        wire := s.wire ++ puts config.theirId action (action.exec config.ours.codec s.ours).1 })
  | theirs action, s =>
    ((action.exec config.theirs.codec s.theirs).1, { s with theirs := (action.exec config.theirs.codec s.theirs).2 })
  | readFrame, s => (s.wire.head?.map (PacketSerializer.deserialize config.theirs.codec), { s with wire := s.wire.tail })
  | callStart, s => ((), s)
  | setUpStart, s => ((), s)
  | ended, s => ((), s)
  | frameHandled, s => ((), s)

end TwoAction

abbrev TwoProgram := Program TwoAction TwoAction.Answer

/-- Our user asks for a pairing, or our daemon sets up a link that it dialled;
a packet loop of theirs reads a frame of ours and handles it, if it is a pair
packet; and whatever else either daemon does. -/
inductive TwoTask
  | pairs (deviceId : DeviceId)
  | setsUp (deviceId : DeviceId) (remoteIdentity : Identity) (generation : UInt64)
  | reads (generation : UInt64)
  | ours (program : DaemonProgram Unit)
  | theirs (program : DaemonProgram Unit)

namespace SharedKey

open TwoAction

@[simp] def perform (action : TwoAction) : TwoProgram action.Answer := Program.call action

def onOurs {α : Type} (program : DaemonProgram α) : TwoProgram α := program.hoist fun action => perform (ours action)

def onTheirs {α : Type} (program : DaemonProgram α) : TwoProgram α := program.hoist fun action => perform (theirs action)

def pairs (config : DaemonSettings) (deviceId : DeviceId) : TwoProgram Unit := do
  perform callStart
  let _ ← onOurs (DeviceApi.pairDevice config.print config.platform config.pairing deviceId)
  perform ended

def setsUp (config : DaemonSettings) (deviceId : DeviceId) (remoteIdentity : Identity) (generation : UInt64) : TwoProgram Unit := do
  perform setUpStart
  let _ ← onOurs (ConnectionSetup.runConnectionSetup config.print deviceId remoteIdentity generation)
  perform ended

/-- What `run_packet_loop` does with a pair packet. -/
def handlesPair (config : TwoSettings) (generation : UInt64) (packet : Packet) : DaemonProgram Unit := do
  let _ ← Daemon.onLoop config.theirs.print
    (PacketLoop.handlePairPacket config.theirs.platform config.theirs.pairing config.ourId generation packet)

/-- A turn of a packet loop of theirs for the link to us. -/
def reads (config : TwoSettings) (generation : UInt64) : TwoProgram Unit := do
  match ← perform readFrame with
  | some (.ok packet) =>
    if packet.isPair then
      onTheirs (handlesPair config generation packet)
    perform frameHandled
  | _ => return

end SharedKey

def TwoTask.program (config : TwoSettings) : TwoTask → TwoProgram Unit
  | pairs d => SharedKey.pairs config.ours d
  | setsUp d remoteIdentity generation => SharedKey.setsUp config.ours d remoteIdentity generation
  | reads generation => SharedKey.reads config generation
  | ours program => SharedKey.onOurs program
  | theirs program => SharedKey.onTheirs program

namespace SharedKey

open TwoAction

abbrev TwoPool := Pool TwoAction TwoAction.Answer TwoDaemons

/-- The two daemons after the first `k` turns. -/
def atTurn (config : TwoSettings) (start : TwoDaemons) (turns : List (Turn TwoTask)) (k : Nat) : TwoPool :=
  Pool.after (TwoAction.exec config) (TwoTask.program config) start turns k

/-- The timestamp that a request to be paired is recorded with; a peer of an old version sends none. -/
def requestStamp (packet : Packet) : Option Int :=
  if packet.isPair ∧ pairDecision packet = some true then
    some (((packet.body.get "timestamp").bind Json.asI64).getD 0)
  else
    none

/-- The timestamp of the request that is read from a frame. -/
def heard (codec : JsonCodec) (bytes : Bytes) : Option Int :=
  match PacketSerializer.deserialize codec bytes with
  | .ok packet => requestStamp packet
  | .error _ => none

/-- The timestamp that the key for the device is computed from. -/
def usedTimestamp (s : DaemonState) (d : DeviceId) : Option Int :=
  (run PairingAction.exec (PairingHandler.verificationTimestamp d) s.pairing).1

def pairStateOf (s : DaemonState) (d : DeviceId) : PairState := (run PairingAction.exec (PairingHandler.pairState d) s.pairing).1

/-- How far a task is with a request to be paired: it is still to be recorded
or looked up, to be sent, being sent, or being handled on the other side. -/
inductive KeyPhase
  | idle
  | asking
  | settingUp
  | holds (stamp : Int)
  | sends (id : Int64) (stamp : Int)
  | handling (stamp : Int)
  deriving DecidableEq

namespace KeyPhase

/-- It is not a frame of ours that the task handles. -/
def Ours (phase : KeyPhase) : Prop := ∀ stamp, phase ≠ handling stamp

/-- The timestamp of the request that is on its way with the task. -/
def carried : KeyPhase → Option Int
  | holds stamp | sends _ stamp | handling stamp => some stamp
  | _ => none

end KeyPhase

open KeyPhase

def move (config : TwoSettings) : KeyPhase → (action : TwoAction) → action.Answer → Option KeyPhase
  | idle, callStart, _ => some asking
  | idle, setUpStart, _ => some settingUp
  | idle, readFrame, frame => some (match frame with
    | some (.ok packet) => (requestStamp packet).elim idle handling
    | _ => idle)
  | idle, _, _ => some idle
  | asking, ours (.pairing (.requestInsert .outgoing e request)), _ =>
    some (if e = config.theirId then holds request.pairTimestamp else asking)
  | asking, ours _, _ => some asking
  | asking, ended, _ => some idle
  | settingUp, ours (.pairing (.requestGet .outgoing e)), found =>
    some (if e = config.theirId then found.elim settingUp fun request => holds request.pairTimestamp else settingUp)
  | settingUp, ours _, _ => some settingUp
  | settingUp, ended, _ => some idle
  | holds stamp, ours (.sendStart e packet), _ =>
    if e = config.theirId then
      if packet = .pairRequestWithTimestamp packet.id stamp then some (sends packet.id stamp) else none
    else some (holds stamp)
  | holds stamp, ours (.writeFramed e _ _), _ => if e = config.theirId then none else some (holds stamp)
  | holds stamp, ours _, _ => some (holds stamp)
  | holds _, ended, _ => some idle
  | sends id stamp, ours (.writeFramed e _ bytes), _ =>
    if e = config.theirId then
      if PacketSerializer.serialize config.ours.print (.pairRequestWithTimestamp id stamp) = .ok bytes then some idle else none
    else some (sends id stamp)
  | sends id stamp, ours _, _ => some (sends id stamp)
  | sends _ _, ended, _ => some idle
  | handling stamp, theirs (.pairing (.requestInsert .incoming e request)), _ =>
    if e = config.ourId → request.pairTimestamp = stamp then some (handling stamp) else none
  | handling stamp, theirs _, _ => some (handling stamp)
  | handling _, frameHandled, _ => some idle
  | _, _, _ => none

section Follows

variable {config : TwoSettings} {phase : KeyPhase} {α : Type}

/-- The moves of what our daemon is asked to do. -/
def ourMove (config : TwoSettings) (phase : KeyPhase) (action : DaemonAction) (answer : action.Answer) : Option KeyPhase :=
  move config phase (ours action) answer

theorem follows_onOurs {program : DaemonProgram α} {Q : KeyPhase → α → Prop} (follows : Follows (ourMove config) phase program Q) :
    Follows (move config) phase (onOurs program) Q := by
  refine follows.hoist fun phase action defined answer => ?_
  obtain ⟨later, moved⟩ := Option.isSome_iff_exists.mp (defined answer)
  exact ⟨later, moved, moved⟩

/-- The actions that no call of ours for a pairing, and no set-up of ours, is told by. -/
def Silent (config : TwoSettings) : DaemonAction → Prop
  | .pairing (.requestInsert .outgoing e _) | .pairing (.requestGet .outgoing e) | .sendStart e _ | .writeFramed e _ _ =>
    e ≠ config.theirId
  | _ => True

theorem move_silent {action : DaemonAction} (silent : Silent config action) (phase : KeyPhase) (ours : phase.Ours)
    (answer : action.Answer) : ourMove config phase action answer = some phase := by
  cases phase with
  | idle => rfl
  | handling stamp => exact absurd rfl (ours stamp)
  | asking =>
    cases action with
    | pairing action =>
      cases action with
      | requestInsert q e request =>
        cases q with
        | outgoing => exact congrArg some (if_neg silent)
        | incoming => rfl
      | _ => rfl
    | _ => rfl
  | settingUp =>
    cases action with
    | pairing action =>
      cases action with
      | requestGet q e =>
        cases q with
        | outgoing => exact congrArg some (if_neg silent)
        | incoming => rfl
      | _ => rfl
    | _ => rfl
  | holds stamp => cases action <;> first | exact if_neg silent | rfl
  | sends id stamp => cases action <;> first | exact if_neg silent | rfl

theorem follows_silent {program : DaemonProgram α} {T : α → Prop} (only : program.Only (Silent config) T)
    (ours : phase.Ours) : Follows (ourMove config) phase program fun later value => later = phase ∧ T value :=
  only.follows fun _ silent answer => move_silent silent phase ours answer

theorem silent_manager (program : ManagerProgram α) : (Daemon.onManager program).Only (Silent config) fun _ => True :=
  Daemon.only_onManager (fun _ => trivial) program

theorem silent_isConnected (d : DeviceId) : (Daemon.isConnected d).Only (Silent config) fun _ => True := ⟨trivial, fun _ => trivial⟩

theorem silent_stagePeerCert (d : DeviceId) : (DeviceApi.stagePeerCert d).Only (Silent config) fun _ => True := by
  have current : (Daemon.getPeerCertificate d).Only (Silent config) fun _ => True := ⟨trivial, fun _ => trivial⟩
  refine (only_bind _ _ _).mpr (current.followedBy fun certDer => ?_)
  cases certDer with
  | none => trivial
  | some certDer => exact ⟨trivial, fun _ => trivial⟩

/-- A request that is recorded is sent as it was recorded, if it is sent. -/
theorem follows_sendRequest (id : Int64) (stamp : Int) :
    Follows (ourMove config) (holds stamp)
      (attempt (Daemon.sendPacket config.ours.print config.theirId (.pairRequestWithTimestamp id stamp))) fun later _ => later.Ours := by
  rw [follows_attempt]
  have sending : (sends id stamp).Ours := fun _ => nofun
  have sent : idle.Ours := fun _ => nofun
  have known (bytes : Bytes) : PacketSerializer.serialize config.ours.print (.pairRequestWithTimestamp id stamp) = .ok bytes →
      ∀ link, Follows (ourMove config) (sends id stamp) (Daemon.deliver config.theirId link bytes) fun later _ => later.Ours := by
    intro written link
    refine fun outcome => ⟨idle, (if_pos rfl).trans (if_pos written), ?_⟩
    dsimp only [Program.bind]
    cases outcome.writeFramed config.theirId with
    | ok => exact sent
    | error e =>
      refine (follows_bind (Daemon.onManager _) _ _).mpr ((follows_silent (silent_manager _) sent).weaken ?_)
      rintro _ _ ⟨rfl, -⟩
      exact sent
  refine fun _ => ⟨sends id stamp, (if_pos rfl).trans (if_pos rfl), fun found => ⟨sends id stamp, rfl, ?_⟩⟩
  cases found with
  | none => exact sending
  | some link =>
    show Follows (ourMove config) (sends id stamp) (do
      Daemon.checkCapability config.theirId (.pairRequestWithTimestamp id stamp)
      let bytes ← PacketSerializer.serialize config.ours.print (.pairRequestWithTimestamp id stamp)
      ExceptT.mk (Daemon.deliver config.theirId link bytes) : ExceptT Error DaemonProgram Unit).run _
    have checks : Only (Daemon.checkCapability config.theirId (.pairRequestWithTimestamp id stamp)).run (Silent config) fun _ => True :=
      Daemon.only_checkCapability trivial _
    refine (follows_except_bind _ _ _).mpr ((follows_silent checks sending).weaken ?_)
    rintro _ checked ⟨rfl, -⟩
    cases checked with
    | error e => exact sending
    | ok => exact (follows_except_bind _ _ _).mpr ((follows_except_ofExcept _ _).mpr (known _ rfl link))

/-- What is sent to another device is told by nothing. -/
theorem silent_sendPacket {d : DeviceId} (other : d ≠ config.theirId) (print : Json → String) (packet : Packet) :
    Only (Daemon.sendPacket print d packet).run (Silent config) fun _ => True :=
  Daemon.only_sendPacket other trivial trivial (fun _ _ => other) fun _ _ => trivial

/-- What a call for a pairing leaves behind, once the request is recorded. -/
def Initiated (config : TwoSettings) (d : DeviceId) (later : KeyPhase) : Except Error Int → Prop
  | .ok stamp => later = if d = config.theirId then holds stamp else asking
  | .error _ => later = asking

theorem follows_onPairing {program : PairingProgram α} {Q : KeyPhase → α → Prop}
    (follows : Follows (fun phase action answer => ourMove config phase (.pairing action) answer) phase program Q) :
    Follows (ourMove config) phase (Daemon.onPairing program) Q :=
  follows.hoist fun _ _ defined answer =>
    ⟨_, (Option.some_get (defined answer)).symm, (Option.some_get (defined answer)).symm⟩

theorem follows_initiatePairing (settings : PairingSettings) (d : DeviceId) :
    Follows (ourMove config) asking (Daemon.onPairing (PairingHandler.initiatePairing settings d).run) (Initiated config d) := by
  refine follows_onPairing ?_
  have sweep : Follows (fun phase action answer => ourMove config phase (.pairing action) answer) asking PairingHandler.cleanupExpired
      fun later _ => later = asking := by
    refine (PairingHandler.only_cleanupExpired.follows fun action sweeps answer => ?_).weaken fun _ _ same => same.1
    cases action <;> first | exact sweeps.elim | rfl
  simp only [PairingHandler.initiatePairing, PairingHandler.isOwnDeviceId, PairingHandler.isPaired, PairingHandler.perform,
    follows_except_bind, follows_except_lift, follows_except_ite, follows_except_throw, follows_except_pure, follows_bind, follows_call,
    follows_pure]
  refine fun own => ⟨asking, rfl, fun _ => rfl, fun _ => sweep.weaken fun later removed same => ?_⟩
  subst same
  refine fun paired => ⟨asking, rfl, fun _ => rfl, fun _ outgoing => ⟨asking, rfl, fun incoming => ⟨asking, rfl, ?_⟩⟩⟩
  refine ⟨fun _ => rfl, fun _ createdAt => ⟨asking, rfl, fun stamp => ⟨asking, rfl, fun _ => ⟨_, rfl, ?_⟩⟩⟩⟩
  rfl

theorem follows_askForPairing (d : DeviceId) :
    Follows (ourMove config) asking (DeviceApi.askForPairing config.ours.print config.ours.pairing d) fun later _ => later.Ours := by
  refine (follows_bind _ _ _).mpr ((follows_initiatePairing config.ours.pairing d).weaken fun later result came => ?_)
  cases result with
  | error e =>
    obtain rfl : later = asking := came
    exact fun _ => nofun
  | ok stamp =>
    have ours : later.Ours := by
      rw [show later = if d = config.theirId then holds stamp else asking from came]
      split <;> exact fun _ => nofun
    refine (follows_bind (DeviceApi.stagePeerCert d) _ _).mpr ((follows_silent (silent_stagePeerCert d) ours).weaken ?_)
    rintro _ - ⟨rfl, -⟩
    refine (follows_bind (Daemon.isConnected d) _ _).mpr ((follows_silent (silent_isConnected d) ours).weaken ?_)
    rintro later connected ⟨rfl, -⟩
    cases connected with
    | false => exact ours
    | true =>
      refine fun id => ⟨later, move_silent (show Silent config .generatePacketId from trivial) later ours id, ?_⟩
      refine (follows_bind (attempt _) _ _).mpr ?_
      by_cases same : d = config.theirId
      · rw [show later = if d = config.theirId then holds stamp else asking from came, if_pos same, same]
        exact follows_sendRequest id stamp
      · have only : Only (attempt (Daemon.sendPacket config.ours.print d (.pairRequestWithTimestamp id stamp))) (Silent config)
            fun _ => True := (only_attempt _ _).mpr (silent_sendPacket same _ _)
        refine (follows_silent only ours).weaken ?_
        rintro _ - ⟨rfl, -⟩
        exact ours

/-- No request of ours is recorded. -/
def RecordsNothing (action : DaemonAction) : Prop := ∀ e request, action ≠ .pairing (.requestInsert .outgoing e request)

theorem follows_asking {program : DaemonProgram α} {T : α → Prop} (only : program.Only RecordsNothing T) :
    Follows (ourMove config) asking program fun later value => later = asking ∧ T value := by
  refine only.follows fun action nothing answer => ?_
  cases action with
  | pairing action =>
    cases action with
    | requestInsert q e request =>
      cases q with
      | outgoing => exact absurd rfl (nothing e request)
      | incoming => rfl
    | _ => rfl
  | _ => rfl

theorem recordsNothing_onPairing {program : PairingProgram α} {P : PairingAction → Prop} {T : α → Prop} (only : program.Only P T)
    (other : ∀ e request, ¬P (.requestInsert .outgoing e request)) : (Daemon.onPairing program).Only RecordsNothing T := by
  refine only.hoist fun action inside => ⟨?_, fun _ => trivial⟩
  rintro e request same
  rw [DaemonAction.pairing.inj same] at inside
  exact other e request inside

theorem recordsNothing_acceptRequest (config : DaemonSettings) (d : DeviceId) :
    (DeviceApi.acceptRequest config.print config.platform config.pairing d).Only RecordsNothing fun _ => True := by
  have rejects : (Daemon.onPairing (attempt (PairingHandler.rejectPairing d))).Only RecordsNothing fun _ => True :=
    recordsNothing_onPairing ((only_attempt _ _).mpr (PairingHandler.only_rejectPairing d)) fun _ _ => id
  have stages : (DeviceApi.stagePeerCert d).Only RecordsNothing fun _ => True := by
    have current : (Daemon.getPeerCertificate d).Only RecordsNothing fun _ => True := ⟨fun _ _ => nofun, fun _ => trivial⟩
    refine (only_bind _ _ _).mpr (current.followedBy fun certDer => ?_)
    cases certDer with
    | none => trivial
    | some certDer => exact ⟨fun _ _ => nofun, fun _ => trivial⟩
  have anchor : (Daemon.onPairing (PairingHandler.hasIdentityAnchor config.platform d)).Only RecordsNothing fun _ => True := by
    have looks : (PairingHandler.hasIdentityAnchor config.platform d).Only PairingAction.looks fun _ => True := by
      refine ⟨trivial, fun staged => ?_⟩
      cases staged with
      | none => exact PairingHandler.only_hasPeerFingerprint config.platform d fun _ => trivial
      | some certDer => trivial
    exact recordsNothing_onPairing looks fun _ _ => id
  have sends : Only (DeviceApi.sendAccept config.print d).run RecordsNothing fun _ => True := by
    refine ⟨fun _ _ => nofun, fun found => ?_⟩
    cases found with
    | none => trivial
    | some link =>
      refine ⟨fun _ _ => nofun, fun now => ⟨fun _ _ => nofun, fun id => ?_⟩⟩
      exact Daemon.only_sendPacket (fun _ _ => nofun) (fun _ _ => nofun) (fun _ _ => nofun) (fun _ _ _ _ => nofun) fun _ _ _ _ => nofun
  have after (sent : Except Error Unit) :
      (DeviceApi.afterSend config.platform config.pairing d sent).Only RecordsNothing fun _ => True := by
    cases sent with
    | error e => exact (only_bind _ _ _).mpr (rejects.followedBy fun _ => trivial)
    | ok =>
      have accepts : (Daemon.onPairing (PairingHandler.acceptPairing config.platform config.pairing d).run).Only RecordsNothing
          fun _ => True :=
        recordsNothing_onPairing (PairingHandler.only_acceptPairing config.platform config.pairing d) fun _ _ => id
      refine (only_bind _ _ _).mpr (accepts.followedBy fun result => ?_)
      cases result with
      | error e => trivial
      | ok => exact ⟨fun _ _ => nofun, fun _ => trivial⟩
  refine (only_bind _ _ _).mpr (stages.followedBy fun _ => ?_)
  refine (only_bind _ _ _).mpr (anchor.followedBy fun anchored => ?_)
  cases anchored with
  | false => exact (only_bind _ _ _).mpr (rejects.followedBy fun _ => trivial)
  | true => exact (only_bind _ _ _).mpr (sends.followedBy fun sent => after sent)

theorem follows_pairDevice (d : DeviceId) :
    Follows (ourMove config) asking (DeviceApi.pairDevice config.ours.print config.ours.platform config.ours.pairing d) fun later _ =>
      later.Ours := by
  unfold DeviceApi.pairDevice
  split
  · exact fun _ => nofun
  · have looks : (PairingHandler.hasIncomingRequest d).Only PairingAction.looks fun _ => True := by
      refine ⟨trivial, fun found => ?_⟩
      cases found with
      | none => trivial
      | some request => exact ⟨trivial, fun _ => trivial⟩
    have incoming := recordsNothing_onPairing looks fun _ _ => id
    refine (follows_bind (Daemon.onPairing _) _ _).mpr ((follows_asking incoming).weaken ?_)
    rintro _ asked ⟨rfl, -⟩
    cases asked with
    | false => exact follows_askForPairing d
    | true =>
      refine (follows_asking (recordsNothing_acceptRequest config.ours d)).weaken ?_
      rintro _ - ⟨rfl, -⟩
      exact fun _ => nofun

theorem silent_ensureConnected (d : DeviceId) (identity : Identity) :
    (ConnectionSetup.ensureConnected d identity).Only (Silent config) fun _ => True :=
  ConnectionSetup.only_ensureConnected identity trivial trivial trivial (fun _ => trivial) trivial

theorem silent_isPaired (d : DeviceId) : (Daemon.onPairing (PairingHandler.isPaired d)).Only (Silent config) fun _ => True :=
  ⟨trivial, fun _ => trivial⟩

theorem silent_initPlugins (d : DeviceId) : (ConnectionSetup.initPlugins d).Only (Silent config) fun _ => True := by
  refine (only_bind _ _ _).mpr ((silent_isPaired d).followedBy fun paired => ?_)
  cases paired with
  | true => exact ⟨trivial, fun _ => trivial⟩
  | false => trivial

/-- The request that a set-up finds is the one that it sends. -/
def Found (config : TwoSettings) (d : DeviceId) (later : KeyPhase) (found : Option Int) : Prop :=
  later.Ours ∧ ∀ stamp, found = some stamp → d = config.theirId → later = holds stamp

theorem follows_pendingOutgoingTimestamp (d : DeviceId) :
    Follows (ourMove config) settingUp (Daemon.onPairing (PairingHandler.pendingOutgoingTimestamp d)) (Found config d) := by
  intro found
  refine ⟨_, rfl, ?_⟩
  cases found with
  | none =>
    by_cases same : d = config.theirId
    · rw [if_pos same]
      exact ⟨fun _ => nofun, nofun⟩
    · rw [if_neg same]
      exact ⟨fun _ => nofun, nofun⟩
  | some request =>
    by_cases same : d = config.theirId
    · rw [if_pos same]
      refine fun now => ⟨holds request.pairTimestamp, rfl, ?_⟩
      show Follows (ourMove config) _ (Daemon.onPairing (if request.expiredAt now then pure none else pure (some request.pairTimestamp))) _
      cases request.expiredAt now with
      | true => exact ⟨fun _ => nofun, nofun⟩
      | false =>
        refine ⟨fun _ => nofun, fun stamp known _ => ?_⟩
        rw [Option.some.inj known]
    · rw [if_neg same]
      refine fun now => ⟨settingUp, rfl, ?_⟩
      show Follows (ourMove config) _ (Daemon.onPairing (if request.expiredAt now then pure none else pure (some request.pairTimestamp))) _
      cases request.expiredAt now with
      | true => exact ⟨fun _ => nofun, nofun⟩
      | false => exact ⟨fun _ => nofun, fun _ _ here => absurd here same⟩

theorem follows_sendQueuedRequest (d : DeviceId) :
    Follows (ourMove config) settingUp (ConnectionSetup.sendQueuedRequest config.ours.print d) fun later _ => later.Ours := by
  have setting : settingUp.Ours := fun _ => nofun
  refine (follows_bind _ _ _).mpr ((follows_silent (silent_isPaired d) setting).weaken ?_)
  rintro _ paired ⟨rfl, -⟩
  cases paired with
  | true => exact setting
  | false =>
    refine (follows_bind _ _ _).mpr ((follows_pendingOutgoingTimestamp d).weaken fun later found came => ?_)
    cases found with
    | none => exact came.1
    | some stamp =>
      refine fun id => ⟨later, move_silent (show Silent config .generatePacketId from trivial) later came.1 id, ?_⟩
      by_cases same : d = config.theirId
      · rw [came.2 stamp rfl same, same]
        exact follows_sendRequest id stamp
      · have only : Only (attempt (Daemon.sendPacket config.ours.print d (.pairRequestWithTimestamp id stamp))) (Silent config)
            fun _ => True := (only_attempt _ _).mpr (silent_sendPacket same _ _)
        refine (follows_silent only came.1).weaken ?_
        rintro _ - ⟨rfl, -⟩
        exact came.1

theorem follows_runConnectionSetup (d : DeviceId) (identity : Identity) (generation : UInt64) :
    Follows (ourMove config) settingUp (ConnectionSetup.runConnectionSetup config.ours.print d identity generation) fun later _ =>
      later.Ours := by
  have setting : settingUp.Ours := fun _ => nofun
  refine (follows_bind _ _ _).mpr ((follows_silent (silent_manager _) setting).weaken ?_)
  rintro _ up ⟨rfl, -⟩
  cases up with
  | false => exact setting
  | true =>
    refine (follows_bind (ConnectionSetup.ensureConnected d identity) _ _).mpr
      ((follows_silent (silent_ensureConnected d identity) setting).weaken ?_)
    rintro _ - ⟨rfl, -⟩
    refine (follows_bind (ConnectionSetup.sendQueuedRequest config.ours.print d) _ _).mpr ((follows_sendQueuedRequest d).weaken ?_)
    intro later _ ours
    refine (follows_bind (ConnectionSetup.initPlugins d) _ _).mpr ((follows_silent (silent_initPlugins d) ours).weaken ?_)
    rintro _ - ⟨rfl, -⟩
    exact ours

theorem move_ended {phase : KeyPhase} (ours : phase.Ours) : move config phase ended () = some idle := by
  cases phase with
  | handling stamp => exact absurd rfl (ours stamp)
  | _ => rfl

theorem follows_idle_ours (program : DaemonProgram α) : Follows (move config) idle (onOurs program) fun later _ => later = idle := by
  induction program with
  | done value => rfl
  | act action next ih => exact fun answer => ⟨idle, rfl, ih answer⟩

theorem follows_idle_theirs (program : DaemonProgram α) : Follows (move config) idle (onTheirs program) fun later _ => later = idle := by
  induction program with
  | done value => rfl
  | act action next ih => exact fun answer => ⟨idle, rfl, ih answer⟩

/-- What a packet loop records of a request has the timestamp of the request. -/
def RecordsAs (stamp : Int) : PairingAction → Prop
  | .requestInsert .incoming _ request => request.pairTimestamp = stamp
  | _ => True

theorem recordsAs_of {P : PairingAction → Prop} (other : ∀ e request, ¬P (.requestInsert .incoming e request)) {action : PairingAction}
    (inside : P action) (stamp : Int) : RecordsAs stamp action := by
  cases action with
  | requestInsert q e request =>
    cases q with
    | outgoing => trivial
    | incoming => exact absurd inside (other e request)
  | _ => trivial

section Handling

variable (platform : Platform) (settings : PairingSettings) (d : DeviceId) (pairTs : Option Int)

theorem recordsAs_admit (certDer : Option Bytes) :
    Only (PairingHandler.admitPairRequest platform settings d pairTs certDer).run (RecordsAs (pairTs.getD 0)) fun _ => True := by
  have accepts : Only (PairingHandler.acceptPairing platform settings d).run (RecordsAs (pairTs.getD 0)) fun _ => True :=
    (PairingHandler.only_acceptPairing platform settings d).weaken (fun _ inside => recordsAs_of (fun _ _ => id) inside _) fun _ _ => trivial
  cases certDer with
  | none => simp [PairingHandler.admitPairRequest, RecordsAs, accepts]
  | some certDer => simp [PairingHandler.admitPairRequest, PairingHandler.setPendingPeerCert, RecordsAs, accepts]

theorem recordsAs_receive (certDer : Option Bytes) :
    Only (PairingHandler.receivePairRequestWithCert platform settings d pairTs certDer).run (RecordsAs (pairTs.getD 0)) fun _ => True := by
  have unpairs : Only (PairingHandler.unpair platform settings d).run (RecordsAs (pairTs.getD 0)) fun _ => True :=
    (PairingHandler.only_unpair platform settings d).weaken (fun _ inside => recordsAs_of (fun _ _ => id) inside _) fun _ _ => trivial
  have sweeps : PairingHandler.cleanupExpired.Only (RecordsAs (pairTs.getD 0)) fun _ => True :=
    PairingHandler.only_cleanupExpired.weaken (fun _ inside => recordsAs_of (fun _ _ => id) inside _) fun _ _ => trivial
  have fresh := sweeps.followedBy fun _ => recordsAs_admit platform settings d pairTs certDer
  simpa [PairingHandler.receivePairRequestWithCert, PairingHandler.isOwnDeviceId, PairingHandler.isPaired, RecordsAs] using
    fun _ _ => And.intro fresh (unpairs.followedBy fun _ => fresh)

theorem recordsAs_peerRequested :
    (PacketLoop.peerRequested platform settings d pairTs).Only (PacketLoop.within (RecordsAs (pairTs.getD 0))) fun _ => True := by
  have finish (result : Except Error Unit) := (PacketLoop.only_afterRequest platform settings d result).weaken
    (PacketLoop.within_mono fun _ inside => recordsAs_of (fun _ _ => id) inside (pairTs.getD 0)) fun _ _ => trivial
  have receives (certDer : Option Bytes) :=
    (PacketLoop.only_onPairing (recordsAs_receive platform settings d pairTs certDer)).followedBy finish
  refine (only_bind _ _ _).mpr ((PacketLoop.only_timestampAdmitted d pairTs).weaken
    (PacketLoop.within_mono fun _ inside => recordsAs_of (fun _ _ => id) inside (pairTs.getD 0)) fun fresh _ => ?_)
  simpa [PacketLoop.within] using fun _ => receives

theorem recordsAs_peerAccepted (stamp : Int) :
    (PacketLoop.peerAccepted platform settings d).Only (PacketLoop.within (RecordsAs stamp)) fun _ => True := by
  have accepts : (PacketLoop.onPairing (PairingHandler.acceptPairing platform settings d).run).Only (PacketLoop.within (RecordsAs stamp))
      fun _ => True :=
    PacketLoop.only_onPairing ((PairingHandler.only_acceptPairing platform settings d).weaken
      (fun _ inside => recordsAs_of (fun _ _ => id) inside stamp) fun _ _ => trivial)
  have after (result : Except Error Unit) : (PacketLoop.afterAccept d result).Only (PacketLoop.within (RecordsAs stamp)) fun _ => True := by
    cases result with
    | error e => exact (only_bind _ _ _).mpr ((PacketLoop.only_sendPairResponse d trivial false).followedBy fun _ => trivial)
    | ok => exact ⟨trivial, fun _ => trivial⟩
  have finish := accepts.followedBy after
  refine ⟨trivial, fun certDer => ?_⟩
  cases certDer with
  | none => exact (only_bind (PacketLoop.onPairing _) _ _).mpr finish
  | some certDer =>
    exact ⟨trivial, fun _ => (only_bind (PacketLoop.onPairing (PairingHandler.acceptPairing platform settings d).run) _ _).mpr finish⟩

/-- For a request, the pair arm records nothing with another timestamp. -/
theorem recordsAs_handlePairPacket {packet : Packet} {stamp : Int} (request : requestStamp packet = some stamp) (generation : UInt64) :
    (PacketLoop.handlePairPacket platform settings d generation packet).Only (PacketLoop.within (RecordsAs stamp)) fun _ => True := by
  obtain ⟨⟨-, decision⟩, same⟩ := Option.ite_none_right_eq_some.mp request
  have look : (PacketLoop.onPairing (PairingHandler.pairState d)).Only (PacketLoop.within (RecordsAs stamp)) fun _ => True :=
    PacketLoop.only_onPairing ((PairingHandler.only_pairState d).weaken (fun _ inside => recordsAs_of (fun _ _ => id) inside stamp)
      fun _ _ => trivial)
  unfold PacketLoop.handlePairPacket
  rw [decision]
  refine (only_bind _ _ _).mpr (look.followedBy fun state => ?_)
  by_cases requested : state = .requested
  · simpa [requested] using recordsAs_peerAccepted platform settings d stamp
  · have asks := recordsAs_peerRequested platform settings d ((packet.body.get "timestamp").bind Json.asI64)
    rw [Option.some.inj same] at asks
    simpa [requested] using asks

end Handling

/-- The same of the daemon. -/
def DaemonRecordsAs (stamp : Int) : DaemonAction → Prop
  | .pairing action => RecordsAs stamp action
  | _ => True

theorem recordsAs_translate (print : Json → String) {stamp : Int} {action : LoopAction} (inside : PacketLoop.within (RecordsAs stamp) action) :
    (Daemon.translate print action).Only (DaemonRecordsAs stamp) fun _ => True := by
  cases action with
  | pairing action => exact ⟨inside, fun _ => trivial⟩
  | sendPacket d packet => exact Daemon.only_sendPacket trivial trivial trivial (fun _ _ => trivial) fun _ _ => trivial
  | disconnect d generation =>
    exact (only_map _ _ _).mpr ((Daemon.only_onManager (fun _ => trivial) _).followedBy fun _ => trivial)
  | registryGet d => exact (only_map _ _ _).mpr ⟨trivial, fun _ => trivial⟩
  | _ => exact ⟨trivial, fun _ => trivial⟩

theorem move_handling {stamp : Int} {action : DaemonAction} (records : DaemonRecordsAs stamp action) (answer : action.Answer) :
    move config (handling stamp) (theirs action) answer = some (handling stamp) := by
  cases action with
  | pairing action =>
    cases action with
    | requestInsert q e request =>
      cases q with
      | outgoing => rfl
      | incoming => exact if_pos fun _ => records
    | _ => rfl
  | _ => rfl

theorem follows_handlesPair {packet : Packet} {stamp : Int} (request : requestStamp packet = some stamp) (generation : UInt64) :
    Follows (move config) (handling stamp) (onTheirs (handlesPair config generation packet)) fun later _ => later = handling stamp := by
  have records : (handlesPair config generation packet).Only (DaemonRecordsAs stamp) fun _ => True := by
    refine (only_bind _ _ _).mpr (Only.followedBy ?_ fun _ => trivial)
    exact (recordsAs_handlePairPacket _ _ _ request generation).hoist fun action inside => recordsAs_translate _ inside
  have kept : Follows (fun phase action answer => move config phase (theirs action) answer) (handling stamp)
      (handlesPair config generation packet) fun later _ => later = handling stamp :=
    (records.follows fun _ inside answer => move_handling inside answer).weaken fun _ _ same => same.1
  exact kept.hoist fun _ _ defined answer => ⟨_, (Option.some_get (defined answer)).symm, (Option.some_get (defined answer)).symm⟩

theorem follows_reads (generation : UInt64) : Follows (move config) idle (reads config generation) fun _ _ => True := by
  intro frame
  refine ⟨_, rfl, ?_⟩
  match frame with
  | none | some (.error e) => trivial
  | some (.ok packet) =>
    have handled {phase : KeyPhase} (at_ : phase = idle ∨ ∃ stamp, phase = handling stamp) :
        Follows (move config) phase (perform frameHandled) fun _ _ => True := by
      rcases at_ with rfl | ⟨stamp, rfl⟩
      · exact fun _ => ⟨idle, rfl, trivial⟩
      · exact fun _ => ⟨idle, rfl, trivial⟩
    show Follows (move config) ((requestStamp packet).elim idle handling)
      (if packet.isPair = true then onTheirs (handlesPair config generation packet) >>= fun _ => perform frameHandled
        else perform frameHandled) _
    cases request : requestStamp packet with
    | none =>
      cases packet.isPair with
      | true => exact (follows_bind _ _ _).mpr ((follows_idle_theirs _).weaken fun later _ same => handled (.inl same))
      | false => exact handled (.inl rfl)
    | some stamp =>
      obtain ⟨⟨isPair, -⟩, -⟩ := Option.ite_none_right_eq_some.mp request
      rw [if_pos isPair]
      exact (follows_bind _ _ _).mpr ((follows_handlesPair request generation).weaken fun later _ same => handled (.inr ⟨stamp, same⟩))

theorem follows_task (config : TwoSettings) (task : TwoTask) : Follows (move config) idle (task.program config) fun _ _ => True := by
  have ends {phase : KeyPhase} (ours : phase.Ours) : Follows (move config) phase (perform ended) fun _ _ => True :=
    fun _ => ⟨idle, move_ended ours, trivial⟩
  cases task with
  | pairs d =>
    refine fun _ => ⟨asking, rfl, (follows_bind (onOurs _) _ _).mpr ?_⟩
    exact (follows_onOurs (follows_pairDevice d)).weaken fun later _ ours => ends ours
  | setsUp d identity generation =>
    refine fun _ => ⟨settingUp, rfl, (follows_bind (onOurs _) _ _).mpr ?_⟩
    exact (follows_onOurs (follows_runConnectionSetup d identity generation)).weaken fun later _ ours => ends ours
  | reads generation => exact follows_reads generation
  | ours program => exact (follows_idle_ours program).weaken fun _ _ _ => trivial
  | theirs program => exact (follows_idle_theirs program).weaken fun _ _ _ => trivial

end Follows

variable {config : TwoSettings} {start : TwoDaemons} {turns : List (Turn TwoTask)}

def phaseOf (config : TwoSettings) (pool : TwoPool) (task : Nat) : KeyPhase := Pool.reached (move config) idle pool.trace task

/-- If we have a request pending, it is of this timestamp. -/
def Agrees (config : TwoSettings) (stamp : Int) (s : TwoDaemons) : Prop :=
  ∀ request, s.ours.pairing.outgoing.lookup config.theirId = some request → request.pairTimestamp = stamp

/-- Our request is pending on their side. -/
structure PendingThere (config : TwoSettings) (request : PairingRequest) (s : TwoDaemons) : Prop where
  found : s.theirs.pairing.incoming.lookup config.ourId = some request
  live : request.expiredAt s.theirs.pairing.now = false

/-- Every request of ours that is to be sent, is being sent, is on the wire, is
being handled, or is pending on their side has this timestamp. -/
structure Settled (config : TwoSettings) (pool : TwoPool) (stamp : Int) : Prop where
  carried : ∀ task other, (phaseOf config pool task).carried = some other → other = stamp
  wire : ∀ bytes ∈ pool.shared.wire, ∀ other, heard config.theirs.codec bytes = some other → other = stamp
  pending : ∀ request, PendingThere config request pool.shared → request.pairTimestamp = stamp

/-- We record a request only when no earlier one with another timestamp is
under way or pending, and send no acceptance with another timestamp than that
of the request that we have pending. -/
structure Agreed (config : TwoSettings) (pool : TwoPool) (turn : Turn TwoTask) : Prop where
  request : ∀ task request, turn = .take task →
    pool.next task = some (ours (.pairing (.requestInsert .outgoing config.theirId request))) → Settled config pool request.pairTimestamp
  accept : ∀ task link bytes stamp, turn = .take task → pool.next task = some (ours (.writeFramed config.theirId link bytes)) →
    (∀ id stamp, phaseOf config pool task ≠ sends id stamp) → heard config.theirs.codec bytes = some stamp →
    Agrees config stamp pool.shared

/-- Their user does not ask for a pairing with us, what they record of our
requests comes from the frames they read, and their clock does not go back. -/
structure Unasked (config : TwoSettings) (pool : TwoPool) (turn : Turn TwoTask) : Prop where
  initiate : ∀ task request, turn = .take task →
    pool.next task ≠ some (theirs (.pairing (.requestInsert .outgoing config.ourId request)))
  receive : ∀ task request, turn = .take task →
    pool.next task = some (theirs (.pairing (.requestInsert .incoming config.ourId request))) →
    ∃ stamp, phaseOf config pool task = handling stamp
  clock : ∀ task duration, turn = .take task → pool.next task = some (theirs (.pass duration)) → 0 ≤ duration

/-- What is relied on of the serializer and of the clock: a request that we send is read as it was written. -/
structure Transmits (config : TwoSettings) (id : Int64) (stamp : Int) : Prop where
  faithful : PacketSerializer.Faithful config.theirs.codec config.ours.print (Packet.pairRequestWithTimestamp id stamp).encode
  fits : (toUtf8 (config.ours.print (Packet.pairRequestWithTimestamp id stamp).encode) ++ [newline]).length ≤ PacketSerializer.maxPacketSize
  range : (Int64.ofInt stamp).toInt = stamp

theorem requestStamp_pairRequest (id : Int64) {stamp : Int} (range : (Int64.ofInt stamp).toInt = stamp) :
    requestStamp (.pairRequestWithTimestamp id stamp) = some stamp := by
  have member : ((Packet.pairRequestWithTimestamp id stamp).body.get "timestamp").bind Json.asI64 = some stamp := by
    have read := Json.asI64_ofInt (Int64.ofInt stamp)
    rw [range] at read
    exact read
  rw [requestStamp, if_pos ⟨rfl, rfl⟩, member, Option.getD_some]

theorem Transmits.heard {id : Int64} {stamp : Int} (transmits : Transmits config id stamp) {bytes : Bytes}
    (written : PacketSerializer.serialize config.ours.print (.pairRequestWithTimestamp id stamp) = .ok bytes) :
    SharedKey.heard config.theirs.codec bytes = some stamp := by
  cases written
  unfold SharedKey.heard
  rw [PacketSerializer.deserialize_serialize transmits.faithful nofun transmits.fits]
  exact requestStamp_pairRequest id transmits.range

section Daemons

variable (codec : JsonCodec) (s : DaemonState) {d : DeviceId}

/-- Only an insertion for the device itself puts a request of it into a map of the daemon. -/
theorem daemon_request_kept {q : Queue} {action : DaemonAction} (other : ∀ request, action ≠ .pairing (.requestInsert q d request)) :
    ((action.exec codec s).2.pairing.queue q).lookup d = none ∨
      ((action.exec codec s).2.pairing.queue q).lookup d = (s.pairing.queue q).lookup d := by
  cases action with
  | pairing action => exact PairingHandler.request_kept (fun request same => other request (congrArg _ same)) s.pairing
  | writeFramed e link bytes => exact .inr (by cases q <;> rfl)
  | _ => exact .inr (by cases q <;> rfl)

theorem daemon_now {action : DaemonAction} (forward : ∀ duration, action = .pass duration → 0 ≤ duration) :
    s.pairing.now ≤ (action.exec codec s).2.pairing.now := by
  cases action with
  | pairing action => exact Int.le_of_eq (PairingHandler.exec_now action s.pairing).symm
  | pass duration =>
    have ahead := forward duration rfl
    exact Int.le_add_of_nonneg_right ahead
  | _ => exact Int.le_refl _

end Daemons

theorem Agrees.ours {s : TwoDaemons} {stamp : Int} (agrees : Agrees config stamp s) {action : DaemonAction}
    (other : ∀ request, action ≠ .pairing (.requestInsert .outgoing config.theirId request)) :
    Agrees config stamp ((TwoAction.ours action).exec config s).2 := by
  intro request found
  rcases daemon_request_kept config.ours.codec s.ours other with none | same
  · exact absurd (none.symm.trans found) nofun
  · exact agrees request (same.symm.trans found)

/-- Every task is in the phase its trace led it to, and every request of ours
that is under way or pending on their side agrees with the one that we have pending. -/
structure Kept (config : TwoSettings) (s : TwoDaemons) (phases : Nat → KeyPhase) (trace : List (Nat × Σ action, TwoAction.Answer action)) :
    Prop where
  reached : ∀ task, Pool.reached (move config) idle trace task = phases task
  carried : ∀ task stamp, (phases task).carried = some stamp → Agrees config stamp s
  wire : ∀ bytes ∈ s.wire, ∀ stamp, heard config.theirs.codec bytes = some stamp → Agrees config stamp s
  pending : ∀ request, PendingThere config request s → Agrees config request.pairTimestamp s
  unasked : s.theirs.pairing.outgoing.lookup config.ourId = none

/-- A move of ours carries on with the request it has, or takes up the one that is pending. -/
theorem carried_ours {s : TwoDaemons} {phase later : KeyPhase} {action : DaemonAction}
    (moved : move config phase (ours action) ((ours action).exec config s).1 = some later) {stamp : Int}
    (carries : later.carried = some stamp) :
    phase.carried = some stamp ∨ (∃ request, action = .pairing (.requestInsert .outgoing config.theirId request) ∧
      request.pairTimestamp = stamp) ∨
      action = .pairing (.requestGet .outgoing config.theirId) ∧
        ∃ request, s.ours.pairing.outgoing.lookup config.theirId = some request ∧ request.pairTimestamp = stamp := by
  cases phase with
  | idle =>
    obtain rfl := Option.some.inj moved
    cases carries
  | handling other => cases action <;> cases moved
  | asking =>
    cases action with
    | pairing action =>
      cases action with
      | requestInsert q e request =>
        cases q with
        | incoming =>
          obtain rfl := Option.some.inj moved
          cases carries
        | outgoing =>
          by_cases same : e = config.theirId
          · have led : some (holds request.pairTimestamp) = some later := (congrArg some (if_pos same)).symm.trans moved
            obtain rfl := Option.some.inj led
            exact .inr (.inl ⟨request, by rw [same], Option.some.inj carries⟩)
          · have led : some asking = some later := (congrArg some (if_neg same)).symm.trans moved
            obtain rfl := Option.some.inj led
            cases carries
      | _ =>
        obtain rfl := Option.some.inj moved
        cases carries
    | _ =>
      obtain rfl := Option.some.inj moved
      cases carries
  | settingUp =>
    cases action with
    | pairing action =>
      cases action with
      | requestGet q e =>
        cases q with
        | incoming =>
          obtain rfl := Option.some.inj moved
          cases carries
        | outgoing =>
          by_cases same : e = config.theirId
          · subst same
            have led : some ((s.ours.pairing.outgoing.lookup config.theirId).elim settingUp fun request => holds request.pairTimestamp) =
                some later := (congrArg some (if_pos rfl)).symm.trans moved
            cases found : s.ours.pairing.outgoing.lookup config.theirId with
            | none =>
              rw [found] at led
              obtain rfl := Option.some.inj led
              cases carries
            | some request =>
              rw [found] at led
              obtain rfl := Option.some.inj led
              exact .inr (.inr ⟨rfl, request, rfl, Option.some.inj carries⟩)
          · have led : some settingUp = some later := (congrArg some (if_neg same)).symm.trans moved
            obtain rfl := Option.some.inj led
            cases carries
      | _ =>
        obtain rfl := Option.some.inj moved
        cases carries
    | _ =>
      obtain rfl := Option.some.inj moved
      cases carries
  | holds held =>
    refine .inl ?_
    cases action with
    | sendStart e packet =>
      by_cases same : e = config.theirId
      · have led := (if_pos same).symm.trans moved
        obtain ⟨-, sent⟩ := Option.ite_none_right_eq_some.mp led
        obtain rfl := Option.some.inj sent
        exact carries
      · have led : some (holds held) = some later := (if_neg same).symm.trans moved
        obtain rfl := Option.some.inj led
        exact carries
    | writeFramed e link bytes =>
      obtain ⟨-, led⟩ := Option.ite_none_left_eq_some.mp moved
      obtain rfl := Option.some.inj led
      exact carries
    | _ =>
      obtain rfl := Option.some.inj moved
      exact carries
  | sends id held =>
    refine .inl ?_
    cases action with
    | writeFramed e link bytes =>
      by_cases same : e = config.theirId
      · have led := (if_pos same).symm.trans moved
        obtain ⟨-, sent⟩ := Option.ite_none_right_eq_some.mp led
        obtain rfl := Option.some.inj sent
        cases carries
      · have led : some (sends id held) = some later := (if_neg same).symm.trans moved
        obtain rfl := Option.some.inj led
        exact carries
    | _ =>
      obtain rfl := Option.some.inj moved
      exact carries

/-- A move of theirs carries on with the request it has. -/
theorem carried_theirs {phase later : KeyPhase} {action : DaemonAction} {answer : action.Answer}
    (moved : move config phase (theirs action) answer = some later) : later.carried = phase.carried := by
  cases phase with
  | idle =>
    obtain rfl := Option.some.inj moved
    rfl
  | handling stamp =>
    cases action with
    | pairing action =>
      cases action with
      | requestInsert q e request =>
        cases q with
        | outgoing =>
          obtain rfl := Option.some.inj moved
          rfl
        | incoming =>
          obtain ⟨-, led⟩ := Option.ite_none_right_eq_some.mp moved
          obtain rfl := Option.some.inj led
          rfl
      | _ =>
        obtain rfl := Option.some.inj moved
        rfl
    | _ =>
      obtain rfl := Option.some.inj moved
      rfl
  | _ => cases action <;> cases moved

/-- What is written for them is a request that the task sends, or no request of ours. -/
theorem written_of_sends {id : Int64} {stamp : Int} {later : KeyPhase} {link : Nat} {bytes : Bytes} {answer : WriteOutcome}
    (moved : move config (sends id stamp) (ours (.writeFramed config.theirId link bytes)) answer = some later) :
    PacketSerializer.serialize config.ours.print (.pairRequestWithTimestamp id stamp) = .ok bytes := by
  have led := (if_pos rfl).symm.trans moved
  exact (Option.ite_none_right_eq_some.mp led).1

/-- A frame that is read starts a request of its timestamp, or none. -/
theorem carried_frame {phase later : KeyPhase} {s : TwoDaemons} (moved : move config phase readFrame (readFrame.exec config s).1 = some later)
    {stamp : Int} (carries : later.carried = some stamp) : ∃ bytes ∈ s.wire, heard config.theirs.codec bytes = some stamp := by
  cases phase with
  | idle =>
    cases waits : s.wire with
    | nil =>
      have none : (readFrame.exec config s).1 = none := by simp [TwoAction.exec, waits]
      rw [none] at moved
      obtain rfl := Option.some.inj moved
      cases carries
    | cons bytes rest =>
      have read : (readFrame.exec config s).1 = some (PacketSerializer.deserialize config.theirs.codec bytes) := by
        simp [TwoAction.exec, waits]
      rw [read] at moved
      refine ⟨bytes, List.mem_cons_self, ?_⟩
      unfold heard
      cases parsed : PacketSerializer.deserialize config.theirs.codec bytes with
      | error e =>
        rw [parsed] at moved
        obtain rfl := Option.some.inj moved
        cases carries
      | ok packet =>
        rw [parsed] at moved
        have came : some ((requestStamp packet).elim idle handling) = some later := moved
        obtain rfl := Option.some.inj came
        show requestStamp packet = some stamp
        cases asks : requestStamp packet with
        | none =>
          rw [asks] at carries
          cases carries
        | some other =>
          rw [asks] at carries
          exact carries
  | _ => cases moved

/-- The three conditions on a turn. -/
structure Permitted (config : TwoSettings) (pool : TwoPool) (turn : Turn TwoTask) : Prop where
  unasked : Unasked config pool turn
  agreed : Agreed config pool turn
  transmits : ∀ task id stamp, turn = .take task → phaseOf config pool task = sends id stamp → Transmits config id stamp

section Step

variable {pool : TwoPool} {phases : Nat → KeyPhase} {task : Nat} {later : KeyPhase}

/-- A request that we record agrees with all that is under way. -/
theorem Kept.records (kept : Kept config pool.shared phases pool.trace) {request : PairingRequest}
    (settled : Settled config pool request.pairTimestamp)
    (moved : move config (phases task) (ours (.pairing (.requestInsert .outgoing config.theirId request))) () = some later) :
    Kept config ((ours (.pairing (.requestInsert .outgoing config.theirId request))).exec config pool.shared).2
      (Function.update phases task later)
      (pool.trace ++ [(task, ⟨ours (.pairing (.requestInsert .outgoing config.theirId request)), ()⟩)]) := by
  have agrees {stamp : Int} (same : stamp = request.pairTimestamp) :
      Agrees config stamp ((ours (.pairing (.requestInsert .outgoing config.theirId request))).exec config pool.shared).2 := by
    intro pending found
    have inserted : some request = some pending := (AList.lookup_insert pool.shared.ours.pairing.outgoing).symm.trans found
    rw [same, Option.some.inj inserted]
  refine ⟨Pool.reached_append kept.reached moved, fun other stamp carries => ?_, fun bytes member stamp known => ?_,
    fun pending there => ?_, kept.unasked⟩
  · by_cases same : other = task
    · subst same
      rw [Function.update_self] at carries
      rcases carried_ours (s := pool.shared) moved carries with before | ⟨_, inserted, rfl⟩ | ⟨looked, -⟩
      · exact agrees (settled.carried other stamp (by rw [phaseOf, kept.reached]; exact before))
      · obtain rfl := (PairingAction.requestInsert.inj (DaemonAction.pairing.inj inserted)).2.2
        exact agrees rfl
      · cases looked
    · rw [Function.update_of_ne same] at carries
      exact agrees (settled.carried other stamp (by rw [phaseOf, kept.reached]; exact carries))
  · have member : bytes ∈ pool.shared.wire := by simpa [TwoAction.exec, puts] using member
    exact agrees (settled.wire bytes member stamp known)
  · exact agrees (settled.pending pending ⟨there.found, there.live⟩)

/-- Another action of ours leaves the pending request or none, and writes only what agrees with it. -/
theorem Kept.ours (kept : Kept config pool.shared phases pool.trace) {action : DaemonAction}
    (other : ∀ request, action ≠ .pairing (.requestInsert .outgoing config.theirId request))
    (written : ∀ link bytes stamp, action = .writeFramed config.theirId link bytes → heard config.theirs.codec bytes = some stamp →
      Agrees config stamp pool.shared)
    (moved : move config (phases task) (ours action) ((ours action).exec config pool.shared).1 = some later) :
    Kept config ((ours action).exec config pool.shared).2 (Function.update phases task later)
      (pool.trace ++ [(task, ⟨ours action, ((ours action).exec config pool.shared).1⟩)]) := by
  refine ⟨Pool.reached_append kept.reached moved, fun holder stamp carries => ?_, fun bytes member stamp known => ?_,
    fun pending there => ?_, kept.unasked⟩
  · by_cases same : holder = task
    · subst same
      rw [Function.update_self] at carries
      rcases carried_ours moved carries with before | ⟨request, inserted, -⟩ | ⟨-, request, found, rfl⟩
      · exact (kept.carried holder stamp before).ours other
      · exact absurd inserted (other request)
      · refine Agrees.ours (fun pending here => ?_) other
        rw [Option.some.inj (here.symm.trans found)]
    · rw [Function.update_of_ne same] at carries
      exact (kept.carried holder stamp carries).ours other
  · rcases List.mem_append.mp member with before | put
    · exact (kept.wire bytes before stamp known).ours other
    · cases action with
      | writeFramed e link sent =>
        have here : e = config.theirId ∧ bytes = sent := by
          change bytes ∈ (if e = config.theirId ∧ _ then [sent] else []) at put
          split at put
          · rename_i reaches
            exact ⟨reaches.1, List.mem_singleton.mp put⟩
          · cases put
        obtain ⟨rfl, rfl⟩ := here
        exact (written link bytes stamp rfl known).ours other
      | _ => cases put
  · exact (kept.pending pending ⟨there.found, there.live⟩).ours other

/-- An action of theirs records only what agrees, and revives nothing. -/
theorem Kept.theirs (kept : Kept config pool.shared phases pool.trace) {action : DaemonAction}
    (initiate : ∀ request, action ≠ .pairing (.requestInsert .outgoing config.ourId request))
    (receive : ∀ request, action = .pairing (.requestInsert .incoming config.ourId request) → ∃ stamp, phases task = handling stamp)
    (clock : ∀ duration, action = .pass duration → 0 ≤ duration)
    (moved : move config (phases task) (TwoAction.theirs action) ((TwoAction.theirs action).exec config pool.shared).1 = some later) :
    Kept config ((TwoAction.theirs action).exec config pool.shared).2 (Function.update phases task later)
      (pool.trace ++ [(task, ⟨TwoAction.theirs action, ((TwoAction.theirs action).exec config pool.shared).1⟩)]) := by
  refine ⟨Pool.reached_append kept.reached moved, fun holder stamp carries => ?_, kept.wire, fun pending there => ?_, ?_⟩
  · by_cases same : holder = task
    · subst same
      rw [Function.update_self, carried_theirs moved] at carries
      exact kept.carried holder stamp carries
    · rw [Function.update_of_ne same] at carries
      exact kept.carried holder stamp carries
  · by_cases records : ∃ request, action = .pairing (.requestInsert .incoming config.ourId request)
    · obtain ⟨request, rfl⟩ := records
      obtain ⟨stamp, handles⟩ := receive request rfl
      rw [handles] at moved
      have same : request.pairTimestamp = stamp := (Option.ite_none_right_eq_some.mp moved).1 rfl
      have inserted : some request = some pending :=
        (AList.lookup_insert pool.shared.theirs.pairing.incoming).symm.trans there.found
      rw [← Option.some.inj inserted, same]
      exact kept.carried task stamp (by rw [handles]; rfl)
    · rcases daemon_request_kept config.theirs.codec pool.shared.theirs
        (fun request same => records ⟨request, same⟩) with none | same
      · exact absurd (none.symm.trans there.found) nofun
      · have found := same.symm.trans there.found
        have ahead := daemon_now config.theirs.codec pool.shared.theirs clock
        refine kept.pending pending ⟨found, ?_⟩
        have live := there.live
        simp only [PairingRequest.expiredAt, decide_eq_false_iff_not] at live ⊢
        exact fun expired => live (Int.lt_of_lt_of_le expired ahead)
  · rcases daemon_request_kept config.theirs.codec pool.shared.theirs initiate with none | same
    · exact none
    · exact same.trans kept.unasked

/-- A frame that is read is one that was on the wire. -/
theorem Kept.reads (kept : Kept config pool.shared phases pool.trace)
    (moved : move config (phases task) readFrame (readFrame.exec config pool.shared).1 = some later) :
    Kept config (readFrame.exec config pool.shared).2 (Function.update phases task later)
      (pool.trace ++ [(task, ⟨readFrame, (readFrame.exec config pool.shared).1⟩)]) := by
  refine ⟨Pool.reached_append kept.reached moved, fun holder stamp carries => ?_, fun bytes member => ?_,
    fun pending there => kept.pending pending ⟨there.found, there.live⟩, kept.unasked⟩
  · by_cases same : holder = task
    · subst same
      rw [Function.update_self] at carries
      obtain ⟨bytes, waits, known⟩ := carried_frame moved carries
      exact kept.wire bytes waits stamp known
    · rw [Function.update_of_ne same] at carries
      exact kept.carried holder stamp carries
  · exact kept.wire bytes (List.mem_of_mem_tail member)

/-- Where a call, a set-up or the handling of a frame begins or ends nothing is carried. -/
theorem Kept.marks (kept : Kept config pool.shared phases pool.trace) {action : TwoAction} {answer : action.Answer}
    (moved : move config (phases task) action answer = some later) (none : later.carried = none) :
    Kept config pool.shared (Function.update phases task later) (pool.trace ++ [(task, ⟨action, answer⟩)]) := by
  refine ⟨Pool.reached_append kept.reached moved, fun holder stamp carries => ?_, kept.wire, kept.pending, kept.unasked⟩
  by_cases same : holder = task
  · subst same
    rw [Function.update_self, none] at carries
    cases carries
  · rw [Function.update_of_ne same] at carries
    exact kept.carried holder stamp carries

end Step

theorem invariant (config : TwoSettings) :
    Pool.Invariant (move config) idle (fun _ => True) (TwoAction.exec config) (TwoTask.program config) (Permitted config) (Kept config) where
  follows task := follows_task config task
  kept := by
    intro pool phases task action later kept next permitted moved
    have reached (task : Nat) : phaseOf config pool task = phases task := kept.reached task
    cases action with
    | ours action =>
      by_cases records : ∃ request, action = .pairing (.requestInsert .outgoing config.theirId request)
      · obtain ⟨request, rfl⟩ := records
        exact kept.records (permitted.agreed.request task request rfl next) moved
      · refine kept.ours (fun request same => records ⟨request, same⟩) (fun link bytes stamp same known => ?_) moved
        subst same
        by_cases sending : ∃ id held, phases task = sends id held
        · obtain ⟨id, held, here⟩ := sending
          have written := moved
          rw [here] at written
          have transmits := permitted.transmits task id held rfl ((reached task).trans here)
          have sent := transmits.heard (written_of_sends written)
          obtain rfl : held = stamp := Option.some.inj (sent.symm.trans known)
          exact kept.carried task held (by rw [here]; rfl)
        · refine permitted.agreed.accept task link bytes stamp rfl next (fun id held here => ?_) known
          exact sending ⟨id, held, (reached task).symm.trans here⟩
    | theirs action =>
      refine kept.theirs (fun request same => ?_) (fun request same => ?_) (fun duration same => ?_) moved
      · subst same
        exact permitted.unasked.initiate task request rfl next
      · subst same
        obtain ⟨stamp, here⟩ := permitted.unasked.receive task request rfl next
        exact ⟨stamp, (reached task).symm.trans here⟩
      · subst same
        exact permitted.unasked.clock task duration rfl next
    | readFrame => exact kept.reads moved
    | callStart =>
      refine kept.marks moved ?_
      cases here : phases task with
      | idle =>
        rw [here] at moved
        obtain rfl := Option.some.inj moved
        rfl
      | _ =>
        rw [here] at moved
        cases moved
    | setUpStart =>
      refine kept.marks moved ?_
      cases here : phases task with
      | idle =>
        rw [here] at moved
        obtain rfl := Option.some.inj moved
        rfl
      | _ =>
        rw [here] at moved
        cases moved
    | ended =>
      refine kept.marks moved ?_
      cases here : phases task with
      | handling stamp =>
        rw [here] at moved
        cases moved
      | _ =>
        rw [here] at moved
        obtain rfl := Option.some.inj moved
        rfl
    | frameHandled =>
      refine kept.marks moved ?_
      cases here : phases task with
      | idle | handling stamp =>
        rw [here] at moved
        obtain rfl := Option.some.inj moved
        rfl
      | _ =>
        rw [here] at moved
        cases moved

/-- The key does not depend on whose public key is ours. -/
theorem computeVerificationKey_comm (platform : Platform) (ourKey theirKey : Bytes) (stamp : Int) :
    CertificateManager.computeVerificationKey platform ourKey theirKey stamp =
      CertificateManager.computeVerificationKey platform theirKey ourKey stamp := by
  have sorted : (if theirKey < ourKey then ourKey ++ theirKey else theirKey ++ ourKey) =
      if ourKey < theirKey then theirKey ++ ourKey else ourKey ++ theirKey := by
    by_cases below : theirKey < ourKey
    · rw [if_pos below, if_neg (List.lt_asymm below)]
    · by_cases above : ourKey < theirKey
      · rw [if_neg below, if_pos above]
      · rw [if_neg below, if_neg above, List.le_antisymm (List.not_lt.mp below) (List.not_lt.mp above)]
  simp only [CertificateManager.computeVerificationKey, sorted]

/-- There is no request between the two, and nothing on the wire. -/
structure Quiet (config : TwoSettings) (s : TwoDaemons) : Prop where
  outgoing : s.theirs.pairing.outgoing.lookup config.ourId = none
  incoming : s.theirs.pairing.incoming.lookup config.ourId = none
  wire : s.wire = []

theorem usedTimestamp_outgoing {s : DaemonState} {d : DeviceId} (requested : pairStateOf s d = .requested) :
    ∃ request, s.pairing.outgoing.lookup d = some request ∧
      usedTimestamp s d = if request.pairTimestamp = 0 then none else some request.pairTimestamp := by
  rw [pairStateOf, PairingHandler.run_pairState] at requested
  obtain ⟨request, found, live⟩ := PairingHandler.requested_live requested
  refine ⟨request, found, ?_⟩
  rw [usedTimestamp, PairingHandler.run_verificationTimestamp, found]
  simp [live]

theorem usedTimestamp_incoming {s : DaemonState} {d : DeviceId} (asked : pairStateOf s d = .requestedByPeer)
    (unasked : s.pairing.outgoing.lookup d = none) :
    ∃ request, s.pairing.incoming.lookup d = some request ∧ request.expiredAt s.pairing.now = false ∧
      usedTimestamp s d = if request.pairTimestamp = 0 then none else some request.pairTimestamp := by
  rw [pairStateOf, PairingHandler.run_pairState, PairingState.pairStateOf, unasked] at asked
  cases found : s.pairing.incoming.lookup d with
  | none =>
    rw [found] at asked
    split at asked <;> simp at asked
  | some request =>
    rw [found] at asked
    cases live : request.expiredAt s.pairing.now with
    | true =>
      split at asked <;> simp [live] at asked
    | false =>
      refine ⟨request, rfl, live, ?_⟩
      rw [usedTimestamp, PairingHandler.run_verificationTimestamp, unasked, found]
      simp [live]

/-- In a run in which their user asks for no pairing, and in which we record a
request only when no earlier one with another timestamp is under way or
pending with them, both sides compute the key from one timestamp while our
request is pending on both: they show the same key. -/
theorem same_key (config : TwoSettings) (start : TwoDaemons) (turns : List (Turn TwoTask)) (quiet : Quiet config start)
    (unasked : ∀ k turn, turns[k]? = some turn → Unasked config (atTurn config start turns k) turn)
    (transmits : ∀ k task id stamp, turns[k]? = some (.take task) →
      phaseOf config (atTurn config start turns k) task = sends id stamp → Transmits config id stamp)
    (agreed : ∀ k turn, turns[k]? = some turn → Agreed config (atTurn config start turns k) turn) (k : Nat)
    (requested : pairStateOf (atTurn config start turns k).shared.ours config.theirId = .requested)
    (asked : pairStateOf (atTurn config start turns k).shared.theirs config.ourId = .requestedByPeer) :
    usedTimestamp (atTurn config start turns k).shared.ours config.theirId =
        usedTimestamp (atTurn config start turns k).shared.theirs config.ourId ∧
      ∀ platform ourKey theirKey,
        (usedTimestamp (atTurn config start turns k).shared.ours config.theirId).map
            (CertificateManager.computeVerificationKey platform ourKey theirKey) =
          (usedTimestamp (atTurn config start turns k).shared.theirs config.ourId).map
            (CertificateManager.computeVerificationKey platform theirKey ourKey) := by
  have first : Kept config start (fun _ => idle) [] := by
    refine ⟨fun _ => rfl, fun _ _ => nofun, fun bytes member => ?_, fun request there => ?_, quiet.outgoing⟩
    · rw [quiet.wire] at member
      cases member
    · exact absurd (quiet.incoming.symm.trans there.found) nofun
  obtain ⟨phases, -, kept⟩ := (invariant config).run first (fun k turn here =>
    ⟨unasked k turn here, agreed k turn here, fun task id stamp taken => transmits k task id stamp (taken ▸ here)⟩) k
  obtain ⟨ours, mine, shown⟩ := usedTimestamp_outgoing requested
  obtain ⟨theirs, found, live, shownThere⟩ := usedTimestamp_incoming asked kept.unasked
  have agrees : ours.pairTimestamp = theirs.pairTimestamp := kept.pending theirs ⟨found, live⟩ ours mine
  have same : usedTimestamp (atTurn config start turns k).shared.ours config.theirId =
      usedTimestamp (atTurn config start turns k).shared.theirs config.ourId := by
    change usedTimestamp _ config.ourId = _ at shownThere
    rw [shown, shownThere, agrees]
  refine ⟨same, fun platform ourKey theirKey => ?_⟩
  rw [same, funext (computeVerificationKey_comm platform ourKey theirKey)]

section Sample

open RefusedAttempts

def requestText (digits : String) : String :=
  "\x7b" ++ ("\"id\":0,\"type\":\"kdeconnect.pair\",\"body\":\x7b\"pair\":true,\"timestamp\":" ++ digits ++ "\x7d") ++ "\x7d"

def request (stamp : Int) : Packet := .pairRequestWithTimestamp 0 stamp

/-- What `serde_json` does with the requests of two moments. -/
def requestCodec : JsonCodec where
  parse text :=
    if text = requestText "1000" then .ok (request 1000).encode
    else if text = requestText "1005" then .ok (request 1005).encode
    else .error "expected value at line 1 column 1"
  decodeErrorText _ _ := ""
  valueErrorText _ := ""
  utf8ErrorText _ := ""

def printRequest (value : Json) : String :=
  requestText (if (value.get "body").bind (Json.get "timestamp") == some (.ofInt 1005) then "1005" else "1000")

/-- A desktop and a tablet that both run the daemon. -/
def desk : DaemonSettings where
  print := printRequest
  codec := requestCodec
  platform := phonePlatform
  publicKey certDer := .ok certDer
  pairing := {}
  our := { phoneIdentity with deviceId := "desk" }

def pairOfDaemons : TwoSettings where
  ours := desk
  theirs := { desk with our := phoneIdentity }

/-- They are linked, and their clocks agree. -/
def linkedDaemons : TwoDaemons where
  ours := { pairing := { now := seconds 1000 }, manager := { connections := AList.insert phoneId ⟨0, 1, some [1]⟩ ∅, nextLink := 1 } }
  theirs := { pairing := { now := seconds 1000 }, manager := { connections := AList.insert "desk" ⟨0, 1, some [2]⟩ ∅, nextLink := 1 } }

/-- We ask for a pairing, and they read the request. -/
def askedOnce : List (Turn TwoTask) :=
  (.spawn (.pairs phoneId) :: List.replicate 20 (.take 0) : List (Turn TwoTask)) ++
  (.spawn (.reads 1) :: List.replicate 23 (.take 1) : List (Turn TwoTask))

theorem request_transmits {stamp : Int} (known : stamp = 1000 ∨ stamp = 1005) : Transmits pairOfDaemons 0 stamp := by
  rcases known with rfl | rfl
  · exact ⟨⟨by decide +kernel, ⟨_, rfl⟩, PacketSerializer.escaped_of_all (by decide +kernel)⟩, by decide +kernel,
      by decide +kernel⟩
  · exact ⟨⟨by decide +kernel, ⟨_, rfl⟩, PacketSerializer.escaped_of_all (by decide +kernel)⟩, by decide +kernel,
      by decide +kernel⟩

/-- All that is known of the tasks is in the trace of the first ones. -/
def few (n : Nat) (pool : TwoPool) : Bool := pool.trace.all fun entry => entry.1 < n

theorem idle_of_few {n : Nat} {pool : TwoPool} (passes : few n pool = true) {task : Nat} (beyond : n ≤ task) :
    phaseOf pairOfDaemons pool task = idle := by
  refine Pool.reached_absent fun entry member => ?_
  have inside : entry.1 < n := by simpa using List.all_eq_true.mp passes entry member
  omega

def isSettled (n : Nat) (pool : TwoPool) (stamp : Int) : Bool :=
  few n pool && (List.range n).all (fun task => (phaseOf pairOfDaemons pool task).carried.all (· == stamp)) &&
    pool.shared.wire.all (fun bytes => (heard requestCodec bytes).all (· == stamp)) &&
    (pool.shared.theirs.pairing.incoming.lookup "desk").all fun request =>
      request.expiredAt pool.shared.theirs.pairing.now || request.pairTimestamp == stamp

theorem settled_of_isSettled {n : Nat} {pool : TwoPool} {stamp : Int} (passes : isSettled n pool stamp = true) :
    Settled pairOfDaemons pool stamp := by
  simp only [isSettled, Bool.and_eq_true, List.all_eq_true, List.mem_range, Option.all_eq_true, beq_iff_eq, Bool.or_eq_true] at passes
  obtain ⟨⟨⟨few, carried⟩, wire⟩, pending⟩ := passes
  refine ⟨fun task other carries => ?_, wire, fun request there => ?_⟩
  · by_cases inside : task < n
    · exact carried task inside other carries
    · rw [idle_of_few few (Nat.le_of_not_lt inside)] at carries
      cases carries
  · refine (pending request there.found).resolve_left ?_
    rw [there.live]
    exact Bool.false_ne_true

def sending : List KeyPhase := [sends 0 1000, sends 0 1005]

/-- What is sent in the turn is one of the two requests, and their daemon only does what it may. -/
def keepsQuiet (pool : TwoPool) : Turn TwoTask → Bool
  | .spawn _ => true
  | .take task =>
    (match phaseOf pairOfDaemons pool task with
      | sends id stamp => sending.contains (sends id stamp)
      | _ => true) &&
    match pool.next task with
    | some (theirs (.pairing (.requestInsert q _ _))) =>
      q == .incoming && [handling 1000, handling 1005].contains (phaseOf pairOfDaemons pool task)
    | some (theirs (.pass duration)) => decide (0 ≤ duration)
    | _ => true

/-- What we record in the turn agrees with all that is under way, and what we write is a request. -/
def keepsAgreed (pool : TwoPool) : Turn TwoTask → Bool
  | .spawn _ => true
  | .take task =>
    match pool.next task with
    | some (ours (.pairing (.requestInsert .outgoing _ request))) => isSettled 2 pool request.pairTimestamp
    | some (ours (.writeFramed _ _ _)) => sending.contains (phaseOf pairOfDaemons pool task)
    | _ => true

theorem unasked_of_keepsQuiet {pool : TwoPool} {turn : Turn TwoTask} (passes : keepsQuiet pool turn = true) :
    Unasked pairOfDaemons pool turn := by
  refine ⟨?_, ?_, ?_⟩
  · rintro task request rfl next
    rw [keepsQuiet, next, Bool.and_eq_true] at passes
    exact absurd passes.2 Bool.false_ne_true
  · rintro task request rfl next
    rw [keepsQuiet, next, Bool.and_eq_true] at passes
    have among := List.contains_iff_mem.mp (Bool.and_eq_true _ _ |>.mp passes.2).2
    rcases List.mem_cons.mp among with first | second
    · exact ⟨1000, first⟩
    · exact ⟨1005, List.mem_singleton.mp second⟩
  · rintro task duration rfl next
    rw [keepsQuiet, next, Bool.and_eq_true] at passes
    exact of_decide_eq_true passes.2

theorem transmits_of_keepsQuiet {pool : TwoPool} {task : Nat} (passes : keepsQuiet pool (.take task) = true) {id : Int64} {stamp : Int}
    (here : phaseOf pairOfDaemons pool task = sends id stamp) : Transmits pairOfDaemons id stamp := by
  rw [keepsQuiet, here, Bool.and_eq_true] at passes
  have among := List.contains_iff_mem.mp passes.1
  rcases List.mem_cons.mp among with first | second
  · cases first
    exact request_transmits (.inl rfl)
  · cases List.mem_singleton.mp second
    exact request_transmits (.inr rfl)

theorem agreed_of_keepsAgreed {pool : TwoPool} {turn : Turn TwoTask} (passes : keepsAgreed pool turn = true) :
    Agreed pairOfDaemons pool turn := by
  refine ⟨?_, ?_⟩
  · rintro task request rfl next
    rw [keepsAgreed, next] at passes
    exact settled_of_isSettled passes
  · rintro task link bytes stamp rfl next apart -
    rw [keepsAgreed, next] at passes
    rcases List.mem_cons.mp (List.contains_iff_mem.mp passes) with first | second
    · exact absurd first (apart 0 1000)
    · exact absurd (List.mem_singleton.mp second) (apart 0 1005)

theorem quiet_linkedDaemons : Quiet pairOfDaemons linkedDaemons := ⟨rfl, rfl, rfl⟩

/-- Our request is pending on both sides. -/
def isPending (pool : TwoPool) : Bool :=
  pairStateOf pool.shared.ours pairOfDaemons.theirId == .requested && pairStateOf pool.shared.theirs pairOfDaemons.ourId == .requestedByPeer

theorem pending_of_isPending {pool : TwoPool} (passes : isPending pool = true) :
    pairStateOf pool.shared.ours pairOfDaemons.theirId = .requested ∧
      pairStateOf pool.shared.theirs pairOfDaemons.ourId = .requestedByPeer := by
  rw [isPending, Bool.and_eq_true] at passes
  exact ⟨beq_iff_eq.mp passes.1, beq_iff_eq.mp passes.2⟩

/-- The desktop and the tablet show the same key. -/
theorem asked_once_same_key :
    usedTimestamp (atTurn pairOfDaemons linkedDaemons askedOnce askedOnce.length).shared.ours pairOfDaemons.theirId =
        usedTimestamp (atTurn pairOfDaemons linkedDaemons askedOnce askedOnce.length).shared.theirs pairOfDaemons.ourId ∧
      ∀ platform ourKey theirKey,
        (usedTimestamp (atTurn pairOfDaemons linkedDaemons askedOnce askedOnce.length).shared.ours pairOfDaemons.theirId).map
            (CertificateManager.computeVerificationKey platform ourKey theirKey) =
          (usedTimestamp (atTurn pairOfDaemons linkedDaemons askedOnce askedOnce.length).shared.theirs pairOfDaemons.ourId).map
            (CertificateManager.computeVerificationKey platform theirKey ourKey) := by
  have passes : Pool.along (TwoAction.exec pairOfDaemons) (TwoTask.program pairOfDaemons)
      (fun pool turn => keepsQuiet pool turn && keepsAgreed pool turn) isPending (Pool.start linkedDaemons) askedOnce = true := by
    decide +kernel
  have last : isPending (atTurn pairOfDaemons linkedDaemons askedOnce askedOnce.length) = true := (Pool.along_after passes).2
  have each (k : Nat) (turn : Turn TwoTask) (here : askedOnce[k]? = some turn) :
      keepsQuiet (atTurn pairOfDaemons linkedDaemons askedOnce k) turn = true ∧
        keepsAgreed (atTurn pairOfDaemons linkedDaemons askedOnce k) turn = true :=
    Bool.and_eq_true _ _ |>.mp ((Pool.along_after passes).1 k turn here)
  obtain ⟨requested, asked⟩ := pending_of_isPending last
  exact same_key pairOfDaemons linkedDaemons askedOnce quiet_linkedDaemons (fun k turn here => unasked_of_keepsQuiet (each k turn here).1)
    (fun k task id stamp here => transmits_of_keepsQuiet (each k _ here).1) (fun k turn here => agreed_of_keepsAgreed (each k turn here).2)
    askedOnce.length requested asked

/-- Every pair packet of ours was handled. -/
structure Handled (config : TwoSettings) (pool : TwoPool) : Prop where
  wire : pool.shared.wire = []
  tasks : ∀ task stamp, phaseOf config pool task ≠ handling stamp

/-- We ask again five seconds later; the tablet ignores the second request. -/
def askedTwice : List (Turn TwoTask) :=
  askedOnce ++ ([.spawn (.ours (Daemon.perform (.pass (seconds 5)))), .take 2] : List (Turn TwoTask)) ++
  (.spawn (.pairs phoneId) :: List.replicate 20 (.take 3) : List (Turn TwoTask)) ++
  (.spawn (.reads 1) :: List.replicate 23 (.take 4) : List (Turn TwoTask))

theorem handled_of_few {n : Nat} {pool : TwoPool} (passes : few n pool = true) (empty : pool.shared.wire = [])
    (done : (List.range n).all (fun task => (phaseOf pairOfDaemons pool task).carried.isNone) = true) : Handled pairOfDaemons pool := by
  refine ⟨empty, fun task stamp here => ?_⟩
  by_cases inside : task < n
  · have none := List.all_eq_true.mp done task (List.mem_range.mpr inside)
    rw [here] at none
    cases none
  · rw [idle_of_few passes (Nat.le_of_not_lt inside)] at here
    cases here

/-- All is handled, and the timestamps differ. -/
def isApart (pool : TwoPool) : Bool :=
  few 5 pool && pool.shared.wire.isEmpty && (List.range 5).all (fun task => (phaseOf pairOfDaemons pool task).carried.isNone) &&
    usedTimestamp pool.shared.ours pairOfDaemons.theirId != usedTimestamp pool.shared.theirs pairOfDaemons.ourId

theorem apart_of_isApart {pool : TwoPool} (passes : isApart pool = true) :
    Handled pairOfDaemons pool ∧
      usedTimestamp pool.shared.ours pairOfDaemons.theirId ≠ usedTimestamp pool.shared.theirs pairOfDaemons.ourId := by
  simp only [isApart, Bool.and_eq_true, List.isEmpty_iff, bne_iff_ne] at passes
  obtain ⟨⟨⟨known, empty⟩, done⟩, differ⟩ := passes
  exact ⟨handled_of_few known empty done, differ⟩

/-- The desktop shows the key of the second request, the tablet that of the first. -/
theorem asked_twice_other_key :
    ¬∀ (config : TwoSettings) (start : TwoDaemons) (turns : List (Turn TwoTask)), Quiet config start →
      (∀ k turn, turns[k]? = some turn → Unasked config (atTurn config start turns k) turn) →
      (∀ k task id stamp, turns[k]? = some (.take task) → phaseOf config (atTurn config start turns k) task = sends id stamp →
        Transmits config id stamp) →
      ∀ k, Handled config (atTurn config start turns k) →
        pairStateOf (atTurn config start turns k).shared.ours config.theirId = .requested →
        pairStateOf (atTurn config start turns k).shared.theirs config.ourId = .requestedByPeer →
        usedTimestamp (atTurn config start turns k).shared.ours config.theirId =
          usedTimestamp (atTurn config start turns k).shared.theirs config.ourId := by
  intro all
  have passes : Pool.along (TwoAction.exec pairOfDaemons) (TwoTask.program pairOfDaemons) keepsQuiet
      (fun pool => isPending pool && isApart pool) (Pool.start linkedDaemons) askedTwice = true := by decide +kernel
  have each (k : Nat) (turn : Turn TwoTask) (here : askedTwice[k]? = some turn) :
      keepsQuiet (atTurn pairOfDaemons linkedDaemons askedTwice k) turn = true := (Pool.along_after passes).1 k turn here
  have last : isPending (atTurn pairOfDaemons linkedDaemons askedTwice askedTwice.length) = true ∧
      isApart (atTurn pairOfDaemons linkedDaemons askedTwice askedTwice.length) = true :=
    Bool.and_eq_true _ _ |>.mp (Pool.along_after passes).2
  obtain ⟨requested, asked⟩ := pending_of_isPending last.1
  obtain ⟨handled, differ⟩ := apart_of_isApart last.2
  exact differ (all pairOfDaemons linkedDaemons askedTwice quiet_linkedDaemons (fun k turn here => unasked_of_keepsQuiet (each k turn here))
    (fun k task id stamp here => transmits_of_keepsQuiet (each k _ here)) askedTwice.length handled requested asked)

end Sample

end SharedKey

end RustConnect
