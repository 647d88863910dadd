import RustConnect.SelfLinks

namespace RustConnect

open Program DaemonAction Daemon

namespace Reconnects

/-- How far a task that handles an announcement has come: after its first
dial, so many looks at the pairing belong to the set-up of the link, and the
next one decides whether the loop is entered. -/
inductive DialPhase
  | fresh
  | dialled
  | settingUp (looks : Nat)
  | looping (deviceId : DeviceId)
  | finished
  deriving DecidableEq

open DialPhase

def move : DialPhase → (action : DaemonAction) → action.Answer → Option DialPhase
  | fresh, dialing (.start _), _ => some dialled
  | looping d, dialing (.start identity), _ => if identity.deviceId = d then some (looping d) else none
  | _, dialing (.start _), _ => none
  | dialled, manager (.registerCancelTokenIfCurrent _ _ _), up => some (settingUp (if up then 2 else 0))
  | settingUp (looks + 1), pairing (.pairedContains _), _ => some (settingUp looks)
  | settingUp 0, pairing (.pairedContains d), paired => some (if paired then looping d else finished)
  | phase, _, _ => some phase

example : move (settingUp 0) (pairing (.pairedContains "phone")) true = some (looping "phone") := by simp [move]

/-- A task has entered its reconnect loop for the device, and has not ended. -/
def UnderWay (d : DeviceId) (pool : Pool DaemonAction DaemonAction.Answer DaemonState) (task : Nat) : Prop :=
  Pool.reached move fresh pool.trace task = looping d ∧ pool.next task ≠ none

/-- No device is taken out of `paired` while a reconnect loop for it is under way. -/
def Steady (pool : Pool DaemonAction DaemonAction.Answer DaemonState) (turn : Turn DialTask) : Prop :=
  ∀ task, turn = .take task → ∀ d, pool.next task = some (pairing (.pairedRemove d)) → ∀ looper, ¬UnderWay d pool looper

/-- Turn `k` is the start of a dial of a reconnect loop: its task has dialled before. -/
structure Redials (config : DaemonSettings) (start : DaemonState) (turns : List (Turn DialTask)) (k task : Nat)
    (identity : Identity) : Prop where
  turn : turns[k]? = some (.take task)
  dials : (SelfLinks.atTurn config start turns k).next task = some (dialing (.start identity))
  before : ∃ first, (task, ⟨dialing (.start first), ()⟩) ∈ (SelfLinks.atTurn config start turns k).trace

section Follows

variable {config : DaemonSettings} {phase : DialPhase} {α : Type}

/-- What moves the phase of no task. -/
def Aside : DaemonAction → Prop
  | manager (.registerCancelTokenIfCurrent _ _ _) | pairing (.pairedContains _) | dialing (.start _) => False
  | _ => True

theorem move_aside {action : DaemonAction} (aside : Aside action) (answer : action.Answer) :
    move phase action answer = some phase := by
  cases action with
  | manager action => cases action <;> first | exact aside.elim | (cases phase <;> rfl)
  | pairing action => cases action <;> first | exact aside.elim | (cases phase <;> rfl)
  | dialing action => cases action <;> first | exact aside.elim | (cases phase <;> rfl)
  | _ => cases phase <;> rfl

theorem follows_aside {program : DaemonProgram α} {T : α → Prop} (only : program.Only Aside T) :
    Follows move phase program fun later value => later = phase ∧ T value :=
  only.follows fun _ aside answer => move_aside aside answer

theorem aside_of_serves {action : ManagerAction} (serves : action.Serves) : Aside (manager action) := by
  cases action <;> first | exact serves.elim | trivial

theorem aside_sendPacket (d : DeviceId) (packet : Packet) : Only (sendPacket config.print d packet).run Aside fun _ => True :=
  only_sendPacket trivial trivial trivial (fun _ _ => trivial) fun _ => aside_of_serves

/-- A look at the pairing, and the request that may be sent after it. -/
theorem follows_sendQueuedRequest (d : DeviceId) :
    Follows move (settingUp 2) (ConnectionSetup.sendQueuedRequest config.print d) fun later _ => later = settingUp 1 := by
  have sends (timestamp : Int) : Follows move (settingUp 1) (do
      let id ← perform generatePacketId
      attempt (sendPacket config.print d (.pairRequestWithTimestamp id timestamp))) fun later _ => later = settingUp 1 := by
    refine fun id => ⟨settingUp 1, rfl, (follows_attempt _ _).mpr ((follows_aside (aside_sendPacket d _)).weaken ?_)⟩
    exact fun _ _ same => same.1
  refine fun paired => ⟨settingUp 1, rfl, ?_⟩
  cases paired with
  | true => rfl
  | false =>
    refine fun found => ⟨settingUp 1, rfl, ?_⟩
    cases found with
    | none => rfl
    | some request =>
      refine fun moment => ⟨settingUp 1, rfl, ?_⟩
      show Follows move (settingUp 1)
        (Program.hoist _ (if request.expiredAt moment then pure none else pure (some request.pairTimestamp)) >>= _) _
      split
      · rfl
      · exact sends request.pairTimestamp

theorem follows_setup (d : DeviceId) (identity : Identity) (generation : UInt64) :
    Follows move dialled (ConnectionSetup.runConnectionSetup config.print d identity generation) fun later _ =>
      later = settingUp 0 := by
  refine fun token => ⟨dialled, rfl, fun up => ⟨settingUp (if up then 2 else 0), rfl, ?_⟩⟩
  cases up with
  | false => rfl
  | true =>
    have connected : (ConnectionSetup.ensureConnected d identity).Only Aside fun _ => True :=
      ConnectionSetup.only_ensureConnected identity trivial trivial trivial (fun _ => trivial) trivial
    refine (follows_bind (ConnectionSetup.ensureConnected d identity) _ _).mpr ((follows_aside connected).weaken ?_)
    rintro _ - ⟨rfl, -⟩
    refine (follows_bind _ _ _).mpr ((follows_sendQueuedRequest d).weaken ?_)
    rintro _ - rfl
    refine (follows_bind _ _ _).mpr fun paired => ⟨settingUp 0, rfl, ?_⟩
    cases paired with
    | false => rfl
    | true => exact fun _ => ⟨settingUp 0, rfl, rfl⟩

/-- The dial registers no token, and the device that it reaches is the one that was announced. -/
theorem aside_connectToDevice (identity : Identity) (peer : OutboundPeer) :
    Only (onManager (ConnectionManager.connectToDevice config.codec config.platform
        { peer with expectedIdentity := some identity }).run)
      Aside fun result => ∀ connectedId remoteIdentity generation, result = .ok (connectedId, remoteIdentity, generation) →
        connectedId = identity.deviceId := by
  have vetting {action : ManagerAction} (vetting : LinkGenerations.vets action) : Aside (manager action) := by
    cases action <;> first | exact vetting.elim | trivial
  have registering {d : DeviceId} {action : ManagerAction} (registering : registers d action) : Aside (manager action) := by
    cases action <;> first | exact registering.elim | trivial
  refine Only.hoist (P := fun action => Aside (manager action)) ?_ fun action aside => ⟨aside, fun _ => trivial⟩
  unfold ConnectionManager.connectToDevice ConnectionManager.checkOutgoing
  simp only [only_except_bind, only_except_ofExcept]
  refine ((only_dial _).weaken (fun action dialling => ?_) fun _ => id).followedBy fun dialled => ?_
  · cases action <;> first | exact dialling.elim | trivial
  cases dialled with
  | error e =>
    intro _ _ _ reached
    cases reached
  | ok =>
  dsimp only
  cases exchanged : ConnectionManager.exchange config.codec config.platform { peer with expectedIdentity := some identity } with
  | error e =>
    intro _ _ _ reached
    cases reached
  | ok passed =>
  have checks := (LinkGenerations.only_checkCertificate (d := passed.2.1.deviceId) config.platform passed.1).weaken
    (fun _ => vetting) fun _ => id
  refine checks.followedBy fun checked => ?_
  cases checked with
  | error e =>
    intro _ _ _ reached
    cases reached
  | ok =>
    have registration := (only_registerOutbound passed.2.1 passed.1 (.new passed.2.2.intoInner)).weaken
      (fun _ => registering) fun _ => id
    refine (only_except_lift _ _).mpr (registration.followedBy fun generation => ?_)
    rintro _ _ _ ⟨⟩
    exact SelfLinks.exchange_expected exchanged

theorem follows_dialMarked (identity : Identity) (d : DeviceId) (peer : OutboundPeer) :
    Follows move fresh (Discovery.dialMarked config identity d peer) fun later result =>
      ∀ connectedId remoteIdentity generation, result = some (.ok (connectedId, remoteIdentity, generation)) →
        later = dialled ∧ connectedId = identity.deviceId := by
  refine fun added => ⟨fresh, rfl, ?_⟩
  cases added with
  | false => exact nofun
  | true =>
    refine fun _ => ⟨dialled, rfl, (follows_bind (onManager _) _ _).mpr ?_⟩
    refine (follows_aside (aside_connectToDevice identity peer)).weaken ?_
    rintro _ result ⟨rfl, reached⟩
    refine fun _ => ⟨dialled, rfl, fun connectedId remoteIdentity generation same => ⟨rfl, ?_⟩⟩
    exact reached connectedId remoteIdentity generation (Option.some.inj same)

theorem follows_reconnectLoop {identity : Identity} {d : DeviceId} (same : identity.deviceId = d) (peers : List OutboundPeer) :
    Follows move (looping d) (Discovery.reconnectLoop config identity d peers) fun _ _ => True := by
  refine ((Discovery.only_reconnectLoop d peers).follows fun action kept answer => ?_).weaken fun _ _ _ => trivial
  cases action with
  | dialing action =>
    cases action with
    | start dialled =>
      obtain rfl : dialled = identity := kept
      exact if_pos same
    | _ => rfl
  | _ => rfl

theorem follows_discovered (identity : Identity) (peer : OutboundPeer) (later : List OutboundPeer) :
    Follows move fresh (Discovery.onDeviceDiscovered config identity peer later) fun _ _ => True := by
  have refuses : Follows move fresh (Discovery.refusesDowngrade identity) fun later _ => later = fresh := by
    refine fun paired => ⟨fresh, rfl, ?_⟩
    cases paired with
    | false => rfl
    | true =>
      refine fun known => ⟨fresh, rfl, ?_⟩
      cases known <;> rfl
  refine fun now => ⟨fresh, rfl, fun _ => ⟨fresh, rfl, fun own => ⟨fresh, rfl, ?_⟩⟩⟩
  refine (follows_ite _ _ _ _).mpr ⟨fun _ => ?_, fun _ => trivial⟩
  refine fun found => ⟨fresh, rfl, (follows_ite _ _ _ _).mpr ⟨fun _ => ?_, fun _ => trivial⟩⟩
  refine (follows_bind _ _ _).mpr (refuses.weaken ?_)
  rintro _ refused rfl
  refine (follows_ite _ _ _ _).mpr ⟨fun _ => ?_, fun _ => trivial⟩
  refine fun own => ⟨fresh, rfl, (follows_ite _ _ _ _).mpr ⟨fun _ => ?_, fun _ => trivial⟩⟩
  refine (follows_bind (Discovery.dialMarked config identity _ peer) _ _).mpr ((follows_dialMarked identity _ peer).weaken ?_)
  intro phase result reached
  rcases result with _ | _ | ⟨connectedId, remoteIdentity, generation⟩
  · trivial
  · trivial
  obtain ⟨rfl, same⟩ := reached connectedId remoteIdentity generation rfl
  refine (follows_bind _ _ _).mpr ((follows_setup connectedId remoteIdentity generation).weaken ?_)
  rintro _ - rfl
  refine fun paired => ⟨if paired then looping connectedId else finished, rfl, ?_⟩
  cases paired with
  | false => trivial
  | true => exact follows_reconnectLoop same.symm _

/-- What starts no dial. -/
def Undialled : DaemonAction → Prop
  | dialing (.start _) => False
  | _ => True

theorem undialled_of_serving {action : DaemonAction} (serving : SelfLinks.Serving action) : Undialled action := by
  cases action with
  | dialing action => exact serving.elim
  | _ => trivial

theorem follows_undialled {program : DaemonProgram Unit} (only : program.Only Undialled fun _ => True) :
    Follows move fresh program fun _ _ => True := by
  refine (only.follows fun action undialled answer => ?_).weaken fun _ _ _ => trivial
  cases action with
  | dialing action =>
    cases action with
    | start => exact undialled.elim
    | _ => rfl
  | _ => rfl

theorem follows_task (task : DialTask) : Follows move fresh (task.program config) fun _ _ => True := by
  have onManager {α : Type} (program : ManagerProgram α) : (onManager program).Only Undialled fun _ => True :=
    only_onManager (fun _ => trivial) program
  have served {α : Type} {program : DaemonProgram α} (only : program.Only SelfLinks.Serving fun _ => True) :
      program.Only Undialled fun _ => True := only.weaken (fun _ => undialled_of_serving) fun _ => id
  cases task with
  | accepted acceptPatience exchangePatience peer =>
    have strikes : Undialled timeoutElapsed := trivial
    refine follows_undialled ((only_bind _ _ _).mpr (Only.followedBy ?_ fun _ => trivial))
    refine (only_bind _ _ _).mpr (((onManager _).cutOff strikes acceptPatience).followedBy fun result => ?_)
    rcases result with _ | _ | ⟨d, identity, generation⟩
    · trivial
    · trivial
    have setUp := served (@SelfLinks.serving_inbound config exchangePatience d identity generation)
    refine (only_bind _ _ _).mpr (setUp.followedBy fun ready => ?_)
    cases ready <;> trivial
  | discovered identity peer later => exact follows_discovered identity peer later
  | connectDevice peer =>
    refine follows_undialled ((only_bind _ _ _).mpr ((onManager _).followedBy fun result => ?_))
    rcases result with _ | ⟨connectedId, remoteIdentity, generation⟩
    · trivial
    have setUp := served (@SelfLinks.serving_setup config connectedId remoteIdentity generation)
    exact (only_bind _ _ _).mpr (setUp.followedBy fun _ => trivial)
  | disconnects d generation => exact follows_undialled ((only_bind _ _ _).mpr ((onManager _).followedBy fun _ => trivial))
  | receives d generation => exact follows_undialled ((only_bind _ _ _).mpr ((onManager _).followedBy fun _ => trivial))
  | sends d packet => exact follows_undialled ((only_attempt _ _).mpr (served (SelfLinks.serving_sendPacket d packet)))
  | handles d generation packet =>
    have handles : Only (onLoop config.print (PacketLoop.handlePairPacket config.platform config.pairing d generation packet))
        Undialled fun _ => True := (only_trivial _).hoist fun action _ => served (SelfLinks.serving_translate action)
    exact follows_undialled ((only_bind _ _ _).mpr (handles.followedBy fun _ => trivial))
  | asks call => exact follows_undialled (only_onPairing (fun _ => trivial) _)
  | waits duration => exact follows_undialled ⟨trivial, fun _ => trivial⟩

end Follows

variable {config : DaemonSettings} {start : DaemonState} {turns : List (Turn DialTask)}

/-- What the trace tells of the phases of the tasks. -/
structure Kept (phases : Nat → DialPhase) (trace : List (Nat × Σ action : DaemonAction, action.Answer)) : Prop where
  reached : ∀ task, Pool.reached move fresh trace task = phases task
  begun : ∀ task identity, (task, ⟨dialing (.start identity), ()⟩) ∈ trace → phases task ≠ fresh

/-- A task enters the loop by finding the device paired. -/
theorem looping_of_move {codec : JsonCodec} {s : DaemonState} {phase : DialPhase} {action : DaemonAction} {d : DeviceId}
    (moved : move phase action (action.exec codec s).1 = some (looping d)) :
    phase = looping d ∨ FanOut.isPaired (action.exec codec s).2 d := by
  unfold move at moved
  split at moved
  · cases moved
  · split at moved
    · exact .inl (Option.some.inj moved)
    · cases moved
  · cases moved
  · cases moved
  · cases moved
  · rename_i e paired
    split at moved
    · rename_i found
      cases moved
      exact .inr found
    · cases moved
  · exact .inl (Option.some.inj moved)

theorem begun_of_move {phase later : DialPhase} {action : DaemonAction} {answer : action.Answer}
    (moved : move phase action answer = some later) (begun : phase ≠ fresh) : later ≠ fresh := by
  unfold move at moved
  split at moved
  · cases moved
    nofun
  · split at moved <;> cases moved
    nofun
  · cases moved
  · cases moved
    nofun
  · cases moved
    nofun
  · cases moved
    split <;> nofun
  · cases moved
    exact begun

theorem begun_of_start {phase later : DialPhase} {identity : Identity} {answer : Unit}
    (moved : move phase (dialing (.start identity)) answer = some later) : later ≠ fresh := by
  cases phase with
  | fresh =>
    cases moved
    nofun
  | looping d =>
    simp only [move] at moved
    split at moved <;> cases moved
    nofun
  | _ => cases moved

theorem invariant (config : DaemonSettings) :
    Pool.Invariant move fresh (fun _ => True) (DaemonAction.exec config.codec) (DialTask.program config) (fun _ _ => True)
      fun _ phases trace => Kept phases trace where
  follows task := (follows_task task).weaken fun _ _ _ => trivial
  kept := by
    intro pool phases task action later kept next _ moved
    refine ⟨Pool.reached_append kept.reached moved, fun starter identity member => ?_⟩
    rw [List.mem_append, List.mem_singleton] at member
    by_cases same : starter = task
    · subst same
      rw [Function.update_self]
      rcases member with before | last
      · exact begun_of_move moved (kept.begun starter identity before)
      · cases last
        exact begun_of_start moved
    · rw [Function.update_of_ne same]
      rcases member with before | last
      · exact kept.begun starter identity before
      · cases last
        exact absurd rfl same

/-- Every task is in the phase that the trace tells. -/
theorem phased_at (config : DaemonSettings) (start : DaemonState) (turns : List (Turn DialTask)) (k : Nat) :
    ∃ phases, Pool.Phased move fresh (fun _ => True) (SelfLinks.atTurn config start turns k) phases ∧
      Kept phases (SelfLinks.atTurn config start turns k).trace :=
  (invariant config).run ⟨fun _ => rfl, fun _ _ member => absurd member List.not_mem_nil⟩ (fun _ _ _ => trivial) k

/-- A turn in which no device is unpaired whose loop is under way keeps those paired whose loop is. -/
theorem paired_step {pool : Pool DaemonAction DaemonAction.Answer DaemonState} {phases : Nat → DialPhase} {turn : Turn DialTask}
    (phased : Pool.Phased move fresh (fun _ => True) pool phases) (kept : Kept phases pool.trace) (steady : Steady pool turn)
    (paired : ∀ d looper, UnderWay d pool looper → FanOut.isPaired pool.shared d) (d : DeviceId) (looper : Nat)
    (underWay : UnderWay d (pool.step (DaemonAction.exec config.codec) (DialTask.program config) turn) looper) :
    FanOut.isPaired (pool.step (DaemonAction.exec config.codec) (DialTask.program config) turn).shared d := by
  obtain ⟨reached, going⟩ := underWay
  cases turn with
  | spawn task =>
    have reached : Pool.reached move fresh pool.trace looper = looping d := reached
    have there : looper < pool.tasks.length := by
      by_contra beyond
      rw [kept.reached, phased.fresh looper (Nat.le_of_not_lt beyond)] at reached
      cases reached
    rw [Pool.next_spawn there] at going
    exact paired d looper ⟨reached, going⟩
  | take task =>
    cases about : pool.next task with
    | none =>
      rw [Pool.step_of_none about] at reached going ⊢
      exact paired d looper ⟨reached, going⟩
    | some action =>
      rw [Pool.shared_of_next about]
      have still (before : UnderWay d pool looper) : FanOut.isPaired ((action.exec config.codec pool.shared).2) d :=
        FanOut.isPaired_exec (paired d looper before) fun removes => steady task rfl d (removes ▸ about) looper before
      rw [Pool.trace_of_next about] at reached
      by_cases same : looper = task
      · subst same
        obtain ⟨later, moved⟩ := phased.moves about (action.exec config.codec pool.shared).1
        rw [Pool.reached_concat, kept.reached, moved, Option.getD_some] at reached
        subst reached
        rcases looping_of_move moved with before | found
        · exact still ⟨(kept.reached looper).trans before, by rw [about]; exact Option.some_ne_none action⟩
        · exact found
      · rw [Pool.reached_concat_ne _ (Ne.symm same)] at reached
        rw [Pool.next_take_ne same] at going
        exact still ⟨reached, going⟩

/-- Whose loop is under way is paired. -/
theorem paired_underWay (steady : ∀ k turn, turns[k]? = some turn → Steady (SelfLinks.atTurn config start turns k) turn) (k : Nat)
    (d : DeviceId) (looper : Nat) (underWay : UnderWay d (SelfLinks.atTurn config start turns k) looper) :
    FanOut.isPaired (SelfLinks.atTurn config start turns k).shared d := by
  induction k generalizing d looper with
  | zero => exact absurd rfl underWay.2
  | succ k ih =>
    obtain ⟨phases, phased, kept⟩ := phased_at config start turns k
    cases here : turns[k]? with
    | none =>
      have still : SelfLinks.atTurn config start turns (k + 1) = SelfLinks.atTurn config start turns k :=
        History.stateAt_past_end here
      rw [still] at underWay ⊢
      exact ih d looper underWay
    | some turn =>
      have onward : SelfLinks.atTurn config start turns (k + 1) =
          (SelfLinks.atTurn config start turns k).step (DaemonAction.exec config.codec) (DialTask.program config) turn :=
        History.stateAt_succ here
      rw [onward] at underWay ⊢
      exact paired_step phased kept (steady k turn here) ih d looper underWay

/-- Where no device is unpaired while a reconnect loop for it is under way,
each dial of a reconnect loop starts while the device is paired. -/
theorem redials_paired (steady : ∀ k turn, turns[k]? = some turn → Steady (SelfLinks.atTurn config start turns k) turn)
    {k task : Nat} {identity : Identity} (redials : Redials config start turns k task identity) :
    FanOut.isPaired (SelfLinks.atTurn config start turns k).shared identity.deviceId := by
  obtain ⟨phases, phased, kept⟩ := phased_at config start turns k
  obtain ⟨first, before⟩ := redials.before
  obtain ⟨later, moved⟩ := phased.moves redials.dials ()
  have begun := kept.begun task first before
  have going : (SelfLinks.atTurn config start turns k).next task ≠ none := by
    rw [redials.dials]
    exact Option.some_ne_none _
  cases phase : phases task with
  | fresh => exact absurd phase begun
  | looping d =>
    rw [phase] at moved
    simp only [move] at moved
    split at moved
    · rename_i same
      exact paired_underWay steady k identity.deviceId task ⟨(kept.reached task).trans (same ▸ phase), going⟩
    · cases moved
  | _ =>
    rw [phase] at moved
    cases moved

section Sample

open RefusedAttempts SelfLinks

def dialPhone : DaemonProgram (Option (Except Error (DeviceId × Identity × UInt64))) := do
  if ← perform (dialing (.addPending phoneId)) then
    perform (dialing (.start phoneIdentity))
    let result ← onManager (phoneAnswers (some phoneIdentity)).run
    perform (dialing (.removePending phoneId))
    return some result
  else
    return none

theorem dialMarked_phone : Discovery.dialMarked ConnectionSetup.desktop phoneIdentity phoneId answeringPhone = dialPhone := by
  unfold Discovery.dialMarked
  rw [show ConnectionManager.connectToDevice ConnectionSetup.desktop.codec ConnectionSetup.desktop.platform
    { answeringPhone with expectedIdentity := some phoneIdentity } = phoneAnswers (some phoneIdentity) from connect_phone rfl]
  rfl

/-- What is left of the announcement of the phone once its identity is read, up to the first attempt to reconnect. -/
def meetsPhone : DaemonProgram Unit := do
  let now ← perform (pairing .now)
  perform (registry (.upsertDevice (.ofIdentity phoneId phoneIdentity now)))
  if phoneId ≠ (← perform (manager .ownDeviceId)) then
    if !(← isConnected phoneId) then
      if !(← Discovery.refusesDowngrade phoneIdentity) then
        if ← Discovery.hasIdentity then
          if let some (.ok (connectedId, remoteIdentity, generation)) ← dialPhone then
            let _ ← ConnectionSetup.runConnectionSetup ConnectionSetup.desktop.print connectedId remoteIdentity generation
            if ← onPairing (PairingHandler.isPaired connectedId) then
              Discovery.reconnectLoop ConnectionSetup.desktop phoneIdentity connectedId [Discovery.silentPeer]

def meets : DialTask → DaemonProgram Unit
  | .discovered _ _ _ => meetsPhone
  | other => other.program ConnectionSetup.desktop

theorem atTurn_meets {turns : List (Turn DialTask)}
    (phones : ∀ identity peer later, .spawn (.discovered identity peer later) ∈ turns →
      identity = phoneIdentity ∧ peer = answeringPhone ∧ later = [Discovery.silentPeer]) (start : DaemonState) (k : Nat) :
    SelfLinks.atTurn ConnectionSetup.desktop start turns k = Pool.after (DaemonAction.exec phoneCodec) meets start turns k := by
  refine Pool.after_congr (fun task spawned => ?_) k
  cases task with
  | discovered identity peer later =>
    obtain ⟨rfl, rfl, rfl⟩ := phones identity peer later spawned
    show Discovery.onDeviceDiscovered ConnectionSetup.desktop phoneIdentity answeringPhone [Discovery.silentPeer] = meetsPhone
    unfold Discovery.onDeviceDiscovered Discovery.spawnDiscoveredConnection
    rw [show phoneIdentity.deviceId = phoneId from rfl, dialMarked_phone]
    rfl
  | _ => rfl

/-- The phone is announced and dialled, and its link is lost. -/
def phoneLost : List (Turn DialTask) :=
  (.spawn (.discovered phoneIdentity answeringPhone [Discovery.silentPeer]) ::
    List.replicate 26 (.take 0) : List (Turn DialTask)) ++
  (.spawn (.disconnects phoneId 1) :: List.replicate 2 (.take 1) : List (Turn DialTask))

/-- The loop is entered and dials again. -/
def phoneRedialled : List (Turn DialTask) := phoneLost ++ List.replicate 5 (Turn.take 0)

/-- The user unpairs the phone after the loop is entered. -/
def phoneUnpaired : List (Turn DialTask) :=
  phoneLost ++ (.take 0 :: .spawn (.asks (.unpair phoneId)) :: List.replicate 10 (.take 2) : List (Turn DialTask)) ++
  List.replicate 4 (Turn.take 0)

/-- The first task has dialled and is about to dial the phone again. -/
def redialsPhone (pool : Pool DaemonAction DaemonAction.Answer DaemonState) : Bool :=
  (match pool.next 0 with
    | some (dialing (.start identity)) => identity == phoneIdentity
    | _ => false) &&
    pool.trace.any fun entry => match entry with
      | (0, ⟨dialing (.start _), _⟩) => true
      | _ => false

theorem redials_of_check {start : DaemonState} {turns : List (Turn DialTask)} {k : Nat} (turn : turns[k]? = some (.take 0))
    (checked : redialsPhone (SelfLinks.atTurn ConnectionSetup.desktop start turns k) = true) :
    Redials ConnectionSetup.desktop start turns k 0 phoneIdentity := by
  obtain ⟨about, begun⟩ := (Bool.and_eq_true _ _).mp checked
  refine ⟨turn, ?_, ?_⟩
  · split at about
    · rename_i identity next
      rw [next, beq_iff_eq.mp about]
    · cases about
  · obtain ⟨entry, member, here⟩ := List.any_eq_true.mp begun
    split at here
    · exact ⟨_, member⟩
    · cases here

/-- Nothing is about to be unpaired. -/
def keepsPairings (pool : Pool DaemonAction DaemonAction.Answer DaemonState) : Turn DialTask → Bool
  | .spawn _ => true
  | .take task => match pool.next task with
    | some (pairing (.pairedRemove _)) => false
    | _ => true

theorem steady_of_keeps {pool : Pool DaemonAction DaemonAction.Answer DaemonState} {turn : Turn DialTask}
    (keeps : keepsPairings pool turn = true) : Steady pool turn := by
  rintro task rfl d removes
  simp [keepsPairings, removes] at keeps

theorem phone_redialled_paired :
    Redials ConnectionSetup.desktop Discovery.pairedPhone phoneRedialled 34 0 phoneIdentity ∧
      FanOut.isPaired (SelfLinks.atTurn ConnectionSetup.desktop Discovery.pairedPhone phoneRedialled 34).shared
        phoneIdentity.deviceId := by
  have short := @atTurn_meets phoneRedialled (by simp [phoneRedialled, phoneLost]) Discovery.pairedPhone
  have passes : Pool.along (DaemonAction.exec phoneCodec) meets keepsPairings (fun _ => true) (Pool.start Discovery.pairedPhone)
      phoneRedialled = true := by decide +kernel
  have redials : Redials ConnectionSetup.desktop Discovery.pairedPhone phoneRedialled 34 0 phoneIdentity :=
    redials_of_check rfl (by rw [short]; decide +kernel)
  refine ⟨redials, redials_paired (fun k turn here => ?_) redials⟩
  rw [short]
  exact steady_of_keeps ((Pool.along_after passes).1 k turn here)

/-- The loop dials the phone although it is no longer paired. -/
theorem unpaired_phone_redialled :
    ¬(∀ (config : DaemonSettings) (start : DaemonState) (turns : List (Turn DialTask)) (k task : Nat) (identity : Identity),
      Redials config start turns k task identity →
      FanOut.isPaired (SelfLinks.atTurn config start turns k).shared identity.deviceId) := by
  intro always
  have short := @atTurn_meets phoneUnpaired (by simp [phoneUnpaired, phoneLost]) Discovery.pairedPhone
  have paired := always ConnectionSetup.desktop Discovery.pairedPhone phoneUnpaired 45 0 phoneIdentity
    (redials_of_check rfl (by rw [short]; decide +kernel))
  have gone : ((SelfLinks.atTurn ConnectionSetup.desktop Discovery.pairedPhone phoneUnpaired 45).shared.pairing.paired.lookup
      phoneId).isSome = false := by
    rw [short]
    decide +kernel
  exact absurd (gone.symm.trans paired) (by decide)

end Sample

end Reconnects

end RustConnect
