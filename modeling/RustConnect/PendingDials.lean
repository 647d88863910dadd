import RustConnect.Base.Custody
import RustConnect.Reconnects

namespace RustConnect

open Program DaemonAction Daemon

namespace PendingDials

/-- A task marks a device as pending, dials it and takes the mark away again. -/
def move : Option DeviceId → (action : DaemonAction) → action.Answer → Option (Option DeviceId)
  | none, dialing (.addPending d), true => some (some d)
  | none, dialing (.addPending _), false => some none
  | some d, dialing (.start identity), _ => if identity.deviceId = d then some (some d) else none
  | some d, dialing (.removePending e), _ => if e = d then some none else none
  | _, dialing _, _ => none
  | phase, _, _ => some phase

example : move none (dialing (.addPending "phone")) true = some (some "phone") := by simp [move]

/-- A task has marked the device, and has not taken the mark away yet. -/
def Dialling (d : DeviceId) (pool : Pool DaemonAction DaemonAction.Answer DaemonState) (task : Nat) : Prop :=
  Pool.reached move none pool.trace task = some d

section Follows

variable {config : DaemonSettings} {α : Type} {phase : Option DeviceId}

/-- What neither marks nor dials. -/
def Unmarking : DaemonAction → Prop
  | dialing _ => False
  | _ => True

theorem unmarking_of_serving {action : DaemonAction} (serving : SelfLinks.Serving action) : Unmarking action := by
  cases action with
  | dialing action => exact serving
  | _ => trivial

theorem move_unmarking {action : DaemonAction} (unmarking : Unmarking action) (answer : action.Answer) :
    move phase action answer = some phase := by
  cases action with
  | dialing action => exact unmarking.elim
  | _ => cases phase <;> rfl

theorem follows_unmarking {program : DaemonProgram α} {T : α → Prop} (only : program.Only Unmarking T) :
    Follows move phase program fun later value => later = phase ∧ T value :=
  only.follows fun _ unmarking answer => move_unmarking unmarking answer

/-- Whatever else is known of it, a program of the manager leaves the marks alone. -/
theorem unmarking_onManager {program : ManagerProgram α} {P : DaemonAction → Prop} {Q : α → Prop}
    (only : (onManager program).Only P Q) : (onManager program).Only Unmarking Q := by
  induction program with
  | done value => exact only
  | act action next ih => exact ⟨trivial, fun answer => ih answer (only.2 answer)⟩

theorem unmarking_setup (d : DeviceId) (identity : Identity) (generation : UInt64) :
    (ConnectionSetup.runConnectionSetup config.print d identity generation).Only Unmarking fun _ => True :=
  (SelfLinks.serving_setup d identity generation).weaken (fun _ => unmarking_of_serving) fun _ => id

theorem follows_dialMarked {identity : Identity} {d : DeviceId} (same : identity.deviceId = d) (peer : OutboundPeer) :
    Follows move none (Discovery.dialMarked config identity d peer) fun later result => later = none ∧
      ∀ connectedId remoteIdentity generation, result = some (.ok (connectedId, remoteIdentity, generation)) →
        connectedId = identity.deviceId := by
  intro added
  cases added with
  | false => exact ⟨none, rfl, rfl, fun _ _ _ answered => by cases answered⟩
  | true =>
    refine ⟨some d, rfl, fun _ => ⟨some d, if_pos same, (follows_bind (onManager _) _ _).mpr ?_⟩⟩
    refine (follows_unmarking (unmarking_onManager (Reconnects.aside_connectToDevice identity peer))).weaken ?_
    rintro _ result ⟨rfl, reached⟩
    refine fun _ => ⟨none, if_pos rfl, rfl, fun connectedId remoteIdentity generation answered => ?_⟩
    exact reached connectedId remoteIdentity generation (Option.some.inj answered)

theorem follows_reconnectLoop {identity : Identity} {d : DeviceId} (same : identity.deviceId = d)
    (peers : List OutboundPeer) :
    Follows move none (Discovery.reconnectLoop config identity d peers) fun later _ => later = none := by
  induction peers with
  | nil => rfl
  | cons peer peers ih =>
    refine fun found => ⟨none, rfl, (follows_ite _ _ _ _).mpr ⟨fun _ => ?_, fun _ => rfl⟩⟩
    refine fun own => ⟨none, rfl, (follows_ite _ _ _ _).mpr ⟨fun _ => ?_, fun _ => rfl⟩⟩
    refine (follows_bind (Discovery.dialMarked config identity d peer) _ _).mpr ((follows_dialMarked same peer).weaken ?_)
    rintro _ result ⟨rfl, -⟩
    rcases result with _ | _ | ⟨connectedId, remoteIdentity, generation⟩
    · exact ih
    · exact ih
    · refine (follows_bind _ _ _).mpr ((follows_unmarking (unmarking_setup connectedId remoteIdentity generation)).weaken ?_)
      rintro _ _ ⟨rfl, -⟩
      exact ih

theorem follows_discovered (identity : Identity) (peer : OutboundPeer) (later : List OutboundPeer) :
    Follows move none (Discovery.onDeviceDiscovered config identity peer later) fun later _ => later = none := by
  have refuses : Follows move none (Discovery.refusesDowngrade identity) fun later _ => later = none := by
    refine fun paired => ⟨none, rfl, ?_⟩
    cases paired with
    | false => rfl
    | true =>
      refine fun known => ⟨none, rfl, ?_⟩
      cases known <;> rfl
  refine fun now => ⟨none, rfl, fun _ => ⟨none, rfl, fun own => ⟨none, rfl, ?_⟩⟩⟩
  refine (follows_ite _ _ _ _).mpr ⟨fun _ => ?_, fun _ => rfl⟩
  refine fun found => ⟨none, rfl, (follows_ite _ _ _ _).mpr ⟨fun _ => ?_, fun _ => rfl⟩⟩
  refine (follows_bind _ _ _).mpr (refuses.weaken ?_)
  rintro _ refused rfl
  refine (follows_ite _ _ _ _).mpr ⟨fun _ => ?_, fun _ => rfl⟩
  refine fun own => ⟨none, rfl, (follows_ite _ _ _ _).mpr ⟨fun _ => ?_, fun _ => rfl⟩⟩
  refine (follows_bind (Discovery.dialMarked config identity _ peer) _ _).mpr ((follows_dialMarked rfl peer).weaken ?_)
  rintro _ result ⟨rfl, reached⟩
  rcases result with _ | _ | ⟨connectedId, remoteIdentity, generation⟩
  · rfl
  · rfl
  refine (follows_bind _ _ _).mpr ((follows_unmarking (unmarking_setup connectedId remoteIdentity generation)).weaken ?_)
  rintro _ _ ⟨rfl, -⟩
  refine fun paired => ⟨none, rfl, ?_⟩
  cases paired with
  | false => rfl
  | true => exact follows_reconnectLoop (reached connectedId remoteIdentity generation rfl).symm _

theorem follows_quiet {program : DaemonProgram Unit} (only : program.Only Unmarking fun _ => True) :
    Follows move none program fun later _ => later = none :=
  (follows_unmarking only).weaken fun _ _ same => same.1

theorem follows_task (task : DialTask) : Follows move none (task.program config) fun later _ => later = none := by
  have onManager {α : Type} (program : ManagerProgram α) : (onManager program).Only Unmarking fun _ => True :=
    only_onManager (fun _ => trivial) program
  have served {α : Type} {program : DaemonProgram α} (only : program.Only SelfLinks.Serving fun _ => True) :
      program.Only Unmarking fun _ => True := only.weaken (fun _ => unmarking_of_serving) fun _ => id
  cases task with
  | accepted acceptPatience exchangePatience peer =>
    have strikes : Unmarking timeoutElapsed := trivial
    refine follows_quiet ((only_bind _ _ _).mpr (Only.followedBy ?_ fun _ => trivial))
    refine (only_bind _ _ _).mpr (((onManager _).cutOff strikes acceptPatience).followedBy fun result => ?_)
    rcases result with _ | _ | ⟨d, identity, generation⟩
    · trivial
    · trivial
    have setUp := served (@SelfLinks.serving_inbound config exchangePatience d identity generation)
    refine (only_bind _ _ _).mpr (setUp.followedBy fun ready => ?_)
    cases ready <;> trivial
  | discovered identity peer later => exact follows_discovered identity peer later
  | connectDevice peer =>
    refine follows_quiet ((only_bind _ _ _).mpr ((onManager _).followedBy fun result => ?_))
    rcases result with _ | ⟨connectedId, remoteIdentity, generation⟩
    · trivial
    exact (only_bind _ _ _).mpr ((unmarking_setup connectedId remoteIdentity generation).followedBy fun _ => trivial)
  | disconnects d generation => exact follows_quiet ((only_bind _ _ _).mpr ((onManager _).followedBy fun _ => trivial))
  | receives d generation => exact follows_quiet ((only_bind _ _ _).mpr ((onManager _).followedBy fun _ => trivial))
  | sends d packet => exact follows_quiet ((only_attempt _ _).mpr (served (SelfLinks.serving_sendPacket d packet)))
  | handles d generation packet =>
    have handles : Only (onLoop config.print (PacketLoop.handlePairPacket config.platform config.pairing d generation packet))
        Unmarking fun _ => True := (only_trivial _).hoist fun action _ => served (SelfLinks.serving_translate action)
    exact follows_quiet ((only_bind _ _ _).mpr (handles.followedBy fun _ => trivial))
  | asks call => exact follows_quiet (only_onPairing (fun _ => trivial) _)
  | waits duration => exact follows_quiet ⟨trivial, fun _ => trivial⟩

end Follows

/-- The marked devices are in the hands of the tasks that dial them. -/
structure Kept (s : DaemonState) (phases : Nat → Option DeviceId)
    (trace : List (Nat × Σ action : DaemonAction, action.Answer)) : Prop where
  reached : ∀ task, Pool.reached move none trace task = phases task
  custody : Custody {d | d ∈ s.pending} phases
  nodup : s.pending.Nodup

theorem exec_pending {codec : JsonCodec} {action : DaemonAction} (unmarking : Unmarking action) (s : DaemonState) :
    (action.exec codec s).2.pending = s.pending := by
  cases action with
  | dialing action => exact unmarking.elim
  | _ => rfl

/-- What an action of a task does to the marks. -/
theorem custody_exec {codec : JsonCodec} {s : DaemonState} {phases : Nat → Option DeviceId} {task : Nat}
    {action : DaemonAction} {later : Option DeviceId} (custody : Custody {d | d ∈ s.pending} phases) (nodup : s.pending.Nodup)
    (moved : move (phases task) action (action.exec codec s).1 = some later) :
    Custody {d | d ∈ (action.exec codec s).2.pending} (Function.update phases task later) ∧
      (action.exec codec s).2.pending.Nodup := by
  by_cases unmarking : Unmarking action
  · obtain rfl : phases task = later := Option.some.inj ((move_unmarking unmarking _).symm.trans moved)
    rw [Function.update_eq_self, exec_pending unmarking]
    exact ⟨custody, nodup⟩
  cases action with
  | dialing action =>
    cases action with
    | addPending d =>
      cases free : phases task with
      | some e => simp [free, move] at moved
      | none =>
        by_cases marked : s.pending.contains d
        · have stays : (dialing (.addPending d)).exec codec s = (false, s) := by
            simp only [exec, DialAction.exec, if_pos marked]
          rw [stays, free] at moved
          obtain rfl : none = later := Option.some.inj moved
          rw [stays, Custody.update_none free]
          exact ⟨custody, nodup⟩
        · have adds : (dialing (.addPending d)).exec codec s = (true, { s with pending := d :: s.pending }) := by
            simp only [exec, DialAction.exec, if_neg marked]
          have fresh : d ∉ s.pending := by simpa using marked
          rw [adds, free] at moved
          obtain rfl : some d = later := Option.some.inj moved
          have more : {e | e ∈ d :: s.pending} = insert d {e | e ∈ s.pending} := Set.ext fun e => List.mem_cons
          rw [adds]
          exact ⟨more ▸ custody.receive free fresh, List.nodup_cons.mpr ⟨fresh, nodup⟩⟩
    | removePending e =>
      cases holding : phases task with
      | none => simp [holding, move] at moved
      | some d =>
        rw [holding] at moved
        obtain ⟨rfl, rfl⟩ := Pool.of_guard moved
        have fewer : {d | d ∈ s.pending.erase e} = {d | d ∈ s.pending} \ {e} :=
          Set.ext fun d => by simp [nodup.mem_erase_iff, and_comm]
        exact ⟨fewer ▸ custody.release holding, nodup.erase e⟩
    | start identity =>
      cases holding : phases task with
      | none => simp [holding, move] at moved
      | some d =>
        rw [holding] at moved
        obtain ⟨-, rfl⟩ := Pool.of_guard moved
        rw [← holding, Function.update_eq_self]
        exact ⟨custody, nodup⟩
  | _ => exact absurd trivial unmarking

theorem invariant (config : DaemonSettings) :
    Pool.Invariant move none (fun later => later = none) (DaemonAction.exec config.codec) (DialTask.program config)
      (fun _ _ => True) Kept where
  follows task := follows_task task
  kept := by
    intro pool phases task action later kept next _ moved
    obtain ⟨custody, nodup⟩ := custody_exec kept.custody kept.nodup moved
    exact ⟨Pool.reached_append kept.reached moved, custody, nodup⟩

/-- However the tasks take their turns, a device is marked as pending exactly while one task has it marked, every
dial is begun by the task that has its device marked, and a task that has come to its end has left no mark. -/
theorem one_dial_per_device (config : DaemonSettings) (start : DaemonState) (turns : List (Turn DialTask)) (k : Nat)
    (free : start.pending = []) :
    (∀ d, d ∈ (SelfLinks.atTurn config start turns k).shared.pending ↔
        ∃ task, Dialling d (SelfLinks.atTurn config start turns k) task) ∧
      (∀ d task other, Dialling d (SelfLinks.atTurn config start turns k) task →
        Dialling d (SelfLinks.atTurn config start turns k) other → task = other) ∧
      (∀ task identity, (SelfLinks.atTurn config start turns k).next task = some (dialing (.start identity)) →
        Dialling identity.deviceId (SelfLinks.atTurn config start turns k) task) ∧
      ∀ d task, Dialling d (SelfLinks.atTurn config start turns k) task →
        (SelfLinks.atTurn config start turns k).next task ≠ none := by
  have empty : Custody {d | d ∈ start.pending} fun _ : Nat => none := by
    rw [free]
    simpa using Custody.empty
  have kept : Kept start (fun _ => none) [] := ⟨fun _ => rfl, empty, free ▸ List.nodup_nil⟩
  obtain ⟨phases, phased, kept⟩ := (invariant config).run kept (fun _ _ _ => trivial) k
  have dialling (d : DeviceId) (task : Nat) :
      Dialling d (SelfLinks.atTurn config start turns k) task ↔ phases task = some d :=
    iff_of_eq (congrArg (· = some d) (kept.reached task))
  refine ⟨fun d => ?_, fun d task other here there => ?_, fun task identity about => ?_, fun d task here => ?_⟩
  · simp only [dialling]
    refine ⟨kept.custody.covered d, fun held => ?_⟩
    obtain ⟨task, holding⟩ := held
    exact kept.custody.alive task d holding
  · exact kept.custody.exclusive task other d ((dialling d task).mp here) ((dialling d other).mp there)
  · obtain ⟨later, moved⟩ := phased.moves about ()
    rw [dialling]
    cases holding : phases task with
    | none => simp [holding, move] at moved
    | some d =>
      rw [holding] at moved
      rw [(Pool.of_guard moved).1]
  · rw [dialling] at here
    exact fun rests => by simpa [here] using phased.rests rests

section Sample

open RefusedAttempts SelfLinks

/-- The phone is announced twice, and the tasks take turns. -/
def announcedTwice : List (Turn DialTask) :=
  [.spawn (.discovered phoneIdentity answeringPhone []), .spawn (.discovered phoneIdentity answeringPhone [])] ++
    (List.replicate 8 [.take 0, .take 1]).flatten

def desktopAtTurn (k : Nat) : Pool DaemonAction DaemonAction.Answer DaemonState :=
  SelfLinks.atTurn ConnectionSetup.desktop (unlinked "d1d2d3d4d1d2d3d4d1d2d3d4d1d2d3d4") announcedTwice k

theorem phone_dialled_once :
    ∃ task, Dialling phoneId (desktopAtTurn 18) task ∧ ∀ other, Dialling phoneId (desktopAtTurn 18) other → other = task := by
  have marked : phoneId ∈ (desktopAtTurn 18).shared.pending := by decide +kernel
  obtain ⟨held, unique, -⟩ :=
    one_dial_per_device ConnectionSetup.desktop (unlinked "d1d2d3d4d1d2d3d4d1d2d3d4d1d2d3d4") announcedTwice 18 rfl
  obtain ⟨task, dialling⟩ := (held phoneId).mp marked
  exact ⟨task, dialling, fun other there => unique phoneId other task there dialling⟩

end Sample

end PendingDials

end RustConnect
