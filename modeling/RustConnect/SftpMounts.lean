import Mathlib
import RustConnect.Base.Custody
import RustConnect.Base.Table
import RustConnect.Types

namespace RustConnect

open Program

structure SftpConnectionInfo where
  ip : String
  port : UInt16
  user : String
  password : String
  path : String
  multiPaths : List String
  pathNames : List String
  deriving DecidableEq, Repr

inductive MountState
  | unmounted
  | mounting
  | mounted
  | failed (message : String)
  deriving DecidableEq, Repr

structure MountStatus where
  state : MountState
  mountPoint : Option String
  deriving DecidableEq, Repr

structure MountRequest where
  ip : String
  port : UInt16
  user : String
  path : String
  mountPoint : String
  deriving DecidableEq, Repr

inductive MountOutcome
  | mounted
  | failed (message : String)
  deriving DecidableEq, Repr

inductive UnmountOutcome
  | unmounted
  | failed (message : String)
  deriving DecidableEq, Repr

/-- The event `SftpUpdate`. -/
structure SftpUpdate where
  deviceId : DeviceId
  ip : String
  port : UInt16
  user : String
  path : String
  available : Bool
  mounted : Bool
  mountPoint : Option String
  deriving DecidableEq, Repr

/-- How a task of the blocking pool ends. -/
inductive Joined (α : Type)
  | returned (result : Except Error α)
  | panicked (message : String)

/-- A command on the blocking pool, which is running until it has ended. -/
inductive MountCommand
  | mount (request : MountRequest) (password : String) (ended : Option (Joined MountOutcome))
  | unmount (mountPoint : String) (ended : Option (Joined UnmountOutcome))

namespace MountCommand

def mountPoint : MountCommand → String
  | mount request _ _ => request.mountPoint
  | unmount mountPoint _ => mountPoint

def Running : MountCommand → Prop
  | mount _ _ ended => ended = none
  | unmount _ ended => ended = none

instance (command : MountCommand) : Decidable command.Running := by
  cases command with
  | mount request password ended => exact decidable_of_iff (ended.isNone = true) Option.isNone_iff_eq_none
  | unmount mountPoint ended => exact decidable_of_iff (ended.isNone = true) Option.isNone_iff_eq_none

end MountCommand

/-- The task that keeps the device's lock until a timed-out command has ended:
the clone of the lock that its guard holds, and the command. -/
structure Leftover where
  clone : Nat
  command : Nat
  deriving DecidableEq, Repr

/-- What the plugin is made with. The timeout is in seconds, as the messages tell it. -/
structure SftpPlugin where
  dataDir : String
  mountTimeout : String := "10"
  connectionManager : Bool := true

/-- The plugin's tables and the system around it. A lock is shared by its clones, each
with a name of its own, of which the guard of a held lock is one. The choices
are what the file system and the timers decide. -/
structure SftpState where
  mounts : Table DeviceId MountState := ∅
  connections : Table DeviceId SftpConnectionInfo := ∅
  mountLocks : Table DeviceId Nat := ∅
  clones : Table Nat Nat := ∅
  guards : Table Nat Nat := ∅
  nextLock : Nat := 0
  nextClone : Nat := 0
  commands : List MountCommand := []
  leftovers : List (Option Leftover) := []
  generations : Table DeviceId Nat := ∅
  mounted : List String := []
  choices : Nat → Bool
  chosen : Nat := 0
  events : List SftpUpdate := []

def mountPointFor (dataDir : String) (d : DeviceId) : String := dataDir ++ "/mounts/sftp-" ++ d

theorem mountPointFor_inj {dataDir : String} {d other : DeviceId} (same : mountPointFor dataDir d = mountPointFor dataDir other) :
    d = other := by
  unfold mountPointFor at same
  exact String.append_right_inj _ |>.mp same

namespace SftpState

/-- `Arc::strong_count` of a lock is above one while it has a clone outside the map. -/
def isShared (s : SftpState) (lock : Nat) : Bool := s.clones.entries.any fun entry => entry.2 = lock

def setEnded (s : SftpState) (index : Nat) (command : MountCommand) : SftpState :=
  { s with commands := s.commands.set index command }

end SftpState

/-- What the plugin does, one lock scope or await at a time. -/
inductive SftpAction
  | mountLockFor (deviceId : DeviceId)
  | lockOwned (clone : Nat)
  | dropGuard (clone : Nat)
  | spawnMount (request : MountRequest) (password : String)
  | spawnUnmount (mountPoint : String)
  | awaitMount (command : Nat)
  | awaitUnmount (command : Nat)
  | spawnLeftover (leftover : Leftover)
  | pollLeftover (index : Nat)
  | mountEnds (command : Nat) (result : Joined MountOutcome)
  | unmountEnds (command : Nat) (result : Joined UnmountOutcome)
  | setMountState (deviceId : DeviceId) (state : MountState)
  | getMountState (deviceId : DeviceId)
  | getConnection (deviceId : DeviceId)
  | removeConnection (deviceId : DeviceId)
  | pathExists (mountPoint : String)
  | mountPointIsLive (mountPoint : String)
  | removeDir (path : String)
  | getGeneration (deviceId : DeviceId)
  | setGeneration (deviceId : DeviceId) (generation : Option Nat)
  | broadcast (update : SftpUpdate)

namespace SftpAction

@[reducible] def Answer : SftpAction → Type
  | mountLockFor _ => Nat
  | lockOwned _ => Bool
  | dropGuard _ => Unit
  | spawnMount _ _ => Nat
  | spawnUnmount _ => Nat
  | awaitMount _ => Option (Joined MountOutcome)
  | awaitUnmount _ => Option (Joined UnmountOutcome)
  | spawnLeftover _ => Unit
  | pollLeftover _ => Option Leftover
  | mountEnds _ _ => Unit
  | unmountEnds _ _ => Unit
  | setMountState _ _ => Unit
  | getMountState _ => Option MountState
  | getConnection _ => Option SftpConnectionInfo
  | removeConnection _ => Unit
  | pathExists _ => Bool
  | mountPointIsLive _ => Bool
  | removeDir _ => Unit
  | getGeneration _ => Option Nat
  | setGeneration _ _ => Unit
  | broadcast _ => Unit

/-- A lock that nobody but the map holds is dropped from it before the device's lock is looked up. -/
def lookUpLock (d : DeviceId) (s : SftpState) : Nat × SftpState :=
  let locks := s.mountLocks.retain fun _ lock => s.isShared lock
  match locks.lookup d with
  | some lock =>
    (s.nextClone, { s with mountLocks := locks, clones := s.clones.insert s.nextClone lock, nextClone := s.nextClone + 1 })
  | none =>
    (s.nextClone,
      { s with
        mountLocks := locks.insert d s.nextLock
        clones := s.clones.insert s.nextClone s.nextLock
        nextLock := s.nextLock + 1
        nextClone := s.nextClone + 1 })

/-- The clone becomes the guard of the lock, if it is free and the timer has
not run out; else it is dropped. -/
def acquire (clone : Nat) (s : SftpState) : Bool × SftpState :=
  match s.clones.lookup clone with
  | some lock =>
    if (s.guards.lookup lock).isNone && s.choices s.chosen then
      (true, { s with guards := s.guards.insert lock clone, chosen := s.chosen + 1 })
    else (false, { s with clones := s.clones.erase clone, chosen := s.chosen + 1 })
  | none => (false, s)

/-- The lock is free again and its clone is gone. -/
def release (clone : Nat) (s : SftpState) : SftpState :=
  match s.clones.lookup clone with
  | some lock => { s with guards := s.guards.erase lock, clones := s.clones.erase clone }
  | none => s

def exec : (action : SftpAction) → SftpState → action.Answer × SftpState
  | mountLockFor d, s => lookUpLock d s
  | lockOwned clone, s => acquire clone s
  | dropGuard clone, s => ((), release clone s)
  | spawnMount request password, s => (s.commands.length, { s with commands := s.commands ++ [.mount request password none] })
  | spawnUnmount mountPoint, s => (s.commands.length, { s with commands := s.commands ++ [.unmount mountPoint none] })
  | awaitMount index, s =>
    match s.commands[index]? with
    | some (.mount _ _ ended) => (ended, s)
    | _ => (none, s)
  | awaitUnmount index, s =>
    match s.commands[index]? with
    | some (.unmount _ ended) => (ended, s)
    | _ => (none, s)
  | spawnLeftover leftover, s => ((), { s with leftovers := s.leftovers ++ [some leftover] })
  | pollLeftover index, s =>
    match s.leftovers[index]?.join with
    | some leftover =>
      match s.commands[leftover.command]? with
      | some command => if command.Running then (none, s) else (some leftover, { s with leftovers := s.leftovers.set index none })
      | none => (none, s)
    | none => (none, s)
  | mountEnds index result, s =>
    match s.commands[index]? with
    | some (.mount request password none) =>
      ((), { s.setEnded index (.mount request password (some result)) with
        mounted := match result with
          | .returned (.ok .mounted) => request.mountPoint :: s.mounted
          | _ => s.mounted })
    | _ => ((), s)
  | unmountEnds index result, s =>
    match s.commands[index]? with
    | some (.unmount mountPoint none) =>
      ((), { s.setEnded index (.unmount mountPoint (some result)) with
        mounted := match result with
          | .returned (.ok .unmounted) => s.mounted.filter (· ≠ mountPoint)
          | _ => s.mounted })
    | _ => ((), s)
  | setMountState d state, s => ((), { s with mounts := s.mounts.insert d state })
  | getMountState d, s => (s.mounts.lookup d, s)
  | getConnection d, s => (s.connections.lookup d, s)
  | removeConnection d, s => ((), { s with connections := s.connections.erase d })
  | pathExists _, s => (s.choices s.chosen, { s with chosen := s.chosen + 1 })
  | mountPointIsLive _, s => (s.choices s.chosen, { s with chosen := s.chosen + 1 })
  | removeDir _, s => ((), s)
  | getGeneration d, s => (s.generations.lookup d, s)
  | setGeneration d (some generation), s => ((), { s with generations := s.generations.insert d generation })
  | setGeneration d none, s => ((), { s with generations := s.generations.erase d })
  | broadcast update, s => ((), { s with events := s.events ++ [update] })

end SftpAction

abbrev SftpProgram := Program SftpAction SftpAction.Answer

namespace Sftp

open SftpAction

def perform (action : SftpAction) : SftpProgram action.Answer := call action

/-- What a wait with a bound gives: the result, or the command that is still running. -/
abbrev Waited (α : Type) := Except Error α × Option Nat

/-- The result of a task of the blocking pool; a panic is an internal error. -/
def joined {α : Type} (kind : String) : Joined α → Except Error α
  | .returned result => result
  | .panicked message => .error (.internal s!"{kind} task panicked: {message}")

variable (plugin : SftpPlugin)

def mountViaMounterTracked (request : MountRequest) (password : String) : SftpProgram (Waited MountOutcome) := do
  let join ← perform (spawnMount request password)
  match ← perform (awaitMount join) with
  | some joinResult => return (joined "mount" joinResult, none)
  | none => return (.ok (.failed s!"sshfs mount timed out after {plugin.mountTimeout}s"), some join)

def unmountViaMounterTracked (mountPoint : String) : SftpProgram (Waited UnmountOutcome) := do
  let join ← perform (spawnUnmount mountPoint)
  match ← perform (awaitUnmount join) with
  | some joinResult => return (joined "unmount" joinResult, none)
  | none => return (.ok (.failed s!"fusermount unmount timed out after {plugin.mountTimeout}s"), some join)

def handLockToLeftoverTask (guard : Nat) : Option Nat → SftpProgram Unit
  | some task => perform (spawnLeftover ⟨guard, task⟩)
  | none => perform (dropGuard guard)

def broadcastUpdate (d : DeviceId) (info : SftpConnectionInfo) (state : MountState) (mountPoint : Option String) : SftpProgram Unit :=
  perform (broadcast
    { deviceId := d
      ip := info.ip
      port := info.port
      user := info.user
      path := info.path
      available := !info.password.isEmpty && state != .failed ""
      mounted := state == .mounted
      mountPoint := mountPoint })

def acquireMountLock (d : DeviceId) : SftpProgram (Except String Nat) := do
  let lock ← perform (mountLockFor d)
  if ← perform (lockOwned lock) then return .ok lock
  return .error s!"previous mount operation for {d} still draining after {plugin.mountTimeout}s"

def mountDeviceLocked (d : DeviceId) (info : SftpConnectionInfo) : SftpProgram (Waited MountStatus) := do
  let mp := mountPointFor plugin.dataDir d
  let req : MountRequest := { ip := info.ip, port := info.port, user := info.user, path := info.path, mountPoint := mp }
  perform (setMountState d .mounting)
  let (outcome, leftover) ← mountViaMounterTracked plugin req info.password
  match outcome with
  | .error e =>
    let state := MountState.failed s!"mount task failed: {e.display}"
    perform (setMountState d state)
    broadcastUpdate d info state (some mp)
    return (.error e, leftover)
  | .ok outcome =>
    let finalState := match outcome with
      | .mounted => MountState.mounted
      | .failed msg => MountState.failed msg
    perform (setMountState d finalState)
    broadcastUpdate d info finalState (some mp)
    return (.ok { state := finalState, mountPoint := some mp }, leftover)

/-- What an operation does that did not get the lock in time. -/
def lockBusy (d : DeviceId) (info : Option SftpConnectionInfo) (msg : String) : SftpProgram MountStatus := do
  let state := MountState.failed msg
  perform (setMountState d state)
  if let some info := info then
    broadcastUpdate d info state none
  return { state, mountPoint := none }

def mountDevice (d : DeviceId) (info : SftpConnectionInfo) : SftpProgram (Except Error MountStatus) := do
  match ← acquireMountLock plugin d with
  | .error msg => return .ok (← lockBusy d (some info) msg)
  | .ok mountGuard =>
    let (status, leftover) ← mountDeviceLocked plugin d info
    handLockToLeftoverTask mountGuard leftover
    return status

def unmountDevice (d : DeviceId) : SftpProgram (Except Error MountStatus) := do
  let mp := mountPointFor plugin.dataDir d
  match ← acquireMountLock plugin d with
  | .error msg =>
    let state := MountState.failed msg
    perform (setMountState d state)
    if let some info ← perform (getConnection d) then
      broadcastUpdate d info state none
    return .ok { state, mountPoint := none }
  | .ok unmountGuard =>
    let (outcome, leftover) ← unmountViaMounterTracked plugin mp
    match outcome with
    | .error e =>
      handLockToLeftoverTask unmountGuard leftover
      return .error e
    | .ok outcome =>
      let finalState := match outcome with
        | .unmounted => MountState.unmounted
        | .failed msg => MountState.failed msg
      perform (setMountState d finalState)
      if finalState = .unmounted then
        perform (removeConnection d)
      if let some info ← perform (getConnection d) then
        broadcastUpdate d info finalState none
      handLockToLeftoverTask unmountGuard leftover
      return .ok { state := finalState, mountPoint := none }

def cleanupDevice (d : DeviceId) : SftpProgram Unit := do
  let mp := mountPointFor plugin.dataDir d
  match ← acquireMountLock plugin d with
  | .ok guard =>
    if ← perform (pathExists mp) then
      let (_, leftover) ← unmountViaMounterTracked plugin mp
      handLockToLeftoverTask guard leftover
    else
      handLockToLeftoverTask guard none
  | .error _ => pure ()
  perform (setMountState d .unmounted)
  perform (removeConnection d)

def getMountStatus (d : DeviceId) : SftpProgram MountStatus := do
  let mountPoint := mountPointFor plugin.dataDir d
  match ← perform (getMountState d) with
  | some .mounted => return { state := .mounted, mountPoint := some mountPoint }
  | some .mounting => return { state := .mounting, mountPoint := some mountPoint }
  | some (.failed msg) => return { state := .failed msg, mountPoint := some mountPoint }
  | _ => return { state := .unmounted, mountPoint := none }

def reMountIfMounted (d : DeviceId) (info : SftpConnectionInfo) : SftpProgram (Except Error MountStatus) := do
  match ← acquireMountLock plugin d with
  | .error msg => return .ok (← lockBusy d (some info) msg)
  | .ok remountGuard =>
    let status ← getMountStatus plugin d
    if status.state ≠ .mounted ∧ status.state ≠ .mounting then
      let status ← getMountStatus plugin d
      perform (dropGuard remountGuard)
      return .ok status
    let (_, leftover) ← unmountViaMounterTracked plugin (mountPointFor plugin.dataDir d)
    if leftover.isSome then
      let state := MountState.failed s!"remount skipped: previous unmount still draining after {plugin.mountTimeout}s"
      perform (setMountState d state)
      broadcastUpdate d info state none
      handLockToLeftoverTask remountGuard leftover
      return .ok { state, mountPoint := none }
    let (status, leftover) ← mountDeviceLocked plugin d info
    handLockToLeftoverTask remountGuard leftover
    return status

/-- `str::strip_prefix` with the prefix of the mount points. -/
def stripSftp (name : String) : Option DeviceId :=
  if "sftp-".toList <+: name.toList then some (String.ofList (name.toList.drop "sftp-".length)) else none

/-- One entry of the directory of the mount points; its name is text. -/
def sweepEntry (name : String) : SftpProgram (List String) := do
  match stripSftp name with
  | none => return []
  | some d =>
    let path := plugin.dataDir ++ "/mounts/" ++ name
    match ← acquireMountLock plugin d with
    | .error _ => return [s!"{path}:skipped"]
    | .ok guard =>
      let (outcome, leftover) ← unmountViaMounterTracked plugin path
      handLockToLeftoverTask guard leftover
      match outcome with
      | .ok .unmounted =>
        perform (removeDir path)
        return [s!"{path}:unmounted"]
      | .ok (.failed _) => return [s!"{path}:failed"]
      | .error _ => return [s!"{path}:error"]

/-- The names are those that the directory of the mount points has, if it can be read. -/
def startupSweep : List String → SftpProgram (List String)
  | [] => return []
  | name :: rest => do
    let label ← sweepEntry plugin name
    return label ++ (← startupSweep rest)

def cleanupMountOnDisconnect (d : DeviceId) (liveMount : Bool) : SftpProgram Unit := do
  let mp := mountPointFor plugin.dataDir d
  match ← acquireMountLock plugin d with
  | .error _ => return
  | .ok cleanupGuard =>
    let generation ← if plugin.connectionManager then perform (getGeneration d) else pure none
    if generation.isSome then
      perform (dropGuard cleanupGuard)
      return
    if !liveMount then
      perform (setMountState d .unmounted)
      perform (dropGuard cleanupGuard)
      return
    let (outcome, leftover) ← unmountViaMounterTracked plugin mp
    match outcome with
    | .ok .unmounted => perform (setMountState d .unmounted)
    | .ok (.failed _) => pure ()
    | .error _ => pure ()
    handLockToLeftoverTask cleanupGuard leftover

def onDisconnected (d : DeviceId) : SftpProgram Unit := do
  perform (removeConnection d)
  let live ← perform (mountPointIsLive (mountPointFor plugin.dataDir d))
  cleanupMountOnDisconnect plugin d live

/-- The runtime polls a leftover task, which drops its guard when the command has ended. -/
def runLeftover (index : Nat) : SftpProgram Unit := do
  match ← perform (pollLeftover index) with
  | some leftover => perform (dropGuard leftover.clone)
  | none => return

inductive Call
  | mountDevice (deviceId : DeviceId) (info : SftpConnectionInfo)
  | unmountDevice (deviceId : DeviceId)
  | reMountIfMounted (deviceId : DeviceId) (info : SftpConnectionInfo)
  | cleanupDevice (deviceId : DeviceId)
  | onDisconnected (deviceId : DeviceId)
  | startupSweep (names : List String)
  | runLeftover (index : Nat)
  | mountEnds (command : Nat) (result : Joined MountOutcome)
  | unmountEnds (command : Nat) (result : Joined UnmountOutcome)
  | setGeneration (deviceId : DeviceId) (generation : Option Nat)

def ignore {α : Type} (program : SftpProgram α) : SftpProgram Unit := (fun _ => ()) <$> program

def program : Call → SftpProgram Unit
  | .mountDevice d info => ignore (mountDevice plugin d info)
  | .unmountDevice d => ignore (unmountDevice plugin d)
  | .reMountIfMounted d info => ignore (reMountIfMounted plugin d info)
  | .cleanupDevice d => cleanupDevice plugin d
  | .onDisconnected d => onDisconnected plugin d
  | .startupSweep names => ignore (startupSweep plugin names)
  | .runLeftover index => runLeftover index
  | .mountEnds command result => perform (.mountEnds command result)
  | .unmountEnds command result => perform (.unmountEnds command result)
  | .setGeneration d generation => perform (.setGeneration d generation)

abbrev Tasks := Pool SftpAction SftpAction.Answer SftpState

/-- The plugin as it is made, with the choices of the system around it and what is mounted already. -/
def new (choices : Nat → Bool) (mounted : List String) : SftpState := { choices, mounted }

def atTurn (choices : Nat → Bool) (mounted : List String) (turns : List (Turn Call)) (k : Nat) : Tasks :=
  Pool.after SftpAction.exec (program plugin) (new choices mounted) turns k

section Phases

inductive Phase
  | free
  | waiting (d : DeviceId) (clone : Nat)
  | guarding (d : DeviceId) (clone : Nat) (command : Option Nat)
  | releasing (clone : Nat)
  deriving DecidableEq

/-- The action has nothing to do with the locks and the commands. -/
def Silent : SftpAction → Bool
  | setMountState _ _ => true
  | getMountState _ => true
  | getConnection _ => true
  | removeConnection _ => true
  | pathExists _ => true
  | mountPointIsLive _ => true
  | removeDir _ => true
  | getGeneration _ => true
  | setGeneration _ _ => true
  | broadcast _ => true
  | _ => false

/-- The moves between the phases by what is done with the locks and the commands. -/
def shift : Phase → (action : SftpAction) → action.Answer → Option Phase
  | .free, mountLockFor d, clone => some (.waiting d clone)
  | .free, pollLeftover _, some leftover => some (.releasing leftover.clone)
  | .free, pollLeftover _, none => some .free
  | .free, mountEnds _ _, _ => some .free
  | .free, unmountEnds _ _, _ => some .free
  | .waiting d clone, lockOwned own, acquired =>
    if clone = own then some (if acquired then .guarding d clone none else .free) else none
  | .guarding d clone none, spawnMount request _, command =>
    if request.mountPoint = mountPointFor plugin.dataDir d then some (.guarding d clone (some command)) else none
  | .guarding d clone none, spawnUnmount mountPoint, command =>
    if mountPoint = mountPointFor plugin.dataDir d then some (.guarding d clone (some command)) else none
  | .guarding d clone (some command), awaitMount awaited, ended =>
    if command = awaited then some (.guarding d clone (if ended.isSome then none else some command)) else none
  | .guarding d clone (some command), awaitUnmount awaited, ended =>
    if command = awaited then some (.guarding d clone (if ended.isSome then none else some command)) else none
  | .guarding _ clone none, dropGuard own, _ => if clone = own then some .free else none
  | .guarding _ clone (some command), spawnLeftover leftover, _ => if leftover = ⟨clone, command⟩ then some .free else none
  | .releasing clone, dropGuard own, _ => if clone = own then some .free else none
  | _, _, _ => none

def move (phase : Phase) (action : SftpAction) (answer : action.Answer) : Option Phase :=
  if Silent action then some phase else shift plugin phase action answer

variable {plugin} {phase : Phase}

theorem follows_silent {action : SftpAction} (silent : Silent action = true) {Q : Phase → action.Answer → Prop}
    (rest : ∀ answer, Q phase answer) : Follows (move plugin) phase (perform action) Q :=
  fun answer => ⟨phase, if_pos silent, rest answer⟩

variable {d : DeviceId} {clone : Nat}

theorem follows_broadcastUpdate {info : SftpConnectionInfo} {state : MountState} {mountPoint : Option String} {Q : Phase → Unit → Prop}
    (rest : Q phase ()) : Follows (move plugin) phase (broadcastUpdate d info state mountPoint) Q :=
  follows_silent rfl fun _ => rest

theorem follows_acquireMountLock {Q : Phase → Except String Nat → Prop} (got : ∀ clone, Q (.guarding d clone none) (.ok clone))
    (busy : ∀ msg, Q .free (.error msg)) : Follows (move plugin) .free (acquireMountLock plugin d) Q := by
  refine fun clone => ⟨.waiting d clone, rfl, fun acquired => ⟨_, if_pos rfl, ?_⟩⟩
  cases acquired with
  | true => exact got clone
  | false => exact busy _

theorem follows_mountViaMounterTracked {request : MountRequest} {password : String} {Q : Phase → Waited MountOutcome → Prop}
    (here : request.mountPoint = mountPointFor plugin.dataDir d) (rest : ∀ waited, Q (.guarding d clone waited.2) waited) :
    Follows (move plugin) (.guarding d clone none) (mountViaMounterTracked plugin request password) Q := by
  refine fun join => ⟨.guarding d clone (some join), if_pos here, fun ended => ⟨_, if_pos rfl, ?_⟩⟩
  cases ended with
  | some joinResult => exact rest (joined "mount" joinResult, none)
  | none => exact rest (_, some join)

theorem follows_unmountViaMounterTracked {mountPoint : String} {Q : Phase → Waited UnmountOutcome → Prop}
    (here : mountPoint = mountPointFor plugin.dataDir d) (rest : ∀ waited, Q (.guarding d clone waited.2) waited) :
    Follows (move plugin) (.guarding d clone none) (unmountViaMounterTracked plugin mountPoint) Q := by
  refine fun join => ⟨.guarding d clone (some join), if_pos here, fun ended => ⟨_, if_pos rfl, ?_⟩⟩
  cases ended with
  | some joinResult => exact rest (joined "unmount" joinResult, none)
  | none => exact rest (_, some join)

theorem follows_handLockToLeftoverTask {Q : Phase → Unit → Prop} (leftover : Option Nat) (rest : Q .free ()) :
    Follows (move plugin) (.guarding d clone leftover) (handLockToLeftoverTask clone leftover) Q := by
  cases leftover with
  | some task => exact fun _ => ⟨.free, if_pos rfl, rest⟩
  | none => exact fun _ => ⟨.free, if_pos rfl, rest⟩

theorem follows_mountDeviceLocked {info : SftpConnectionInfo} {Q : Phase → Waited MountStatus → Prop}
    (rest : ∀ waited, Q (.guarding d clone waited.2) waited) :
    Follows (move plugin) (.guarding d clone none) (mountDeviceLocked plugin d info) Q := by
  refine (follows_bind _ _ _).mpr (follows_silent rfl fun _ => ?_)
  refine (follows_bind _ _ _).mpr (follows_mountViaMounterTracked rfl fun waited => ?_)
  obtain ⟨outcome, leftover⟩ := waited
  cases outcome with
  | error e =>
    refine (follows_bind _ _ _).mpr (follows_silent rfl fun _ => ?_)
    exact (follows_bind _ _ _).mpr (follows_broadcastUpdate (rest (.error e, leftover)))
  | ok outcome =>
    refine (follows_bind _ _ _).mpr (follows_silent rfl fun _ => ?_)
    exact (follows_bind _ _ _).mpr (follows_broadcastUpdate (rest (_, leftover)))

theorem follows_lockBusy {info : Option SftpConnectionInfo} {msg : String} {Q : Phase → MountStatus → Prop} (rest : ∀ status, Q phase status) :
    Follows (move plugin) phase (lockBusy d info msg) Q := by
  refine (follows_bind _ _ _).mpr (follows_silent rfl fun _ => ?_)
  cases info with
  | some info => exact (follows_bind _ _ _).mpr (follows_broadcastUpdate (rest _))
  | none => exact rest _

theorem follows_mountDevice (info : SftpConnectionInfo) :
    Follows (move plugin) .free (mountDevice plugin d info) fun later _ => later = .free := by
  refine (follows_bind _ _ _).mpr (follows_acquireMountLock (fun clone => ?_) fun msg => ?_)
  · refine (follows_bind _ _ _).mpr (follows_mountDeviceLocked fun waited => ?_)
    exact (follows_bind _ _ _).mpr (follows_handLockToLeftoverTask waited.2 rfl)
  · exact (follows_bind _ _ _).mpr (follows_lockBusy fun _ => rfl)

theorem follows_unmountDevice : Follows (move plugin) .free (unmountDevice plugin d) fun later _ => later = .free := by
  refine (follows_bind _ _ _).mpr (follows_acquireMountLock (fun clone => ?_) fun msg => ?_)
  · refine (follows_bind _ _ _).mpr (follows_unmountViaMounterTracked rfl fun waited => ?_)
    obtain ⟨outcome, leftover⟩ := waited
    have ends (result : Except Error MountStatus) :
        Follows (move plugin) (.guarding d clone leftover) (do handLockToLeftoverTask clone leftover; return result)
          fun later _ => later = .free :=
      (follows_bind _ _ _).mpr (follows_handLockToLeftoverTask leftover rfl)
    have tells (state : MountState) : Follows (move plugin) (.guarding d clone leftover) (do
        if let some info ← perform (getConnection d) then
          broadcastUpdate d info state none
        handLockToLeftoverTask clone leftover
        return (.ok { state := state, mountPoint := none } : Except Error MountStatus)) fun later _ => later = .free := by
      refine (follows_bind _ _ _).mpr (follows_silent rfl fun info => ?_)
      cases info with
      | some info => exact (follows_bind _ _ _).mpr (follows_broadcastUpdate (ends _))
      | none => exact ends _
    cases outcome with
    | error e => exact ends (.error e)
    | ok outcome =>
      refine (follows_bind _ _ _).mpr (follows_silent rfl fun _ => ?_)
      cases outcome with
      | unmounted => exact (follows_bind _ _ _).mpr (follows_silent rfl fun _ => tells .unmounted)
      | failed msg => exact tells (.failed msg)
  · refine (follows_bind _ _ _).mpr (follows_silent rfl fun _ => ?_)
    refine (follows_bind _ _ _).mpr (follows_silent rfl fun info => ?_)
    cases info with
    | some info => exact (follows_bind _ _ _).mpr (follows_broadcastUpdate rfl)
    | none => rfl

theorem follows_cleanupDevice : Follows (move plugin) .free (cleanupDevice plugin d) fun later _ => later = .free := by
  have ends : Follows (move plugin) .free (do perform (setMountState d .unmounted); perform (removeConnection d))
      fun later _ => later = .free :=
    (follows_bind _ _ _).mpr (follows_silent rfl fun _ => follows_silent rfl fun _ => rfl)
  refine (follows_bind _ _ _).mpr (follows_acquireMountLock (fun clone => ?_) fun msg => ends)
  refine (follows_bind _ _ _).mpr (follows_silent rfl fun found => ?_)
  cases found with
  | true =>
    refine (follows_bind _ _ _).mpr (follows_unmountViaMounterTracked rfl fun waited => ?_)
    exact (follows_bind _ _ _).mpr (follows_handLockToLeftoverTask waited.2 ends)
  | false => exact (follows_bind _ _ _).mpr (follows_handLockToLeftoverTask none ends)

theorem follows_getMountStatus {Q : Phase → MountStatus → Prop} (rest : ∀ status, Q phase status) :
    Follows (move plugin) phase (getMountStatus plugin d) Q := by
  refine (follows_bind _ _ _).mpr (follows_silent rfl fun state => ?_)
  rcases state with _ | (_ | _ | _ | _)
  all_goals exact rest _

theorem follows_reMountIfMounted (info : SftpConnectionInfo) :
    Follows (move plugin) .free (reMountIfMounted plugin d info) fun later _ => later = .free := by
  refine (follows_bind _ _ _).mpr (follows_acquireMountLock (fun clone => ?_) fun msg => ?_)
  · refine (follows_bind _ _ _).mpr (follows_getMountStatus fun status => ?_)
    refine (follows_ite _ _ _ _).mpr ⟨fun _ => ?_, fun _ => ?_⟩
    · refine (follows_bind _ _ _).mpr (follows_getMountStatus fun _ => ?_)
      exact (follows_bind _ _ _).mpr (follows_handLockToLeftoverTask none rfl)
    · refine (follows_bind _ _ _).mpr (follows_unmountViaMounterTracked rfl fun waited => ?_)
      obtain ⟨outcome, leftover⟩ := waited
      cases leftover with
      | some task =>
        refine (follows_bind _ _ _).mpr (follows_silent rfl fun _ => ?_)
        refine (follows_bind _ _ _).mpr (follows_broadcastUpdate ?_)
        exact (follows_bind _ _ _).mpr (follows_handLockToLeftoverTask (some task) rfl)
      | none =>
        refine (follows_bind _ _ _).mpr (follows_mountDeviceLocked fun waited => ?_)
        exact (follows_bind _ _ _).mpr (follows_handLockToLeftoverTask waited.2 rfl)
  · exact (follows_bind _ _ _).mpr (follows_lockBusy fun _ => rfl)

theorem stripSftp_path {name : String} (stripped : stripSftp name = some d) :
    plugin.dataDir ++ "/mounts/" ++ name = mountPointFor plugin.dataDir d := by
  unfold stripSftp at stripped
  split at stripped
  · rename_i pre
    obtain ⟨rest, whole⟩ := pre
    obtain rfl := Option.some.inj stripped
    have tail : name.toList.drop "sftp-".length = rest := by rw [← whole]; rfl
    apply String.toList_inj.mp
    rw [tail]
    simp only [mountPointFor, String.toList_append, String.toList_ofList, ← whole, List.append_assoc]
    rfl
  · cases stripped

theorem follows_sweepEntry (name : String) {Q : Phase → List String → Prop} (rest : ∀ label, Q .free label) :
    Follows (move plugin) .free (sweepEntry plugin name) Q := by
  unfold sweepEntry
  split
  · exact rest _
  · rename_i d stripped
    refine (follows_bind _ _ _).mpr (follows_acquireMountLock (fun clone => ?_) fun msg => rest _)
    refine (follows_bind _ _ _).mpr (follows_unmountViaMounterTracked (stripSftp_path stripped) fun waited => ?_)
    refine (follows_bind _ _ _).mpr (follows_handLockToLeftoverTask waited.2 ?_)
    rcases waited.1 with _ | (_ | _)
    · exact rest _
    · exact (follows_bind _ _ _).mpr (follows_silent rfl fun _ => rest _)
    · exact rest _

theorem follows_startupSweep (names : List String) {Q : Phase → List String → Prop} (rest : ∀ labels, Q .free labels) :
    Follows (move plugin) .free (startupSweep plugin names) Q := by
  induction names generalizing Q with
  | nil => exact rest []
  | cons name names ih =>
    refine (follows_bind _ _ _).mpr (follows_sweepEntry name fun label => ?_)
    exact (follows_bind _ _ _).mpr (ih fun labels => rest _)

theorem follows_onDisconnected : Follows (move plugin) .free (onDisconnected plugin d) fun later _ => later = .free := by
  refine (follows_bind _ _ _).mpr (follows_silent rfl fun _ => ?_)
  refine (follows_bind _ _ _).mpr (follows_silent rfl fun live => ?_)
  refine (follows_bind _ _ _).mpr (follows_acquireMountLock (fun clone => ?_) fun msg => rfl)
  have drops : Follows (move plugin) (.guarding d clone none) (perform (dropGuard clone)) fun later _ => later = .free :=
    follows_handLockToLeftoverTask none rfl
  have goesOn (generation : Option Nat) : Follows (move plugin) (.guarding d clone none) (do
      if generation.isSome then
        perform (dropGuard clone)
        return
      if !live then
        perform (setMountState d .unmounted)
        perform (dropGuard clone)
        return
      let (outcome, leftover) ← unmountViaMounterTracked plugin (mountPointFor plugin.dataDir d)
      match outcome with
      | .ok .unmounted => perform (setMountState d .unmounted)
      | .ok (.failed _) => pure ()
      | .error _ => pure ()
      handLockToLeftoverTask clone leftover) fun later _ => later = .free := by
    refine (follows_ite _ _ _ _).mpr ⟨fun _ => (follows_bind _ _ _).mpr drops, fun _ => ?_⟩
    refine (follows_ite _ _ _ _).mpr ⟨fun _ => ?_, fun _ => ?_⟩
    · exact (follows_bind _ _ _).mpr (follows_silent rfl fun _ => (follows_bind _ _ _).mpr drops)
    · refine (follows_bind _ _ _).mpr (follows_unmountViaMounterTracked rfl fun waited => ?_)
      obtain ⟨outcome, leftover⟩ := waited
      rcases outcome with _ | (_ | _)
      · exact follows_handLockToLeftoverTask leftover rfl
      · exact (follows_bind _ _ _).mpr (follows_silent rfl fun _ => follows_handLockToLeftoverTask leftover rfl)
      · exact follows_handLockToLeftoverTask leftover rfl
  refine (follows_ite _ _ _ _).mpr ⟨fun _ => (follows_bind _ _ _).mpr (follows_silent rfl fun generation => ?_), fun _ => ?_⟩
  · exact goesOn generation
  · exact goesOn none

theorem follows_program (call : Call) : Follows (move plugin) .free (program plugin call) fun later _ => later = .free := by
  cases call with
  | mountDevice d info => exact (follows_map _ _ _).mpr (follows_mountDevice info)
  | unmountDevice d => exact (follows_map _ _ _).mpr follows_unmountDevice
  | reMountIfMounted d info => exact (follows_map _ _ _).mpr (follows_reMountIfMounted info)
  | cleanupDevice d => exact follows_cleanupDevice
  | onDisconnected d => exact follows_onDisconnected
  | startupSweep names => exact (follows_map _ _ _).mpr (follows_startupSweep names fun _ => rfl)
  | runLeftover index =>
    intro polled
    cases polled with
    | some leftover => exact ⟨.releasing leftover.clone, rfl, fun _ => ⟨.free, if_pos rfl, rfl⟩⟩
    | none => exact ⟨.free, rfl, rfl⟩
  | mountEnds command result => exact fun _ => ⟨.free, rfl, rfl⟩
  | unmountEnds command result => exact fun _ => ⟨.free, rfl, rfl⟩
  | setGeneration d generation => exact follows_silent rfl fun _ => rfl

end Phases

section Claims

/-- What a task, or a leftover task, has of a device's lock, and the command it watches over. -/
inductive Claim
  | waits (d : DeviceId) (clone : Nat)
  | guards (d : DeviceId) (clone : Nat) (command : Option Nat)
  | drains (clone : Nat) (command : Nat)
  | releases (clone : Nat)
  deriving DecidableEq

def Claim.clone : Claim → Nat
  | waits _ clone => clone
  | guards _ clone _ => clone
  | drains clone _ => clone
  | releases clone => clone

def Claim.Watches (index : Nat) : Claim → Prop
  | guards _ _ command => command = some index
  | drains _ command => command = index
  | _ => False

def Phase.claim : Phase → Option Claim
  | .free => none
  | .waiting d clone => some (.waits d clone)
  | .guarding d clone command => some (.guards d clone command)
  | .releasing clone => some (.releases clone)

def claims (s : SftpState) (phases : Nat → Phase) : Holder Unit → Option Claim :=
  Holder.held Phase.claim (fun leftover : Leftover => some (.drains leftover.clone leftover.command)) (fun _ => none) phases s.leftovers

def clonesHeld (s : SftpState) (phases : Nat → Phase) : Holder Unit → Option Nat :=
  Holder.held (fun phase => phase.claim.map Claim.clone) (fun leftover : Leftover => some leftover.clone) (fun _ => none) phases s.leftovers

/-- The clone is one of the lock that the map has for the device. -/
def Homed (s : SftpState) (d : DeviceId) (clone : Nat) : Prop :=
  ∃ lock, s.clones.lookup clone = some lock ∧ s.mountLocks.lookup d = some lock

/-- The clone is in the guard of its lock. -/
def Locks (s : SftpState) (clone : Nat) : Prop := ∃ lock, s.clones.lookup clone = some lock ∧ s.guards.lookup lock = some clone

variable (plugin : SftpPlugin)

/-- The command with this index is one for the device's mount point. -/
def IsFor (s : SftpState) (d : DeviceId) (index : Nat) : Prop :=
  ∃ command, s.commands[index]? = some command ∧ command.mountPoint = mountPointFor plugin.dataDir d

def Good (s : SftpState) : Claim → Prop
  | .waits d clone => Homed s d clone
  | .guards d clone command => Homed s d clone ∧ Locks s clone ∧ ∀ index, command = some index → IsFor plugin s d index
  | .drains clone command => ∃ d, Homed s d clone ∧ Locks s clone ∧ IsFor plugin s d command
  | .releases clone => Locks s clone

/-- Every clone of a lock is in one hand, and whoever watches over a command holds the lock of its device. -/
structure Excluded (s : SftpState) (phases : Nat → Phase) : Prop where
  custody : Custody {clone | (s.clones.lookup clone).isSome} (clonesHeld s phases)
  young : ∀ clone, (s.clones.lookup clone).isSome → clone < s.nextClone
  good : ∀ holder claim, claims s phases holder = some claim → Good plugin s claim
  watched : ∀ (index : Nat) command, s.commands[index]? = some command → command.Running →
    ∃ holder claim, claims s phases holder = some claim ∧ claim.Watches index

variable {plugin} {s s' : SftpState} {phases : Nat → Phase} {task : Nat} {later : Phase} {clone : Nat} {d : DeviceId}

theorem clonesHeld_eq (holder : Holder Unit) : clonesHeld s phases holder = (claims s phases holder).map Claim.clone := by
  cases holder with
  | task own => rfl
  | spawned index =>
    simp only [clonesHeld, claims, Holder.held]
    cases s.leftovers[index]?.join <;> rfl
  | slot place => rfl

/-- Nothing that a claim with this clone rests on is lost. -/
structure Frame (s s' : SftpState) (clone : Nat) : Prop where
  lock : ∀ lock, s.clones.lookup clone = some lock → s'.clones.lookup clone = some lock ∧
    (∀ d, s.mountLocks.lookup d = some lock → s'.mountLocks.lookup d = some lock) ∧
    (s.guards.lookup lock = some clone → s'.guards.lookup lock = some clone)
  commands : ∀ (index : Nat) command, s.commands[index]? = some command →
    ∃ now, s'.commands[index]? = some now ∧ now.mountPoint = command.mountPoint

theorem Frame.homed (frame : Frame s s' clone) (homed : Homed s d clone) : Homed s' d clone := by
  obtain ⟨lock, own, mapped⟩ := homed
  obtain ⟨own', mapped', -⟩ := frame.lock lock own
  exact ⟨lock, own', mapped' d mapped⟩

theorem Frame.locks (frame : Frame s s' clone) (locks : Locks s clone) : Locks s' clone := by
  obtain ⟨lock, own, held⟩ := locks
  obtain ⟨own', -, held'⟩ := frame.lock lock own
  exact ⟨lock, own', held' held⟩

theorem Frame.isFor (frame : Frame s s' clone) {index : Nat} (isFor : IsFor plugin s d index) : IsFor plugin s' d index := by
  obtain ⟨command, found, path⟩ := isFor
  obtain ⟨now, found', same⟩ := frame.commands index command found
  exact ⟨now, found', same.trans path⟩

theorem Frame.good {claim : Claim} (frame : Frame s s' claim.clone) (good : Good plugin s claim) : Good plugin s' claim := by
  cases claim with
  | waits d clone => exact frame.homed good
  | guards d clone command => exact ⟨frame.homed good.1, frame.locks good.2.1, fun index same => frame.isFor (good.2.2 index same)⟩
  | drains clone command =>
    obtain ⟨d, homed, locks, isFor⟩ := good
    exact ⟨d, frame.homed homed, frame.locks locks, frame.isFor isFor⟩
  | releases clone => exact frame.locks good

/-- No two running commands are for the same device. -/
theorem Excluded.one (excluded : Excluded plugin s phases) {i j : Nat} {one other : MountCommand} (first : s.commands[i]? = some one)
    (second : s.commands[j]? = some other) (running : one.Running) (running' : other.Running)
    (path : one.mountPoint = mountPointFor plugin.dataDir d) (path' : other.mountPoint = mountPointFor plugin.dataDir d) : i = j := by
  obtain ⟨holder, claim, held, watches⟩ := excluded.watched i one first running
  obtain ⟨holder', claim', held', watches'⟩ := excluded.watched j other second running'
  have reaches {index : Nat} {claim : Claim} {command : MountCommand} (good : Good plugin s claim) (watches : claim.Watches index)
      (found : s.commands[index]? = some command) (path : command.mountPoint = mountPointFor plugin.dataDir d) :
      Homed s d claim.clone ∧ Locks s claim.clone := by
    have same {other : DeviceId} (isFor : IsFor plugin s other index) : other = d := by
      obtain ⟨command', found', path'⟩ := isFor
      rw [found] at found'
      cases found'
      exact mountPointFor_inj (path'.symm.trans path)
    cases claim with
    | guards other clone command =>
      obtain rfl := same (good.2.2 index watches)
      exact ⟨good.1, good.2.1⟩
    | drains clone command =>
      obtain ⟨other, homed, locks, isFor⟩ := good
      obtain rfl : command = index := watches
      obtain rfl := same isFor
      exact ⟨homed, locks⟩
    | waits other clone => exact absurd watches not_false
    | releases clone => exact absurd watches not_false
  obtain ⟨⟨lock, own, mapped⟩, lock₁, own₁, guard⟩ := reaches (excluded.good holder claim held) watches first path
  obtain ⟨⟨lock', own', mapped'⟩, lock₂, own₂, guard'⟩ := reaches (excluded.good holder' claim' held') watches' second path'
  have sameLock : lock = lock' := Option.some.inj (mapped.symm.trans mapped')
  have sameLock₁ : lock₁ = lock := Option.some.inj (own₁.symm.trans own)
  have sameLock₂ : lock₂ = lock' := Option.some.inj (own₂.symm.trans own')
  subst sameLock sameLock₁ sameLock₂
  have sameClone : claim.clone = claim'.clone := Option.some.inj (guard.symm.trans guard')
  have sameHolder : holder = holder' := excluded.custody.exclusive holder holder' claim.clone
    (by rw [clonesHeld_eq, held]; rfl) (by rw [clonesHeld_eq, held', sameClone]; rfl)
  subst sameHolder
  obtain rfl : claim = claim' := Option.some.inj (held.symm.trans held')
  cases claim with
  | guards other clone command => exact Option.some.inj (watches.symm.trans watches')
  | drains clone command => exact watches.symm.trans watches'
  | waits other clone => exact absurd watches not_false
  | releases clone => exact absurd watches not_false

@[simp] theorem claims_move (phase : Phase) :
    claims s (Function.update phases task phase) = Function.update (claims s phases) (.task task) phase.claim := Holder.held_move ..

@[simp] theorem clonesHeld_move (phase : Phase) :
    clonesHeld s (Function.update phases task phase) = Function.update (clonesHeld s phases) (.task task) (phase.claim.map Claim.clone) :=
  Holder.held_move ..

/-- A step that changes the claim of one task alone. -/
theorem Excluded.step (excluded : Excluded plugin s phases) (same : s'.leftovers = s.leftovers)
    (custody : Custody {clone | (s'.clones.lookup clone).isSome} (clonesHeld s' (Function.update phases task later)))
    (young : ∀ clone, (s'.clones.lookup clone).isSome → clone < s'.nextClone)
    (frame : ∀ holder claim, holder ≠ .task task → claims s phases holder = some claim → Frame s s' claim.clone)
    (good : ∀ claim, later.claim = some claim → Good plugin s' claim)
    (watched : ∀ (index : Nat) command, s'.commands[index]? = some command → command.Running →
      (∃ before, s.commands[index]? = some before ∧ before.Running ∧ ∀ claim, (phases task).claim = some claim → ¬ claim.Watches index) ∨
      ∃ claim, later.claim = some claim ∧ claim.Watches index) :
    Excluded plugin s' (Function.update phases task later) := by
  have elsewhere (phases : Nat → Phase) (holder : Holder Unit) : claims s' phases holder = claims s phases holder := by
    simp only [claims, same]
  refine ⟨custody, young, fun holder claim held => ?_, fun index command found running => ?_⟩
  · rw [claims_move] at held
    by_cases here : holder = .task task
    · subst here
      rw [Function.update_self] at held
      exact good claim held
    · rw [Function.update_of_ne here, elsewhere] at held
      exact (frame holder claim here held).good (excluded.good holder claim held)
  · rcases watched index command found running with ⟨before, found', running', other⟩ | ⟨claim, now, watches⟩
    · obtain ⟨holder, claim, held, watches⟩ := excluded.watched index before found' running'
      have apart : holder ≠ .task task := by
        rintro rfl
        exact other claim held watches
      exact ⟨holder, claim, by rw [claims_move, Function.update_of_ne apart, elsewhere, held], watches⟩
    · exact ⟨.task task, claim, by rw [claims_move, Function.update_self, now], watches⟩

/-- What no claim rests on does not matter. -/
theorem Frame.of_same (clones : s'.clones = s.clones) (locks : s'.mountLocks = s.mountLocks) (guards : s'.guards = s.guards)
    (commands : s'.commands = s.commands) : Frame s s' clone := by
  refine ⟨fun lock own => ?_, fun index command found => ⟨command, by rw [commands, found], rfl⟩⟩
  rw [clones, locks, guards]
  exact ⟨own, fun _ mapped => mapped, fun held => held⟩

theorem silent_keeps {action : SftpAction} (silent : Silent action = true) (s : SftpState) :
    (action.exec s).2.clones = s.clones ∧ (action.exec s).2.mountLocks = s.mountLocks ∧ (action.exec s).2.guards = s.guards ∧
      (action.exec s).2.commands = s.commands ∧ (action.exec s).2.leftovers = s.leftovers ∧ (action.exec s).2.nextClone = s.nextClone := by
  cases action with
  | setGeneration d generation => cases generation <;> exact ⟨rfl, rfl, rfl, rfl, rfl, rfl⟩
  | setMountState => exact ⟨rfl, rfl, rfl, rfl, rfl, rfl⟩
  | getMountState => exact ⟨rfl, rfl, rfl, rfl, rfl, rfl⟩
  | getConnection => exact ⟨rfl, rfl, rfl, rfl, rfl, rfl⟩
  | removeConnection => exact ⟨rfl, rfl, rfl, rfl, rfl, rfl⟩
  | pathExists => exact ⟨rfl, rfl, rfl, rfl, rfl, rfl⟩
  | mountPointIsLive => exact ⟨rfl, rfl, rfl, rfl, rfl, rfl⟩
  | removeDir => exact ⟨rfl, rfl, rfl, rfl, rfl, rfl⟩
  | getGeneration => exact ⟨rfl, rfl, rfl, rfl, rfl, rfl⟩
  | broadcast => exact ⟨rfl, rfl, rfl, rfl, rfl, rfl⟩
  | _ => cases silent

theorem Excluded.silent (excluded : Excluded plugin s phases) {action : SftpAction} (silent : Silent action = true) :
    Excluded plugin (action.exec s).2 (Function.update phases task (phases task)) := by
  obtain ⟨clones, locks, guards, commands, leftovers, nextClone⟩ := silent_keeps silent s
  have frame (clone : Nat) : Frame s (action.exec s).2 clone := .of_same clones locks guards commands
  rw [Function.update_eq_self]
  have same : claims (action.exec s).2 phases = claims s phases := by simp only [claims, leftovers]
  refine ⟨?_, ?_, fun holder claim held => ?_, fun index command found running => ?_⟩
  · simpa only [clonesHeld, leftovers, clones] using excluded.custody
  · rw [clones, nextClone]
    exact excluded.young
  · exact (frame claim.clone).good (excluded.good holder claim (same ▸ held))
  · rw [commands] at found
    rw [same]
    exact excluded.watched index command found running

/-- The clones of two holders are different ones. -/
theorem Excluded.apart (excluded : Excluded plugin s phases) {holder other : Holder Unit} {claim claim' : Claim} (differ : holder ≠ other)
    (held : claims s phases holder = some claim) (held' : claims s phases other = some claim') : claim.clone ≠ claim'.clone := by
  intro same
  refine differ (excluded.custody.exclusive holder other claim.clone ?_ ?_)
  · rw [clonesHeld_eq, held]
    rfl
  · rw [clonesHeld_eq, held', same]
    rfl

theorem isShared_of_clone {lock : Nat} (own : s.clones.lookup clone = some lock) : s.isShared lock = true :=
  List.any_eq_true.mpr ⟨⟨clone, lock⟩, List.of_mem_dlookup own, decide_eq_true rfl⟩

/-- The device's lock is in the map, every lock that has a clone has stayed there, and the new clone is one of the device's lock. -/
theorem lookUpLock_spec (d : DeviceId) (s : SftpState) :
    ∃ lock, (lookUpLock d s).1 = s.nextClone ∧ (lookUpLock d s).2.clones = s.clones.insert s.nextClone lock ∧
      (lookUpLock d s).2.mountLocks.lookup d = some lock ∧
      (∀ other found, s.mountLocks.lookup other = some found → s.isShared found = true →
        (lookUpLock d s).2.mountLocks.lookup other = some found) ∧
      (lookUpLock d s).2.guards = s.guards ∧ (lookUpLock d s).2.commands = s.commands ∧
      (lookUpLock d s).2.leftovers = s.leftovers ∧ (lookUpLock d s).2.nextClone = s.nextClone + 1 := by
  have stays {other : DeviceId} {found : Nat} (mapped : s.mountLocks.lookup other = some found) (shared : s.isShared found = true) :
      (s.mountLocks.retain fun _ lock => s.isShared lock).lookup other = some found := by
    rw [Table.lookup_retain, mapped, Option.filter_some, if_pos shared]
  simp only [lookUpLock]
  cases looked : (s.mountLocks.retain fun _ lock => s.isShared lock).lookup d with
  | some lock => exact ⟨lock, rfl, rfl, looked, fun other found mapped shared => stays mapped shared, rfl, rfl, rfl, rfl⟩
  | none =>
    refine ⟨s.nextLock, rfl, rfl, AList.lookup_insert _, fun other found mapped shared => ?_, rfl, rfl, rfl, rfl⟩
    have kept := stays mapped shared
    rw [Table.lookup_insert_of]
    split
    · rename_i same
      rw [same, looked] at kept
      cases kept
    · exact kept

theorem live_insert {lock : Nat} :
    {clone | ((s.clones.insert s.nextClone lock).lookup clone).isSome} = insert s.nextClone {clone | (s.clones.lookup clone).isSome} := by
  ext clone
  simp only [Set.mem_ofPred_eq, Set.mem_insert_iff, Table.lookup_insert_of]
  split
  · rename_i same
    simp [same]
  · rename_i other
    simp [other]

theorem live_erase (clone : Nat) :
    {other | ((s.clones.erase clone).lookup other).isSome} = {other | (s.clones.lookup other).isSome} \ {clone} := by
  ext other
  simp only [Set.mem_ofPred_eq, Set.mem_sdiff, Set.mem_singleton_iff, Table.lookup_erase_of]
  split
  · rename_i same
    simp [same]
  · rename_i apart
    simp [apart]

theorem Excluded.mountLockFor (excluded : Excluded plugin s phases) (free : phases task = .free) (d : DeviceId) :
    Excluded plugin (lookUpLock d s).2 (Function.update phases task (.waiting d (lookUpLock d s).1)) := by
  obtain ⟨lock, new, clones, mapped, kept, guards, commands, leftovers, nextClone⟩ := lookUpLock_spec d s
  have fresh : s.nextClone ∉ {clone | (s.clones.lookup clone).isSome} := fun member => Nat.lt_irrefl _ (excluded.young _ member)
  have hand : clonesHeld s phases (.task task) = none := by simp [clonesHeld, Holder.held, free, Phase.claim]
  rw [new]
  refine excluded.step leftovers ?_ ?_ (fun holder claim apart held => ?_) ?_ ?_
  · rw [clonesHeld_move, clones, live_insert]
    have same : clonesHeld (lookUpLock d s).2 phases = clonesHeld s phases := by simp only [clonesHeld, leftovers]
    rw [same]
    exact excluded.custody.receive hand fresh
  · intro clone live
    rw [clones, Table.lookup_insert_of] at live
    rw [nextClone]
    split at live
    · omega
    · have := excluded.young clone live
      omega
  · refine ⟨fun lock' own => ⟨?_, fun other mapped => kept other lock' mapped (isShared_of_clone own), fun held => by rw [guards, held]⟩,
      fun index command found => ⟨command, by rw [commands, found], rfl⟩⟩
    have older : claim.clone ≠ s.nextClone := by
      have := excluded.young claim.clone (by rw [own]; rfl)
      omega
    rw [clones, Table.lookup_insert_of, if_neg older, own]
  · intro claim same
    cases same
    exact ⟨lock, by rw [clones, AList.lookup_insert], mapped⟩
  · intro index command found running
    rw [commands] at found
    exact .inl ⟨command, found, running, fun claim held => by rw [free] at held; cases held⟩

theorem Excluded.homed (excluded : Excluded plugin s phases) (waiting : phases task = .waiting d clone) : Homed s d clone :=
  excluded.good (.task task) (.waits d clone) (by simp [claims, Holder.held, waiting, Phase.claim])

theorem Excluded.lockOwned (excluded : Excluded plugin s phases) (waiting : phases task = .waiting d clone) :
    Excluded plugin (acquire clone s).2
      (Function.update phases task (if (acquire clone s).1 then .guarding d clone none else .free)) := by
  obtain ⟨lock, own, mapped⟩ := excluded.homed waiting
  have hand : clonesHeld s phases (.task task) = some clone := by simp [clonesHeld, Holder.held, waiting, Phase.claim, Claim.clone]
  have here : claims s phases (.task task) = some (.waits d clone) := by simp [claims, Holder.held, waiting, Phase.claim]
  simp only [acquire, own]
  split
  · rename_i free
    rw [Bool.and_eq_true, Option.isNone_iff_eq_none] at free
    simp only [if_true]
    refine excluded.step rfl ?_ excluded.young (fun holder claim apart held => ?_) ?_ fun index command found running => ?_
    · have stays : clonesHeld s (Function.update phases task (.guarding d clone none)) = clonesHeld s phases := by
        rw [clonesHeld_move]
        exact (congrArg _ hand.symm).trans (Function.update_eq_self ..)
      exact (stays ▸ excluded.custody :)
    · refine ⟨fun other own' => ⟨own', fun _ mapped => mapped, fun held' => ?_⟩, fun index command found => ⟨command, found, rfl⟩⟩
      rw [Table.lookup_insert_of]
      split
      · rename_i same
        rw [same, free.1] at held'
        cases held'
      · exact held'
    · intro claim same
      cases same
      exact ⟨⟨lock, own, mapped⟩, ⟨lock, own, AList.lookup_insert _⟩, fun _ watches => by cases watches⟩
    · exact .inl ⟨command, found, running, fun claim held => by
        rw [waiting] at held
        cases held
        exact not_false⟩
  · simp only [Bool.false_eq_true, if_false]
    refine excluded.step rfl ?_ ?_ (fun holder claim apart held => ?_) (fun _ none => by cases none) fun index command found running => ?_
    · rw [clonesHeld_move, live_erase]
      exact excluded.custody.release hand
    · intro other live
      refine excluded.young other ?_
      rw [Table.lookup_erase_of] at live
      split at live
      · cases live
      · exact live
    · refine ⟨fun other own' => ⟨?_, fun _ mapped => mapped, fun held' => held'⟩, fun index command found => ⟨command, found, rfl⟩⟩
      have differ : claim.clone ≠ clone := excluded.apart apart held here
      rw [Table.lookup_erase_of, if_neg differ]
      exact own'
    · exact .inl ⟨command, found, running, fun claim held => by
        rw [waiting] at held
        cases held
        exact not_false⟩

/-- The holder of a guard gives it up. -/
theorem Excluded.dropGuard (excluded : Excluded plugin s phases) (hand : (phases task).claim.map Claim.clone = some clone)
    (locks : Locks s clone) (idle : ∀ claim index, (phases task).claim = some claim → ¬ claim.Watches index) :
    Excluded plugin (release clone s) (Function.update phases task .free) := by
  obtain ⟨lock, own, guard⟩ := locks
  obtain ⟨claim, here, rfl⟩ := Option.map_eq_some_iff.mp hand
  simp only [release, own]
  refine excluded.step rfl ?_ ?_ (fun holder other apart held => ?_) nofun fun index command found running => ?_
  · rw [clonesHeld_move, live_erase]
    exact excluded.custody.release hand
  · intro other live
    refine excluded.young other ?_
    rw [Table.lookup_erase_of] at live
    split at live
    · cases live
    · exact live
  · have differ := excluded.apart apart held here
    refine ⟨fun other' own' => ⟨?_, fun _ mapped => mapped, fun held' => ?_⟩, fun index command found => ⟨command, found, rfl⟩⟩
    · rw [Table.lookup_erase_of, if_neg differ]
      exact own'
    · rw [Table.lookup_erase_of]
      split
      · rename_i same
        rw [same, guard] at held'
        exact absurd (Option.some.inj held').symm differ
      · exact held'
  · exact .inl ⟨command, found, running, fun claim held => idle claim index held⟩

theorem Excluded.guarding (excluded : Excluded plugin s phases) {command : Option Nat} (guarding : phases task = .guarding d clone command) :
    Homed s d clone ∧ Locks s clone ∧ ∀ index, command = some index → IsFor plugin s d index :=
  excluded.good (.task task) (.guards d clone command) (by simp [claims, Holder.held, guarding, Phase.claim])

/-- The holder of a guard starts a command for its device. -/
theorem Excluded.spawnCommand (excluded : Excluded plugin s phases) (guarding : phases task = .guarding d clone none) (command : MountCommand)
    (path : command.mountPoint = mountPointFor plugin.dataDir d) :
    Excluded plugin { s with commands := s.commands ++ [command] }
      (Function.update phases task (.guarding d clone (some s.commands.length))) := by
  have hand : clonesHeld s phases (.task task) = some clone := by simp [clonesHeld, Holder.held, guarding, Phase.claim, Claim.clone]
  obtain ⟨homed, locks, -⟩ := excluded.guarding guarding
  have grows {index : Nat} {found : MountCommand} (there : s.commands[index]? = some found) :
      (s.commands ++ [command])[index]? = some found :=
    (List.getElem?_append_left (List.getElem?_eq_some_iff.mp there).1).trans there
  have frame (clone : Nat) : Frame s { s with commands := s.commands ++ [command] } clone :=
    ⟨fun lock own => ⟨own, fun _ mapped => mapped, fun held => held⟩, fun index found there => ⟨found, grows there, rfl⟩⟩
  refine excluded.step rfl ?_ excluded.young (fun holder claim _ _ => frame claim.clone) ?_ fun index found there running => ?_
  · have stays : clonesHeld s (Function.update phases task (.guarding d clone (some s.commands.length))) = clonesHeld s phases := by
      rw [clonesHeld_move]
      exact (congrArg _ hand.symm).trans (Function.update_eq_self ..)
    exact (stays ▸ excluded.custody :)
  · intro claim same
    cases same
    refine ⟨(frame clone).homed homed, (frame clone).locks locks, fun index same => ?_⟩
    cases same
    exact ⟨command, by simp, path⟩
  · rcases Nat.lt_or_ge index s.commands.length with old | new
    · refine .inl ⟨found, ?_, running, fun claim held => ?_⟩
      · rw [← there]
        exact (List.getElem?_append_left old).symm
      · rw [guarding] at held
        cases held
        intro watches
        cases watches
    · have inside := (List.getElem?_eq_some_iff.mp there).1
      rw [List.length_append, List.length_singleton] at inside
      exact .inr ⟨_, rfl, by simp only [Claim.Watches]; congr 1; omega⟩

/-- A command is no longer watched over when it has ended. -/
theorem Excluded.awaited (excluded : Excluded plugin s phases) {index : Nat} (guarding : phases task = .guarding d clone (some index))
    {ended : Bool} (finished : ended = true → ∀ command, s.commands[index]? = some command → ¬ command.Running) :
    Excluded plugin s (Function.update phases task (.guarding d clone (if ended then none else some index))) := by
  have hand : clonesHeld s phases (.task task) = some clone := by simp [clonesHeld, Holder.held, guarding, Phase.claim, Claim.clone]
  obtain ⟨homed, locks, isFor⟩ := excluded.guarding guarding
  refine excluded.step rfl ?_ excluded.young (fun holder claim _ _ => .of_same rfl rfl rfl rfl) ?_ fun other command found running => ?_
  · have stays : clonesHeld s (Function.update phases task (.guarding d clone (if ended then none else some index))) =
        clonesHeld s phases := by
      rw [clonesHeld_move]
      exact (congrArg _ hand.symm).trans (Function.update_eq_self ..)
    exact (stays ▸ excluded.custody :)
  · intro claim same
    cases same
    refine ⟨homed, locks, fun other same => ?_⟩
    cases ended with
    | true => cases same
    | false => exact isFor other same
  · by_cases watched : other = index
    · subst watched
      cases ended with
      | true => exact absurd running (finished rfl command found)
      | false => exact .inr ⟨_, rfl, rfl⟩
    · refine .inl ⟨command, found, running, fun claim held => ?_⟩
      rw [guarding] at held
      cases held
      exact fun same => watched (Option.some.inj same).symm

/-- A command that ends keeps its place. -/
theorem Excluded.ends (excluded : Excluded plugin s phases) (free : phases task = .free) {index : Nat} {command : MountCommand}
    (found : s.commands[index]? = some command) (finished : MountCommand) (path : finished.mountPoint = command.mountPoint) (ended : ¬ finished.Running)
    {mounted : List String} :
    Excluded plugin { s.setEnded index finished with mounted := mounted } (Function.update phases task .free) := by
  have hand : clonesHeld s phases (.task task) = none := by simp [clonesHeld, Holder.held, free, Phase.claim]
  have inside := (List.getElem?_eq_some_iff.mp found).1
  refine excluded.step rfl ?_ excluded.young (fun holder claim _ _ => ?_) (fun _ none => by cases none) fun other now there running => ?_
  · have stays : clonesHeld s (Function.update phases task .free) = clonesHeld s phases := by
      rw [clonesHeld_move]
      exact Custody.update_none hand
    exact (stays ▸ excluded.custody :)
  · refine ⟨fun lock own => ⟨own, fun _ mapped => mapped, fun held => held⟩, fun other before there => ?_⟩
    simp only [SftpState.setEnded, List.getElem?_set]
    by_cases same : index = other
    · subst same
      rw [found] at there
      cases there
      exact ⟨finished, by simp [inside], path⟩
    · exact ⟨before, by simp [same, there], rfl⟩
  · simp only [SftpState.setEnded, List.getElem?_set] at there
    by_cases same : index = other
    · subst same
      simp only [if_true, inside] at there
      cases there
      exact absurd running ended
    · simp only [same, if_false] at there
      exact .inl ⟨now, there, running, fun claim held => by rw [free] at held; cases held⟩

/-- The guard goes to the task that waits for the end of the command. -/
theorem Excluded.spawnLeftover (excluded : Excluded plugin s phases) {index : Nat} (guarding : phases task = .guarding d clone (some index)) :
    Excluded plugin { s with leftovers := s.leftovers ++ [some ⟨clone, index⟩] } (Function.update phases task .free) := by
  have hand : clonesHeld s phases (.task task) = some clone := by simp [clonesHeld, Holder.held, guarding, Phase.claim, Claim.clone]
  have here : claims s phases (.task task) = some (.guards d clone (some index)) := by simp [claims, Holder.held, guarding, Phase.claim]
  obtain ⟨homed, locks, isFor⟩ := excluded.guarding guarding
  have grown : claims { s with leftovers := s.leftovers ++ [some ⟨clone, index⟩] } (Function.update phases task .free) =
      Function.update (Function.update (claims s phases) (.task task) none) (.spawned s.leftovers.length) (some (.drains clone index)) := by
    rw [claims_move, Function.update_comm (by simp)]
    exact congrArg (Function.update · _ _) (Holder.held_spawn ..)
  refine ⟨?_, excluded.young, fun holder claim held => ?_, fun other command found running => ?_⟩
  · have grown : clonesHeld { s with leftovers := s.leftovers ++ [some ⟨clone, index⟩] } (Function.update phases task .free) =
        Function.update (Function.update (clonesHeld s phases) (.task task) none) (.spawned s.leftovers.length) (some clone) := by
      rw [clonesHeld_move, Function.update_comm (by simp)]
      exact congrArg (Function.update · _ _) (Holder.held_spawn ..)
    rw [grown]
    exact excluded.custody.pass hand (.inr (by simp [clonesHeld, Holder.held]))
  · rw [grown] at held
    by_cases new : holder = .spawned s.leftovers.length
    · subst new
      rw [Function.update_self] at held
      cases held
      exact ⟨d, homed, locks, isFor index rfl⟩
    · rw [Function.update_of_ne new] at held
      by_cases own : holder = .task task
      · subst own
        simp at held
      · rw [Function.update_of_ne own] at held
        exact (Frame.of_same rfl rfl rfl rfl).good (excluded.good holder claim held)
  · rw [grown]
    by_cases same : other = index
    · subst same
      exact ⟨.spawned s.leftovers.length, _, Function.update_self .., rfl⟩
    · obtain ⟨holder, claim, held, watches⟩ := excluded.watched other command found running
      have apart : holder ≠ .task task := by
        rintro rfl
        rw [here] at held
        cases held
        exact same (Option.some.inj watches).symm
      have old : holder ≠ .spawned s.leftovers.length := by
        rintro rfl
        simp [claims, Holder.held] at held
      exact ⟨holder, claim, by rw [Function.update_of_ne old, Function.update_of_ne apart, held], watches⟩

/-- When the command has ended the leftover task takes its guard to drop it. -/
theorem Excluded.pollLeftover (excluded : Excluded plugin s phases) (free : phases task = .free) {index : Nat} {leftover : Leftover}
    (waiting : s.leftovers[index]?.join = some leftover)
    (finished : ∀ command, s.commands[leftover.command]? = some command → ¬ command.Running) :
    Excluded plugin { s with leftovers := s.leftovers.set index none } (Function.update phases task (.releasing leftover.clone)) := by
  have hand : clonesHeld s phases (.task task) = none := by simp [clonesHeld, Holder.held, free, Phase.claim]
  have here : claims s phases (.spawned index) = some (.drains leftover.clone leftover.command) := by simp [claims, Holder.held, waiting]
  obtain ⟨d, homed, locks, isFor⟩ := excluded.good _ _ here
  have grown : claims { s with leftovers := s.leftovers.set index none } (Function.update phases task (.releasing leftover.clone)) =
      Function.update (Function.update (claims s phases) (.spawned index) none) (.task task) (some (.releases leftover.clone)) := by
    rw [claims_move]
    exact congrArg (Function.update · _ _) (Holder.held_begin ..)
  refine ⟨?_, excluded.young, fun holder claim held => ?_, fun other command found running => ?_⟩
  · have grown : clonesHeld { s with leftovers := s.leftovers.set index none } (Function.update phases task (.releasing leftover.clone)) =
        Function.update (Function.update (clonesHeld s phases) (.spawned index) none) (.task task) (some leftover.clone) := by
      rw [clonesHeld_move]
      exact congrArg (Function.update · _ _) (Holder.held_begin ..)
    rw [grown]
    exact excluded.custody.pass (by simp [clonesHeld, Holder.held, waiting]) (.inr hand)
  · rw [grown] at held
    by_cases own : holder = .task task
    · subst own
      rw [Function.update_self] at held
      cases held
      exact locks
    · rw [Function.update_of_ne own] at held
      by_cases gone : holder = .spawned index
      · subst gone
        simp at held
      · rw [Function.update_of_ne gone] at held
        exact (Frame.of_same rfl rfl rfl rfl).good (excluded.good holder claim held)
  · rw [grown]
    obtain ⟨holder, claim, held, watches⟩ := excluded.watched other command found running
    have apart : holder ≠ .task task := by
      rintro rfl
      simp [claims, Holder.held, free, Phase.claim] at held
    have old : holder ≠ .spawned index := by
      rintro rfl
      rw [here] at held
      cases held
      obtain rfl : leftover.command = other := watches
      exact finished command found running
    exact ⟨holder, claim, by rw [Function.update_of_ne apart, Function.update_of_ne old, held], watches⟩

theorem Excluded.stay (excluded : Excluded plugin s phases) (same : phases task = later) :
    Excluded plugin s (Function.update phases task later) := by
  rw [← same, Function.update_eq_self]
  exact excluded

theorem Excluded.exec_awaitMount (excluded : Excluded plugin s phases) {index : Nat} (guarding : phases task = .guarding d clone (some index)) :
    Excluded plugin ((SftpAction.awaitMount index).exec s).2 (Function.update phases task
      (.guarding d clone (if ((SftpAction.awaitMount index).exec s).1.isSome then none else some index))) := by
  have same : ((SftpAction.awaitMount index).exec s).2 = s := by
    simp only [SftpAction.exec]
    split <;> rfl
  rw [same]
  refine excluded.awaited guarding fun finished command found running => ?_
  simp only [SftpAction.exec, found] at finished
  cases command with
  | unmount mountPoint ended => cases finished
  | mount request password ended =>
    obtain rfl : ended = none := running
    cases finished

theorem Excluded.exec_awaitUnmount (excluded : Excluded plugin s phases) {index : Nat} (guarding : phases task = .guarding d clone (some index)) :
    Excluded plugin ((SftpAction.awaitUnmount index).exec s).2 (Function.update phases task
      (.guarding d clone (if ((SftpAction.awaitUnmount index).exec s).1.isSome then none else some index))) := by
  have same : ((SftpAction.awaitUnmount index).exec s).2 = s := by
    simp only [SftpAction.exec]
    split <;> rfl
  rw [same]
  refine excluded.awaited guarding fun finished command found running => ?_
  simp only [SftpAction.exec, found] at finished
  cases command with
  | mount request password ended => cases finished
  | unmount mountPoint ended =>
    obtain rfl : ended = none := running
    cases finished

theorem Excluded.exec_pollLeftover (excluded : Excluded plugin s phases) (free : phases task = .free) {index : Nat}
    (moved : shift plugin .free (.pollLeftover index) ((SftpAction.pollLeftover index).exec s).1 = some later) :
    Excluded plugin ((SftpAction.pollLeftover index).exec s).2 (Function.update phases task later) := by
  simp only [SftpAction.exec] at moved ⊢
  cases waiting : s.leftovers[index]?.join with
  | none =>
    simp only [waiting] at moved ⊢
    exact excluded.stay (free.trans (Option.some.inj moved))
  | some leftover =>
    simp only [waiting] at moved ⊢
    cases found : s.commands[leftover.command]? with
    | none =>
      simp only [found] at moved ⊢
      exact excluded.stay (free.trans (Option.some.inj moved))
    | some command =>
      simp only [found] at moved ⊢
      by_cases running : command.Running
      · simp only [running, if_true] at moved ⊢
        exact excluded.stay (free.trans (Option.some.inj moved))
      · simp only [running, if_false] at moved ⊢
        obtain rfl := Option.some.inj moved
        refine excluded.pollLeftover free waiting fun other found' => ?_
        rw [found] at found'
        cases found'
        exact running

theorem Excluded.exec_mountEnds (excluded : Excluded plugin s phases) (free : phases task = .free) {index : Nat} {result : Joined MountOutcome}
    (moved : some Phase.free = some later) :
    Excluded plugin ((SftpAction.mountEnds index result).exec s).2 (Function.update phases task later) := by
  obtain rfl := Option.some.inj moved
  simp only [SftpAction.exec]
  split
  · rename_i request password found
    exact excluded.ends free found (.mount request password (some result)) rfl nofun
  · exact excluded.stay free

theorem Excluded.exec_unmountEnds (excluded : Excluded plugin s phases) (free : phases task = .free) {index : Nat}
    {result : Joined UnmountOutcome} (moved : some Phase.free = some later) :
    Excluded plugin ((SftpAction.unmountEnds index result).exec s).2 (Function.update phases task later) := by
  obtain rfl := Option.some.inj moved
  simp only [SftpAction.exec]
  split
  · rename_i mountPoint found
    exact excluded.ends free found (.unmount mountPoint (some result)) rfl nofun
  · exact excluded.stay free

/-- Whatever a task does next, the locks keep the commands apart. -/
theorem Excluded.exec (excluded : Excluded plugin s phases) {action : SftpAction}
    (moved : move plugin (phases task) action (action.exec s).1 = some later) :
    Excluded plugin (action.exec s).2 (Function.update phases task later) := by
  unfold move at moved
  split at moved
  · rename_i silent
    obtain rfl := Option.some.inj moved
    exact excluded.silent silent
  · cases here : phases task with
    | free =>
      rw [here] at moved
      cases action with
      | mountLockFor d =>
        obtain rfl := Option.some.inj moved
        exact excluded.mountLockFor here d
      | pollLeftover index => exact excluded.exec_pollLeftover here moved
      | mountEnds index result => exact excluded.exec_mountEnds here moved
      | unmountEnds index result => exact excluded.exec_unmountEnds here moved
      | _ => cases moved
    | waiting d clone =>
      rw [here] at moved
      cases action with
      | lockOwned own =>
        obtain ⟨rfl, rfl⟩ := Pool.of_guard moved
        exact excluded.lockOwned here
      | _ => cases moved
    | guarding d clone command =>
      rw [here] at moved
      cases command with
      | none =>
        cases action with
        | spawnMount request password =>
          obtain ⟨path, rfl⟩ := Pool.of_guard moved
          exact excluded.spawnCommand here _ path
        | spawnUnmount mountPoint =>
          obtain ⟨path, rfl⟩ := Pool.of_guard moved
          exact excluded.spawnCommand here _ path
        | dropGuard own =>
          obtain ⟨rfl, rfl⟩ := Pool.of_guard moved
          refine excluded.dropGuard (by rw [here]; rfl) (excluded.guarding here).2.1 fun claim index held => ?_
          rw [here] at held
          cases held
          nofun
        | _ => cases moved
      | some index =>
        cases action with
        | awaitMount awaited =>
          obtain ⟨rfl, rfl⟩ := Pool.of_guard moved
          exact excluded.exec_awaitMount here
        | awaitUnmount awaited =>
          obtain ⟨rfl, rfl⟩ := Pool.of_guard moved
          exact excluded.exec_awaitUnmount here
        | spawnLeftover leftover =>
          obtain ⟨rfl, rfl⟩ := Pool.of_guard moved
          exact excluded.spawnLeftover here
        | _ => cases moved
    | releasing clone =>
      rw [here] at moved
      cases action with
      | dropGuard own =>
        obtain ⟨rfl, rfl⟩ := Pool.of_guard moved
        have locks : Locks s clone := excluded.good (.task task) (.releases clone) (by simp [claims, Holder.held, here, Phase.claim])
        refine excluded.dropGuard (by rw [here]; rfl) locks fun claim index held => ?_
        rw [here] at held
        cases held
        exact not_false
      | _ => cases moved

end Claims

variable (plugin : SftpPlugin)

theorem excluded_new (choices : Nat → Bool) (mounted : List String) : Excluded plugin (new choices mounted) fun _ => .free := by
  have none : clonesHeld (new choices mounted) (fun _ => .free) = fun _ => none := by
    funext holder
    cases holder <;> rfl
  have empty : {clone | ((new choices mounted).clones.lookup clone).isSome} = (∅ : Set Nat) := by
    ext clone
    simp [new]
  refine ⟨?_, by simp [new], fun holder claim held => ?_, by simp [new]⟩
  · rw [none, empty]
    exact .empty
  · cases holder <;> cases held

theorem excluded_invariant : Pool.Invariant (move plugin) .free (fun phase => phase = .free) SftpAction.exec (program plugin)
    (fun _ _ => True) fun s phases _ => Excluded plugin s phases :=
  ⟨follows_program, fun _ _ _ _ _ excluded _ _ moved => excluded.exec moved⟩

/-- The commands that are running for the device's mount point, those that timed out included. -/
def runningFor (s : SftpState) (d : DeviceId) : Set Nat :=
  {index | ∃ command, s.commands[index]? = some command ∧ command.Running ∧ command.mountPoint = mountPointFor plugin.dataDir d}

/-- At every moment of every run at most one command is running for each device's mount point. -/
theorem one_command_per_path (choices : Nat → Bool) (mounted : List String) (turns : List (Turn Call)) (k : Nat) (d : DeviceId) :
    (runningFor plugin (atTurn plugin choices mounted turns k).shared d).Subsingleton := by
  obtain ⟨phases, -, excluded⟩ := (excluded_invariant plugin).run (excluded_new plugin choices mounted) (fun _ _ _ => trivial) k
  rintro i ⟨one, first, running, path⟩ j ⟨other, second, running', path'⟩
  exact excluded.one first second running running' path path'

end Sftp

end RustConnect
