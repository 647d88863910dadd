import RustConnect.Base.Trail
import RustConnect.SftpMounts

namespace RustConnect

def Joined.isOk {α : Type} [DecidableEq α] (value : α) : Joined α → Bool
  | .returned (.ok found) => found = value
  | _ => false

namespace Sftp

open Program SftpAction

/-- What goes on in a run: the four operations on mounts, the runtime's
polls of leftover tasks, and the ends of the commands. -/
inductive MountCall
  | mountDevice (deviceId : DeviceId) (info : SftpConnectionInfo)
  | unmountDevice (deviceId : DeviceId)
  | reMountIfMounted (deviceId : DeviceId) (info : SftpConnectionInfo)
  | cleanupDevice (deviceId : DeviceId)
  | runLeftover (index : Nat)
  | mountEnds (command : Nat) (result : Joined MountOutcome)
  | unmountEnds (command : Nat) (result : Joined UnmountOutcome)

def MountCall.call : MountCall → Call
  | mountDevice d info => .mountDevice d info
  | unmountDevice d => .unmountDevice d
  | reMountIfMounted d info => .reMountIfMounted d info
  | cleanupDevice d => .cleanupDevice d
  | runLeftover index => .runLeftover index
  | mountEnds command result => .mountEnds command result
  | unmountEnds command result => .unmountEnds command result

section Stages

/-- What the holder of a device's lock knows: that the table tells the truth,
nothing, whether the path is mounted, that it is not and the table does not
say so either, or that a command of it has timed out. -/
inductive Note
  | truth
  | any
  | is (mounted : Bool)
  | clear
  | spoiled
  deriving DecidableEq

namespace Note

/-- What is known after a write to the table. -/
def write : Note → MountState → Note
  | is mounted, state => if decide (state = .mounted) = mounted then truth else any
  | clear, state => if state = .mounted then any else truth
  | spoiled, _ => spoiled
  | _, _ => any

def settled : Note → Bool
  | truth => true
  | clear => true
  | _ => false

def away : Note → Bool
  | is false => true
  | clear => true
  | _ => false

def ofMount : Joined MountOutcome → Note
  | .returned (.ok .mounted) => is true
  | _ => is false

def ofUnmount : Joined UnmountOutcome → Note
  | .returned (.ok .unmounted) => is false
  | _ => clear

end Note

inductive Stage
  | free
  | waiting (d : DeviceId) (clone : Nat)
  | guarding (d : DeviceId) (clone : Nat) (command : Option Nat) (note : Note) (cleanup : Bool)
  | cleaned (d : DeviceId) (told : Bool)
  | late (d : DeviceId)
  | releasing (clone : Nat)
  deriving DecidableEq

namespace Stage

def phase : Stage → Phase
  | guarding d clone command _ _ => .guarding d clone command
  | waiting d clone => .waiting d clone
  | releasing clone => .releasing clone
  | _ => .free

def Final : Stage → Prop
  | free => True
  | late _ => True
  | _ => False

end Stage

variable (plugin : SftpPlugin)

/-- The moves of a task that has the lock of the device. -/
def guardMove (d : DeviceId) (clone : Nat) : Option Nat → Note → Bool → (action : SftpAction) → action.Answer → Option Stage
  | none, _, cleanup, spawnMount request _, command =>
    if request.mountPoint = mountPointFor plugin.dataDir d then some (.guarding d clone (some command) .any cleanup) else none
  | none, .truth, cleanup, spawnUnmount mountPoint, command =>
    if mountPoint = mountPointFor plugin.dataDir d then some (.guarding d clone (some command) .truth cleanup) else none
  | none, .truth, false, pathExists mountPoint, found =>
    if mountPoint = mountPointFor plugin.dataDir d then
      some (.guarding d clone none (if found then .truth else .is false) true)
    else none
  | none, note, false, dropGuard own, _ => if clone = own ∧ note.settled then some .free else none
  | none, note, true, dropGuard own, _ => if clone = own ∧ note.away then some (.cleaned d false) else none
  | some command, .any, cleanup, awaitMount awaited, ended =>
    if command = awaited then
      some (match ended with
        | some result => .guarding d clone none (.ofMount result) cleanup
        | none => .guarding d clone (some command) .spoiled cleanup)
    else none
  | some command, .truth, cleanup, awaitUnmount awaited, ended =>
    if command = awaited then
      some (match ended with
        | some result => .guarding d clone none (.ofUnmount result) cleanup
        | none => .guarding d clone (some command) .spoiled cleanup)
    else none
  | some command, .spoiled, _, spawnLeftover leftover, _ => if leftover = ⟨clone, command⟩ then some (.late d) else none
  | none, note, cleanup, setMountState other state, _ =>
    if d = other then some (.guarding d clone none (note.write state) cleanup) else none
  | some command, .spoiled, cleanup, setMountState other _, _ =>
    if d = other then some (.guarding d clone (some command) .spoiled cleanup) else none
  | command, note, cleanup, getMountState _, _ => some (.guarding d clone command note cleanup)
  | command, note, cleanup, getConnection _, _ => some (.guarding d clone command note cleanup)
  | none, note, cleanup, removeConnection other, _ => if d = other then some (.guarding d clone none note cleanup) else none
  | command, note, cleanup, broadcast _, _ => some (.guarding d clone command note cleanup)
  | _, _, _, _, _ => none

/-- The moves between the stages of the operations on mounts. -/
def advance : Stage → (action : SftpAction) → action.Answer → Option Stage
  | .free, mountLockFor d, clone => some (.waiting d clone)
  | .free, pollLeftover _, some leftover => some (.releasing leftover.clone)
  | .free, pollLeftover _, none => some .free
  | .free, mountEnds _ _, _ => some .free
  | .free, unmountEnds _ _, _ => some .free
  | .waiting d clone, lockOwned own, acquired =>
    if clone = own then some (if acquired then .guarding d clone none .truth false else .late d) else none
  | .guarding d clone command note cleanup, action, answer => guardMove plugin d clone command note cleanup action answer
  | .cleaned d false, setMountState other .unmounted, _ => if d = other then some (.cleaned d true) else none
  | .cleaned d true, removeConnection other, _ => if d = other then some .free else none
  | .late d, setMountState other _, _ => if d = other then some (.late d) else none
  | .late d, removeConnection other, _ => if d = other then some (.late d) else none
  | .late d, getConnection _, _ => some (.late d)
  | .late d, broadcast _, _ => some (.late d)
  | .releasing clone, dropGuard own, _ => if clone = own then some .free else none
  | _, _, _ => none

variable {plugin} {d : DeviceId} {clone : Nat} {note : Note} {cleanup : Bool}

theorem advance_acquire {Q : Stage → Except String Nat → Prop} (got : ∀ clone, Q (.guarding d clone none .truth false) (.ok clone))
    (busy : ∀ msg, Q (.late d) (.error msg)) : Follows (advance plugin) .free (acquireMountLock plugin d) Q := by
  refine fun clone => ⟨.waiting d clone, rfl, fun acquired => ⟨_, if_pos rfl, ?_⟩⟩
  cases acquired with
  | true => exact got clone
  | false => exact busy _

theorem advance_unmount {Q : Stage → Waited UnmountOutcome → Prop}
    (ended : ∀ result, Q (.guarding d clone none (.ofUnmount result) cleanup) (joined "unmount" result, none))
    (slow : ∀ msg command, Q (.guarding d clone (some command) .spoiled cleanup) (.ok (.failed msg), some command)) :
    Follows (advance plugin) (.guarding d clone none .truth cleanup)
      (unmountViaMounterTracked plugin (mountPointFor plugin.dataDir d)) Q := by
  refine fun join => ⟨.guarding d clone (some join) .truth cleanup, if_pos rfl, fun finished => ⟨_, if_pos rfl, ?_⟩⟩
  cases finished with
  | some result => exact ended result
  | none => exact slow _ join

theorem advance_write {state : MountState} {Q : Stage → Unit → Prop} (rest : Q (.guarding d clone none (note.write state) cleanup) ()) :
    Follows (advance plugin) (.guarding d clone none note cleanup) (perform (setMountState d state)) Q :=
  fun _ => ⟨_, by cases note <;> cases cleanup <;> exact if_pos rfl, rest⟩

/-- The action reads the tables or tells the clients. -/
def Reads : SftpAction → Bool
  | getMountState _ => true
  | getConnection _ => true
  | broadcast _ => true
  | _ => false

theorem guardMove_reads {command : Option Nat} {action : SftpAction} (reads : Reads action = true) (answer : action.Answer) :
    guardMove plugin d clone command note cleanup action answer = some (.guarding d clone command note cleanup) := by
  cases action with
  | getMountState other => cases command <;> cases note <;> cases cleanup <;> rfl
  | getConnection other => cases command <;> cases note <;> cases cleanup <;> rfl
  | broadcast update => cases command <;> cases note <;> cases cleanup <;> rfl
  | _ => cases reads

theorem advance_reads {command : Option Nat} {action : SftpAction} (reads : Reads action = true) {Q : Stage → action.Answer → Prop}
    (rest : ∀ answer, Q (.guarding d clone command note cleanup) answer) :
    Follows (advance plugin) (.guarding d clone command note cleanup) (perform action) Q :=
  fun answer => ⟨_, guardMove_reads reads answer, rest answer⟩

theorem advance_drop {Q : Stage → Unit → Prop} (settled : note.settled = true) (rest : Q .free ()) :
    Follows (advance plugin) (.guarding d clone none note false) (perform (dropGuard clone)) Q :=
  fun _ => ⟨.free, if_pos ⟨rfl, settled⟩, rest⟩

theorem advance_hand {command : Nat} {Q : Stage → Unit → Prop} (rest : Q (.late d) ()) :
    Follows (advance plugin) (.guarding d clone (some command) .spoiled cleanup) (perform (spawnLeftover ⟨clone, command⟩)) Q :=
  fun _ => ⟨.late d, if_pos rfl, rest⟩

theorem advance_late_write {state : MountState} {Q : Stage → Unit → Prop} (rest : Q (.late d) ()) :
    Follows (advance plugin) (.late d) (perform (setMountState d state)) Q := fun _ => ⟨_, if_pos rfl, rest⟩

theorem advance_mountDeviceLocked {info : SftpConnectionInfo} {Q : Stage → Waited MountStatus → Prop}
    (ended : ∀ status, Q (.guarding d clone none .truth false) (status, none))
    (slow : ∀ status command, Q (.guarding d clone (some command) .spoiled false) (status, some command)) :
    Follows (advance plugin) (.guarding d clone none note false) (mountDeviceLocked plugin d info) Q := by
  refine (follows_bind _ _ _).mpr (advance_write ?_)
  refine (follows_bind _ _ _).mpr fun join => ⟨.guarding d clone (some join) .any false, ?_, fun finished => ⟨_, if_pos rfl, ?_⟩⟩
  · cases note.write .mounting <;> exact if_pos rfl
  · have tells {state : MountState} {known : Note} (told : known.write state = .truth) {status : Except Error MountStatus} :
        Follows (advance plugin) (.guarding d clone none known false) (do
          perform (setMountState d state)
          broadcastUpdate d info state (some (mountPointFor plugin.dataDir d))
          return (status, none)) Q := by
      refine (follows_bind _ _ _).mpr (advance_write ?_)
      rw [told]
      exact (follows_bind _ _ _).mpr (advance_reads rfl fun _ => ended status)
    rcases finished with _ | ((e | (_ | msg)) | message)
    · refine (follows_bind _ _ _).mpr fun _ => ⟨.guarding d clone (some join) .spoiled false, if_pos rfl, ?_⟩
      exact (follows_bind _ _ _).mpr (advance_reads rfl fun _ => slow _ join)
    · exact tells rfl
    · exact tells rfl
    · exact tells rfl
    · exact tells rfl

theorem advance_mountDevice (info : SftpConnectionInfo) :
    Follows (advance plugin) .free (mountDevice plugin d info) fun later _ => later.Final := by
  refine (follows_bind _ _ _).mpr (advance_acquire (fun clone => ?_) fun msg => ?_)
  · refine (follows_bind _ _ _).mpr (advance_mountDeviceLocked (fun status => ?_) fun status command => ?_)
    · exact (follows_bind _ _ _).mpr (advance_drop rfl trivial)
    · exact (follows_bind _ _ _).mpr (advance_hand trivial)
  · refine (follows_bind _ _ _).mpr ((follows_bind _ _ _).mpr (advance_late_write ?_))
    exact fun _ => ⟨.late d, rfl, trivial⟩

theorem advance_unmountDevice : Follows (advance plugin) .free (unmountDevice plugin d) fun later _ => later.Final := by
  refine (follows_bind _ _ _).mpr (advance_acquire (fun clone => ?_) fun msg => ?_)
  · refine (follows_bind _ _ _).mpr (advance_unmount (fun result => ?_) fun msg command => ?_)
    · rcases result with (e | (_ | msg)) | message
      · exact (follows_bind _ _ _).mpr (advance_drop rfl trivial)
      · refine (follows_bind _ _ _).mpr (advance_write ?_)
        refine (follows_bind _ _ _).mpr fun _ => ⟨_, if_pos rfl, ?_⟩
        refine (follows_bind _ _ _).mpr (advance_reads rfl fun info => ?_)
        cases info with
        | some info => exact (follows_bind _ _ _).mpr (advance_reads rfl fun _ => (follows_bind _ _ _).mpr (advance_drop rfl trivial))
        | none => exact (follows_bind _ _ _).mpr (advance_drop rfl trivial)
      · refine (follows_bind _ _ _).mpr (advance_write ((follows_bind _ _ _).mpr (advance_reads rfl fun info => ?_)))
        cases info with
        | some info => exact (follows_bind _ _ _).mpr (advance_reads rfl fun _ => (follows_bind _ _ _).mpr (advance_drop rfl trivial))
        | none => exact (follows_bind _ _ _).mpr (advance_drop rfl trivial)
      · exact (follows_bind _ _ _).mpr (advance_drop rfl trivial)
    · refine (follows_bind _ _ _).mpr fun _ => ⟨.guarding d clone (some command) .spoiled false, if_pos rfl, ?_⟩
      refine (follows_bind _ _ _).mpr (advance_reads rfl fun info => ?_)
      cases info with
      | some info => exact (follows_bind _ _ _).mpr (advance_reads rfl fun _ => (follows_bind _ _ _).mpr (advance_hand trivial))
      | none => exact (follows_bind _ _ _).mpr (advance_hand trivial)
  · refine (follows_bind _ _ _).mpr (advance_late_write ?_)
    refine (follows_bind _ _ _).mpr fun info => ⟨.late d, rfl, ?_⟩
    cases info with
    | some info => exact fun _ => ⟨.late d, rfl, trivial⟩
    | none => trivial

theorem advance_getMountStatus {Q : Stage → MountStatus → Prop} (rest : ∀ status, Q (.guarding d clone none .truth false) status) :
    Follows (advance plugin) (.guarding d clone none .truth false) (getMountStatus plugin d) Q := by
  refine (follows_bind _ _ _).mpr (advance_reads rfl fun state => ?_)
  rcases state with _ | (_ | _ | _ | _)
  all_goals exact rest _

theorem advance_reMountIfMounted (info : SftpConnectionInfo) :
    Follows (advance plugin) .free (reMountIfMounted plugin d info) fun later _ => later.Final := by
  refine (follows_bind _ _ _).mpr (advance_acquire (fun clone => ?_) fun msg => ?_)
  · refine (follows_bind _ _ _).mpr (advance_getMountStatus fun status => ?_)
    refine (follows_ite _ _ _ _).mpr ⟨fun _ => ?_, fun _ => ?_⟩
    · refine (follows_bind _ _ _).mpr (advance_getMountStatus fun _ => ?_)
      exact (follows_bind _ _ _).mpr (advance_drop rfl trivial)
    · refine (follows_bind _ _ _).mpr (advance_unmount (fun result => ?_) fun msg command => ?_)
      · refine (follows_bind _ _ _).mpr (advance_mountDeviceLocked (fun status => ?_) fun status command => ?_)
        · exact (follows_bind _ _ _).mpr (advance_drop rfl trivial)
        · exact (follows_bind _ _ _).mpr (advance_hand trivial)
      · refine (follows_bind _ _ _).mpr fun _ => ⟨.guarding d clone (some command) .spoiled false, if_pos rfl, ?_⟩
        refine (follows_bind _ _ _).mpr (advance_reads rfl fun _ => ?_)
        exact (follows_bind _ _ _).mpr (advance_hand trivial)
  · refine (follows_bind _ _ _).mpr ((follows_bind _ _ _).mpr (advance_late_write ?_))
    exact fun _ => ⟨.late d, rfl, trivial⟩

theorem advance_cleanupDevice : Follows (advance plugin) .free (cleanupDevice plugin d) fun later _ => later.Final := by
  have tooLate : Follows (advance plugin) (.late d) (do perform (setMountState d .unmounted); perform (removeConnection d))
      fun later _ => later.Final :=
    (follows_bind _ _ _).mpr (advance_late_write fun _ => ⟨.late d, if_pos rfl, trivial⟩)
  have ends : Follows (advance plugin) (.cleaned d false) (do perform (setMountState d .unmounted); perform (removeConnection d))
      fun later _ => later.Final :=
    fun _ => ⟨.cleaned d true, if_pos rfl, fun _ => ⟨.free, if_pos rfl, trivial⟩⟩
  refine (follows_bind _ _ _).mpr (advance_acquire (fun clone => ?_) fun msg => tooLate)
  refine (follows_bind _ _ _).mpr fun found => ⟨_, if_pos rfl, ?_⟩
  cases found with
  | true =>
    refine (follows_bind _ _ _).mpr (advance_unmount (fun result => ?_) fun msg command => ?_)
    · have away : (Note.ofUnmount result).away = true := by rcases result with (e | (_ | msg)) | message <;> rfl
      exact (follows_bind _ _ _).mpr fun _ => ⟨.cleaned d false, if_pos ⟨rfl, away⟩, ends⟩
    · exact (follows_bind _ _ _).mpr (advance_hand tooLate)
  | false => exact (follows_bind _ _ _).mpr fun _ => ⟨.cleaned d false, if_pos ⟨rfl, rfl⟩, ends⟩

/-- Where a task with the lock of the device comes to. -/
theorem guardMove_later {command : Option Nat} {action : SftpAction} {answer : action.Answer} {later : Stage}
    (moved : guardMove plugin d clone command note cleanup action answer = some later) :
    later = .free ∨ later = .late d ∨ later = .cleaned d false ∨
      ∃ command note cleanup, later = .guarding d clone command note cleanup := by
  unfold guardMove at moved
  split at moved
  · exact .inr (.inr (.inr ⟨_, _, _, (Pool.of_guard moved).2.symm⟩))
  · exact .inr (.inr (.inr ⟨_, _, _, (Pool.of_guard moved).2.symm⟩))
  · exact .inr (.inr (.inr ⟨_, _, _, (Pool.of_guard moved).2.symm⟩))
  · exact .inl (Pool.of_guard moved).2.symm
  · exact .inr (.inr (.inl (Pool.of_guard moved).2.symm))
  · obtain ⟨-, rfl⟩ := Pool.of_guard moved
    split <;> exact .inr (.inr (.inr ⟨_, _, _, rfl⟩))
  · obtain ⟨-, rfl⟩ := Pool.of_guard moved
    split <;> exact .inr (.inr (.inr ⟨_, _, _, rfl⟩))
  · exact .inr (.inl (Pool.of_guard moved).2.symm)
  · exact .inr (.inr (.inr ⟨_, _, _, (Pool.of_guard moved).2.symm⟩))
  · exact .inr (.inr (.inr ⟨_, _, _, (Pool.of_guard moved).2.symm⟩))
  · exact .inr (.inr (.inr ⟨_, _, _, (Option.some.inj moved).symm⟩))
  · exact .inr (.inr (.inr ⟨_, _, _, (Option.some.inj moved).symm⟩))
  · exact .inr (.inr (.inr ⟨_, _, _, (Pool.of_guard moved).2.symm⟩))
  · exact .inr (.inr (.inr ⟨_, _, _, (Option.some.inj moved).symm⟩))
  · cases moved

theorem advance_program (call : MountCall) :
    Follows (advance plugin) .free (program plugin call.call) fun later _ => later.Final := by
  cases call with
  | mountDevice d info => exact (follows_map _ _ _).mpr (advance_mountDevice info)
  | unmountDevice d => exact (follows_map _ _ _).mpr advance_unmountDevice
  | reMountIfMounted d info => exact (follows_map _ _ _).mpr (advance_reMountIfMounted info)
  | cleanupDevice d => exact advance_cleanupDevice
  | runLeftover index =>
    intro polled
    cases polled with
    | some leftover => exact ⟨.releasing leftover.clone, rfl, fun _ => ⟨.free, if_pos rfl, trivial⟩⟩
    | none => exact ⟨.free, rfl, trivial⟩
  | mountEnds command result => exact fun _ => ⟨.free, rfl, trivial⟩
  | unmountEnds command result => exact fun _ => ⟨.free, rfl, trivial⟩

theorem guardMove_phase {command : Option Nat} {action : SftpAction} {answer : action.Answer} {later : Stage}
    (moved : guardMove plugin d clone command note cleanup action answer = some later) :
    move plugin (.guarding d clone command) action answer = some later.phase := by
  unfold guardMove at moved
  split at moved
  · obtain ⟨path, rfl⟩ := Pool.of_guard moved
    exact if_pos path
  · obtain ⟨path, rfl⟩ := Pool.of_guard moved
    exact if_pos path
  · obtain ⟨-, rfl⟩ := Pool.of_guard moved
    rfl
  · obtain ⟨⟨own, -⟩, rfl⟩ := Pool.of_guard moved
    exact if_pos own
  · obtain ⟨⟨own, -⟩, rfl⟩ := Pool.of_guard moved
    exact if_pos own
  · obtain ⟨same, rfl⟩ := Pool.of_guard moved
    rename_i ended
    refine (if_pos same).trans ?_
    cases ended <;> rfl
  · obtain ⟨same, rfl⟩ := Pool.of_guard moved
    rename_i ended
    refine (if_pos same).trans ?_
    cases ended <;> rfl
  · obtain ⟨own, rfl⟩ := Pool.of_guard moved
    exact if_pos own
  · obtain ⟨-, rfl⟩ := Pool.of_guard moved
    rfl
  · obtain ⟨-, rfl⟩ := Pool.of_guard moved
    rfl
  · cases moved; rfl
  · cases moved; rfl
  · obtain ⟨-, rfl⟩ := Pool.of_guard moved
    rfl
  · cases moved; rfl
  · cases moved

/-- The stages are a finer account of the phases. -/
theorem advance_phase {stage later : Stage} {action : SftpAction} {answer : action.Answer}
    (moved : advance plugin stage action answer = some later) : move plugin stage.phase action answer = some later.phase := by
  unfold advance at moved
  split at moved
  · cases moved; rfl
  · cases moved; rfl
  · cases moved; rfl
  · cases moved; rfl
  · cases moved; rfl
  · obtain ⟨guard, rfl⟩ := Pool.of_guard moved
    rename_i acquired
    refine (if_pos guard).trans ?_
    cases acquired <;> rfl
  · exact guardMove_phase moved
  · obtain ⟨-, rfl⟩ := Pool.of_guard moved
    rfl
  · obtain ⟨-, rfl⟩ := Pool.of_guard moved
    rfl
  · obtain ⟨-, rfl⟩ := Pool.of_guard moved
    rfl
  · obtain ⟨-, rfl⟩ := Pool.of_guard moved
    rfl
  · cases moved; rfl
  · cases moved; rfl
  · obtain ⟨guard, rfl⟩ := Pool.of_guard moved
    exact if_pos guard
  · cases moved

end Stages

section Truth

variable (plugin : SftpPlugin) (d : DeviceId) (s s' : SftpState)

def IsMounted : Prop := mountPointFor plugin.dataDir d ∈ s.mounted

def SaysMounted : Prop := s.mounts.lookup d = some .mounted

def Agrees : Prop := SaysMounted d s ↔ IsMounted plugin d s

def Known : Note → Prop
  | .truth => Agrees plugin d s
  | .any => True
  | .is mounted => IsMounted plugin d s ↔ mounted = true
  | .clear => ¬ IsMounted plugin d s ∧ ¬ SaysMounted d s
  | .spoiled => False

/-- What the holder of the device's lock knows, and what its command has made of it when that has ended. -/
def Expects : Option Nat → Note → Prop
  | none, note => Known plugin d s note
  | some index, .truth => ∃ ended : Option (Joined UnmountOutcome),
    s.commands[index]? = some (.unmount (mountPointFor plugin.dataDir d) ended) ∧ Known plugin d s (ended.elim .truth .ofUnmount)
  | some index, .any => ∃ request password, ∃ ended : Option (Joined MountOutcome),
    s.commands[index]? = some (.mount request password ended) ∧ request.mountPoint = mountPointFor plugin.dataDir d ∧
      Known plugin d s (ended.elim .any .ofMount)
  | _, _ => False

namespace Stage

def Guards : Stage → Prop
  | guarding other _ _ _ _ => other = d
  | _ => False

def Holds : Stage → Prop
  | guarding other _ _ _ _ => other = d
  | cleaned other _ => other = d
  | _ => False

def Says : Stage → Prop
  | guarding other _ command note _ => other = d → Expects plugin d s command note
  | cleaned other told => other = d → ¬ IsMounted plugin d s ∧ (told = true → ¬ SaysMounted d s)
  | late other => other ≠ d
  | _ => True

end Stage

/-- While nobody holds the device's lock, and no cleanup that has given it
up has yet to write the table, the table tells the truth; else it is as
the one who will make it so expects. -/
structure Told (stages : Nat → Stage) : Prop where
  excluded : Excluded plugin s fun task => (stages task).phase
  words : ∀ task, (stages task).Says plugin d s
  rest : (∀ task, ¬ (stages task).Holds d) → Agrees plugin d s
  alone : ∀ task other told, (stages task).Guards d → stages other ≠ .cleaned d told
  leftovers : ∀ (index : Nat) leftover, s.leftovers[index]?.join = some leftover →
    ∃ other, other ≠ d ∧ IsFor plugin s other leftover.command

/-- Nothing has changed that the truth about the device depends on. -/
structure Same : Prop where
  table : s'.mounts.lookup d = s.mounts.lookup d
  path : IsMounted plugin d s' ↔ IsMounted plugin d s
  commands : ∀ (index : Nat) command, s.commands[index]? = some command → command.mountPoint = mountPointFor plugin.dataDir d →
    s'.commands[index]? = some command

variable {plugin d s s'}

theorem Same.agrees (same : Same plugin d s s') : Agrees plugin d s' ↔ Agrees plugin d s := by
  simp only [Agrees, SaysMounted, same.table, same.path]

theorem Same.known (same : Same plugin d s s') {note : Note} (known : Known plugin d s note) : Known plugin d s' note := by
  cases note with
  | truth => exact same.agrees.mpr known
  | any => trivial
  | is mounted => exact same.path.trans known
  | clear => exact ⟨fun mounted => known.1 (same.path.mp mounted), fun told => known.2 (same.table.symm.trans told)⟩
  | spoiled => exact known

theorem Same.expects (same : Same plugin d s s') {command : Option Nat} {note : Note} (expects : Expects plugin d s command note) :
    Expects plugin d s' command note := by
  cases command with
  | none => exact same.known expects
  | some index =>
    cases note with
    | truth =>
      obtain ⟨ended, found, known⟩ := expects
      exact ⟨ended, same.commands index _ found rfl, same.known known⟩
    | any =>
      obtain ⟨request, password, ended, found, path, known⟩ := expects
      exact ⟨request, password, ended, same.commands index _ found path, path, same.known known⟩
    | is mounted => exact expects
    | clear => exact expects
    | spoiled => exact expects

theorem Same.word (same : Same plugin d s s') {stage : Stage} (word : stage.Says plugin d s) : stage.Says plugin d s' := by
  cases stage with
  | guarding other clone command note cleanup => exact fun own => same.expects (word own)
  | cleaned other told =>
    intro own
    obtain ⟨away, table⟩ := word own
    exact ⟨fun mounted => away (same.path.mp mounted), fun written told => table written (same.table.symm.trans told)⟩
  | late other => exact word
  | free => trivial
  | waiting other clone => trivial
  | releasing clone => trivial

theorem Stage.word_apart {stage : Stage} (apart : ¬ stage.Holds d) (word : stage.Says plugin d s) : stage.Says plugin d s' := by
  cases stage with
  | guarding other clone command note cleanup => exact fun own => absurd own apart
  | cleaned other told => exact fun own => absurd own apart
  | late other => exact word
  | free => trivial
  | waiting other clone => trivial
  | releasing clone => trivial

/-- The device's lock has one guard. -/
theorem Excluded.oneGuard {phases : Nat → Phase} (excluded : Excluded plugin s phases) {task other clone clone' : Nat}
    {command command' : Option Nat} (first : phases task = .guarding d clone command)
    (second : phases other = .guarding d clone' command') : task = other := by
  obtain ⟨⟨lock, own, mapped⟩, ⟨lock₁, own₁, guard⟩, -⟩ := excluded.guarding first
  obtain ⟨⟨lock', own', mapped'⟩, ⟨lock₂, own₂, guard'⟩, -⟩ := excluded.guarding second
  have sameLock : lock = lock' := Option.some.inj (mapped.symm.trans mapped')
  have sameLock₁ : lock₁ = lock := Option.some.inj (own₁.symm.trans own)
  have sameLock₂ : lock₂ = lock' := Option.some.inj (own₂.symm.trans own')
  subst sameLock sameLock₁ sameLock₂
  have sameClone : clone = clone' := Option.some.inj (guard.symm.trans guard')
  have hand {task clone : Nat} {command : Option Nat} (guarding : phases task = .guarding d clone command) :
      clonesHeld s phases (.task task) = some clone := by
    simp [clonesHeld, Holder.held, guarding, Phase.claim, Claim.clone]
  have sameHolder := excluded.custody.exclusive (.task task) (.task other) clone (hand first) (sameClone ▸ hand second)
  cases sameHolder
  rfl

variable {stages : Nat → Stage} {task : Nat} {later : Stage}

theorem phase_update (stages : Nat → Stage) (task : Nat) (later : Stage) :
    (fun other => (Function.update stages task later other).phase) =
      Function.update (fun other => (stages other).phase) task later.phase := by
  funext other
  by_cases here : other = task
  · subst here
    simp
  · simp [Function.update_of_ne here]

/-- The commands keep their places and their paths. -/
theorem exec_commands (action : SftpAction) {index : Nat} {command : MountCommand} (found : s.commands[index]? = some command) :
    ∃ now, (action.exec s).2.commands[index]? = some now ∧ now.mountPoint = command.mountPoint := by
  have appended (new : MountCommand) : (s.commands ++ [new])[index]? = some command :=
    (List.getElem?_append_left (List.getElem?_eq_some_iff.mp found).1).trans found
  have replaced {other : Nat} {before finished : MountCommand} (there : s.commands[other]? = some before)
      (path : finished.mountPoint = before.mountPoint) :
      ∃ now, (s.commands.set other finished)[index]? = some now ∧ now.mountPoint = command.mountPoint := by
    by_cases same : other = index
    · subst same
      obtain rfl : before = command := Option.some.inj (there.symm.trans found)
      exact ⟨finished, List.getElem?_set_self (List.getElem?_eq_some_iff.mp there).1, path⟩
    · exact ⟨command, (List.getElem?_set_ne same).trans found, rfl⟩
  cases action with
  | mountLockFor other =>
    obtain ⟨lock, -, -, -, -, -, commands, -⟩ := lookUpLock_spec other s
    exact ⟨command, (congrArg (·[index]?) commands).trans found, rfl⟩
  | lockOwned clone =>
    refine ⟨command, ?_, rfl⟩
    simp only [SftpAction.exec, acquire]
    split
    · split <;> exact found
    · exact found
  | dropGuard clone =>
    refine ⟨command, ?_, rfl⟩
    simp only [SftpAction.exec, release]
    split <;> exact found
  | spawnMount request password => exact ⟨command, appended _, rfl⟩
  | spawnUnmount mountPoint => exact ⟨command, appended _, rfl⟩
  | awaitMount awaited =>
    refine ⟨command, ?_, rfl⟩
    simp only [SftpAction.exec]
    split <;> exact found
  | awaitUnmount awaited =>
    refine ⟨command, ?_, rfl⟩
    simp only [SftpAction.exec]
    split <;> exact found
  | pollLeftover polled =>
    refine ⟨command, ?_, rfl⟩
    simp only [SftpAction.exec]
    repeat' split
    all_goals exact found
  | mountEnds ended result =>
    simp only [SftpAction.exec]
    split
    · rename_i there
      exact replaced there rfl
    · exact ⟨command, found, rfl⟩
  | unmountEnds ended result =>
    simp only [SftpAction.exec]
    split
    · rename_i there
      exact replaced there rfl
    · exact ⟨command, found, rfl⟩
  | setGeneration other generation => cases generation <;> exact ⟨command, found, rfl⟩
  | _ => exact ⟨command, found, rfl⟩

/-- A leftover task is there because it has just been spawned, or was there before. -/
theorem exec_leftovers (action : SftpAction) {index : Nat} {leftover : Leftover}
    (there : (action.exec s).2.leftovers[index]?.join = some leftover) :
    s.leftovers[index]?.join = some leftover ∨ action = .spawnLeftover leftover := by
  cases action with
  | mountLockFor other =>
    obtain ⟨lock, -, -, -, -, -, -, leftovers, -⟩ := lookUpLock_spec other s
    exact .inl ((congrArg (·[index]?.join) leftovers).symm.trans there)
  | lockOwned clone =>
    simp only [SftpAction.exec, acquire] at there
    split at there
    · split at there <;> exact .inl there
    · exact .inl there
  | dropGuard clone =>
    simp only [SftpAction.exec, release] at there
    split at there <;> exact .inl there
  | awaitMount awaited =>
    simp only [SftpAction.exec] at there
    split at there <;> exact .inl there
  | awaitUnmount awaited =>
    simp only [SftpAction.exec] at there
    split at there <;> exact .inl there
  | spawnLeftover new =>
    rcases Nat.lt_trichotomy index s.leftovers.length with old | same | beyond
    · exact .inl (by simpa [SftpAction.exec, List.getElem?_append_left old] using there)
    · subst same
      obtain rfl : new = leftover := by simpa [SftpAction.exec] using there
      exact .inr rfl
    · have absent : (s.leftovers ++ [some new])[index]? = none := by
        rw [List.getElem?_eq_none_iff, List.length_append, List.length_singleton]
        omega
      simp [SftpAction.exec, absent] at there
  | pollLeftover polled =>
    left
    simp only [SftpAction.exec] at there
    split at there
    · split at there
      · split at there
        · exact there
        · by_cases same : polled = index
          · subst same
            rcases Nat.lt_or_ge polled s.leftovers.length with inside | outside
            · simp [inside] at there
            · simp [outside] at there
          · simpa only [List.getElem?_set_ne same] using there
      · exact there
    · exact there
  | mountEnds ended result =>
    simp only [SftpAction.exec] at there
    split at there <;> exact .inl there
  | unmountEnds ended result =>
    simp only [SftpAction.exec] at there
    split at there <;> exact .inl there
  | setGeneration other generation => cases generation <;> exact .inl there
  | _ => exact .inl there

variable (plugin d s) in
/-- The action writes the device's entry of the table, or ends a command for its path. -/
def Touches : SftpAction → Prop
  | setMountState other _ => other = d
  | mountEnds index _ => IsFor plugin s d index
  | unmountEnds index _ => IsFor plugin s d index
  | _ => False

theorem Same.of_eq (table : s'.mounts = s.mounts) (mounted : s'.mounted = s.mounted) (commands : s'.commands = s.commands) :
    Same plugin d s s' where
  table := by rw [table]
  path := by simp only [IsMounted, mounted]
  commands index command found _ := by rw [commands, found]

/-- Another command that ends does not matter. -/
theorem Same.ended {index : Nat} {before finished : MountCommand} {mounted : List String} (there : s.commands[index]? = some before)
    (apart : before.mountPoint ≠ mountPointFor plugin.dataDir d)
    (path : mountPointFor plugin.dataDir d ∈ mounted ↔ mountPointFor plugin.dataDir d ∈ s.mounted) :
    Same plugin d s { s.setEnded index finished with mounted := mounted } where
  table := rfl
  path := path
  commands other command found own := by
    have differ : index ≠ other := by
      rintro rfl
      rw [there] at found
      cases found
      exact apart own
    exact (List.getElem?_set_ne differ).trans found

theorem exec_same {action : SftpAction} (apart : ¬ Touches plugin d s action) : Same plugin d s (action.exec s).2 := by
  have appended (new : MountCommand) : Same plugin d s { s with commands := s.commands ++ [new] } :=
    ⟨rfl, Iff.rfl, fun index command found _ => (List.getElem?_append_left (List.getElem?_eq_some_iff.mp found).1).trans found⟩
  cases action with
  | mountLockFor other =>
    simp only [SftpAction.exec, lookUpLock]
    split <;> exact .of_eq rfl rfl rfl
  | lockOwned clone =>
    simp only [SftpAction.exec, acquire]
    split
    · split <;> exact .of_eq rfl rfl rfl
    · exact .of_eq rfl rfl rfl
  | dropGuard clone =>
    simp only [SftpAction.exec, release]
    split <;> exact .of_eq rfl rfl rfl
  | spawnMount request password => exact appended _
  | spawnUnmount mountPoint => exact appended _
  | awaitMount awaited =>
    simp only [SftpAction.exec]
    split <;> exact .of_eq rfl rfl rfl
  | awaitUnmount awaited =>
    simp only [SftpAction.exec]
    split <;> exact .of_eq rfl rfl rfl
  | pollLeftover polled =>
    simp only [SftpAction.exec]
    repeat' split
    all_goals exact .of_eq rfl rfl rfl
  | mountEnds index result =>
    simp only [SftpAction.exec]
    split
    · rename_i request password there
      have other : request.mountPoint ≠ mountPointFor plugin.dataDir d := fun path => apart ⟨_, there, path⟩
      refine .ended there other ?_
      split
      · simp [Ne.symm other]
      · rfl
    · exact .of_eq rfl rfl rfl
  | unmountEnds index result =>
    simp only [SftpAction.exec]
    split
    · rename_i mountPoint there
      have other : mountPoint ≠ mountPointFor plugin.dataDir d := fun path => apart ⟨_, there, path⟩
      refine .ended there other ?_
      split
      · simp [Ne.symm other]
      · rfl
    · exact .of_eq rfl rfl rfl
  | setMountState other state => exact ⟨by simp [SftpAction.exec, AList.lookup_insert_ne (Ne.symm apart)], Iff.rfl, fun _ _ found _ => found⟩
  | setGeneration other generation => cases generation <;> exact .of_eq rfl rfl rfl
  | _ => exact .of_eq rfl rfl rfl

theorem Told.frame (told : Told plugin d s stages) {action : SftpAction}
    (spawns : ∀ leftover, action = .spawnLeftover leftover → ∃ other, other ≠ d ∧ IsFor plugin s other leftover.command)
    {index : Nat} {leftover : Leftover} (there : (action.exec s).2.leftovers[index]?.join = some leftover) :
    ∃ other, other ≠ d ∧ IsFor plugin (action.exec s).2 other leftover.command := by
  have known : ∃ other, other ≠ d ∧ IsFor plugin s other leftover.command := by
    rcases exec_leftovers action there with old | new
    · exact told.leftovers index leftover old
    · exact spawns leftover new
  obtain ⟨other, apart, command, found, path⟩ := known
  obtain ⟨now, found', same⟩ := exec_commands action found
  exact ⟨other, apart, now, found', same.trans path⟩

theorem Stage.holds_of_guards {stage : Stage} (guards : stage.Guards d) : stage.Holds d := by
  cases stage with
  | guarding other clone command note cleanup => exact guards
  | _ => exact absurd guards not_false

/-- While one task has the device's lock nobody else has to do with its entry. -/
theorem Told.others (told : Told plugin d s stages) (guards : (stages task).Guards d) {other : Nat} (apart : other ≠ task) :
    ¬ (stages other).Holds d := by
  intro holds
  cases here : stages task with
  | guarding device clone command note cleanup =>
    rw [here] at guards
    obtain rfl : device = d := guards
    cases there : stages other with
    | guarding device' clone' command' note' cleanup' =>
      rw [there] at holds
      obtain rfl : device' = device := holds
      have first : (stages other).phase = .guarding device' clone' command' := by rw [there]; rfl
      have second : (stages task).phase = .guarding device' clone command := by rw [here]; rfl
      exact apart (told.excluded.oneGuard first second)
    | cleaned device' written =>
      rw [there] at holds
      obtain rfl : device' = device := holds
      exact told.alone task other written (by rw [here]; rfl) there
    | _ =>
      rw [there] at holds
      exact holds
  | _ =>
    rw [here] at guards
    exact guards

theorem Stage.guards_or_cleaned {stage : Stage} (holds : stage.Holds d) : stage.Guards d ∨ ∃ written, stage = .cleaned d written := by
  cases stage with
  | guarding other clone command note cleanup => exact .inl holds
  | cleaned other written =>
    obtain rfl : other = d := holds
    exact .inr ⟨written, rfl⟩
  | _ => exact absurd holds not_false

section Steps

variable {action : SftpAction}
  (excluded : Excluded plugin (action.exec s).2 fun other => (Function.update stages task later other).phase)
  (leftovers : ∀ (index : Nat) leftover, (action.exec s).2.leftovers[index]?.join = some leftover →
    ∃ other, other ≠ d ∧ IsFor plugin (action.exec s).2 other leftover.command)

include excluded leftovers

/-- A step of a task that has nothing to do with the device's entry. -/
theorem Told.aside (told : Told plugin d s stages) (same : Same plugin d s (action.exec s).2) (before : ¬ (stages task).Holds d)
    (after : ¬ later.Holds d) (word : later.Says plugin d (action.exec s).2) :
    Told plugin d (action.exec s).2 (Function.update stages task later) := by
  refine ⟨excluded, fun other => ?_, fun nobody => same.agrees.mpr (told.rest fun other holds => ?_), ?_, leftovers⟩
  · by_cases here : other = task
    · subst here
      rwa [Function.update_self]
    · rw [Function.update_of_ne here]
      exact same.word (told.words other)
  · by_cases here : other = task
    · subst here
      exact before holds
    · exact nobody other (by rwa [Function.update_of_ne here])
  · intro one other written guards cleaned
    by_cases here : one = task
    · subst here
      rw [Function.update_self] at guards
      exact after (Stage.holds_of_guards guards)
    · by_cases there : other = task
      · subst there
        rw [Function.update_self] at cleaned
        exact after (cleaned ▸ rfl)
      · rw [Function.update_of_ne here] at guards
        rw [Function.update_of_ne there] at cleaned
        exact told.alone one other written guards cleaned

/-- A step of the holder of the device's lock. -/
theorem Told.holder (told : Told plugin d s stages) (before : (stages task).Guards d) (word : later.Says plugin d (action.exec s).2)
    (rest : ¬ later.Holds d → Agrees plugin d (action.exec s).2) :
    Told plugin d (action.exec s).2 (Function.update stages task later) := by
  refine ⟨excluded, fun other => ?_, fun nobody => rest ?_, ?_, leftovers⟩
  · by_cases here : other = task
    · subst here
      rwa [Function.update_self]
    · rw [Function.update_of_ne here]
      exact Stage.word_apart (told.others before here) (told.words other)
  · have own := nobody task
    rwa [Function.update_self] at own
  · intro one other written guards cleaned
    by_cases here : one = task
    · subst here
      have apart : other ≠ one := by
        rintro rfl
        rw [Function.update_self] at guards cleaned
        rw [cleaned] at guards
        exact guards
      rw [Function.update_of_ne apart] at cleaned
      exact told.others before apart (cleaned ▸ rfl)
    · rw [Function.update_of_ne here] at guards
      exact told.others before here (Stage.holds_of_guards guards)

/-- The device's lock is taken while no cleanup of the device has yet to write the table. -/
theorem Told.acquired (told : Told plugin d s stages) (same : Same plugin d s (action.exec s).2) (before : ¬ (stages task).Holds d)
    {clone : Nat} (after : later = .guarding d clone none .truth false) (written : ∀ other told, stages other ≠ .cleaned d told) :
    Told plugin d (action.exec s).2 (Function.update stages task later) := by
  subst after
  have nobody (other : Nat) : ¬ (stages other).Holds d := by
    intro holds
    rcases Stage.guards_or_cleaned holds with guards | ⟨state, cleaned⟩
    · have apart : other ≠ task := by
        rintro rfl
        exact before holds
      cases there : stages other with
      | guarding device clone' command' note' cleanup' =>
        rw [there] at guards
        obtain rfl : device = d := guards
        have first : (Function.update stages task (.guarding device clone none .truth false) other).phase =
            .guarding device clone' command' := by
          rw [Function.update_of_ne apart, there]
          rfl
        have second : (Function.update stages task (.guarding device clone none .truth false) task).phase =
            .guarding device clone none := by
          rw [Function.update_self]
          rfl
        exact apart (excluded.oneGuard first second)
      | _ =>
        rw [there] at guards
        exact guards
    · exact written other state cleaned
  refine ⟨excluded, fun other => ?_, fun free => ?_, fun one other state guards cleaned => ?_, leftovers⟩
  · by_cases here : other = task
    · subst here
      rw [Function.update_self]
      exact fun _ => same.agrees.mpr (told.rest nobody)
    · rw [Function.update_of_ne here]
      exact same.word (told.words other)
  · have own := free task
    rw [Function.update_self] at own
    exact absurd rfl own
  · by_cases there : other = task
    · subst there
      rw [Function.update_self] at cleaned
      cases cleaned
    · rw [Function.update_of_ne there] at cleaned
      exact written other state cleaned

/-- A cleanup that has given up the device's lock goes on while nobody has it. -/
theorem Told.cleanup (told : Told plugin d s stages) {written : Bool} (before : stages task = .cleaned d written)
    (path : IsMounted plugin d (action.exec s).2 ↔ IsMounted plugin d s) (table : ¬ SaysMounted d (action.exec s).2)
    (after : later = .cleaned d true ∨ later = .free) :
    Told plugin d (action.exec s).2 (Function.update stages task later) := by
  have word := told.words task
  rw [before] at word
  have away : ¬ IsMounted plugin d (action.exec s).2 := fun mounted => (word rfl).1 (path.mp mounted)
  have unguarded (other : Nat) : ¬ (stages other).Guards d := fun guards => told.alone other task written guards before
  have mine : later.Says plugin d (action.exec s).2 ∧ ¬ later.Guards d := by
    rcases after with rfl | rfl
    · exact ⟨fun _ => ⟨away, fun _ => table⟩, not_false⟩
    · exact ⟨trivial, not_false⟩
  refine ⟨excluded, fun other => ?_, fun _ => ⟨fun told => absurd told table, fun mounted => absurd mounted away⟩,
    fun one other state guards => ?_, leftovers⟩
  · by_cases here : other = task
    · subst here
      rw [Function.update_self]
      exact mine.1
    · rw [Function.update_of_ne here]
      have theirs := told.words other
      cases there : stages other with
      | guarding device clone command note cleanup =>
        exact fun own => absurd own (there ▸ unguarded other : ¬ (Stage.guarding device clone command note cleanup).Guards d)
      | cleaned device state => exact fun _ => ⟨away, fun _ => table⟩
      | late device =>
        rw [there] at theirs
        exact theirs
      | free => trivial
      | waiting device clone => trivial
      | releasing clone => trivial
  · by_cases here : one = task
    · subst here
      rw [Function.update_self] at guards
      exact absurd guards mine.2
    · rw [Function.update_of_ne here] at guards
      exact absurd guards (unguarded one)

/-- A command that ends changes what the holder of the device's lock will find. -/
theorem Told.ended (told : Told plugin d s stages) (before : stages task = .free) (after : later = .free) {watcher : Nat}
    (guards : (stages watcher).Guards d) (word : (stages watcher).Says plugin d (action.exec s).2) :
    Told plugin d (action.exec s).2 (Function.update stages task later) := by
  have same : Function.update stages task later = stages := by
    rw [after, ← before]
    exact Function.update_eq_self ..
  rw [same] at excluded ⊢
  refine ⟨excluded, fun other => ?_, fun nobody => absurd (Stage.holds_of_guards guards) (nobody watcher), told.alone, leftovers⟩
  by_cases here : other = watcher
  · subst here
    exact word
  · exact Stage.word_apart (told.others guards here) (told.words other)

end Steps

/-- A running command for the device's path is watched over by the task that has the device's lock. -/
theorem Told.watcher (told : Told plugin d s stages) {index : Nat} {command : MountCommand} (found : s.commands[index]? = some command)
    (path : command.mountPoint = mountPointFor plugin.dataDir d) (running : command.Running) :
    ∃ watcher clone note cleanup, stages watcher = .guarding d clone (some index) note cleanup := by
  have own {other : DeviceId} (isFor : IsFor plugin s other index) : other = d := by
    obtain ⟨command', found', path'⟩ := isFor
    rw [found] at found'
    cases found'
    exact mountPointFor_inj (path'.symm.trans path)
  obtain ⟨holder, claim, held, watches⟩ := told.excluded.watched index command found running
  have good := told.excluded.good holder claim held
  cases holder with
  | task watcher =>
    have held : ((stages watcher).phase).claim = some claim := held
    cases there : stages watcher with
    | guarding other clone watched note cleanup =>
      rw [there] at held
      cases held
      obtain rfl : watched = some index := watches
      obtain rfl := own (good.2.2 index rfl)
      exact ⟨watcher, clone, note, cleanup, there⟩
    | waiting other clone =>
      rw [there] at held
      cases held
      exact absurd watches not_false
    | releasing clone =>
      rw [there] at held
      cases held
      exact absurd watches not_false
    | _ =>
      rw [there] at held
      cases held
  | spawned number =>
    obtain ⟨leftover, waiting, same⟩ := Option.bind_eq_some_iff.mp (show _ = some claim from held)
    cases same
    obtain rfl : leftover.command = index := watches
    obtain ⟨other, apart, isFor⟩ := told.leftovers number leftover waiting
    exact absurd (own isFor) apart
  | slot place => cases held

/-- The end of a mount command: it has mounted the path, or the path was not mounted. -/
theorem Told.mountEnds (told : Told plugin d s stages) {index : Nat} {request : MountRequest} {password : String}
    {result : Joined MountOutcome} (found : s.commands[index]? = some (.mount request password none))
    (path : request.mountPoint = mountPointFor plugin.dataDir d)
    (sound : Note.ofMount result = .is true ∨ ¬ IsMounted plugin d s) :
    ∃ watcher, (stages watcher).Guards d ∧ (stages watcher).Says plugin d ((SftpAction.mountEnds index result).exec s).2 := by
  obtain ⟨watcher, clone, note, cleanup, there⟩ := told.watcher found path rfl
  have word := told.words watcher
  rw [there] at word
  refine ⟨watcher, by rw [there]; rfl, ?_⟩
  rw [there]
  intro _
  have expected := word rfl
  cases note with
  | truth =>
    obtain ⟨ended, found', -⟩ := expected
    rw [found] at found'
    cases found'
  | any =>
    refine ⟨request, password, some result, ?_, path, ?_⟩
    · simp only [SftpAction.exec, found]
      exact List.getElem?_set_self (List.getElem?_eq_some_iff.mp found).1
    · simp only [Option.elim_some]
      rcases result with (e | (_ | msg)) | message
      · have away := sound.resolve_left fun same => by cases same
        simpa [Note.ofMount, Known, IsMounted, SftpAction.exec, found] using away
      · simp [Note.ofMount, Known, IsMounted, SftpAction.exec, found, path]
      · have away := sound.resolve_left fun same => by cases same
        simpa [Note.ofMount, Known, IsMounted, SftpAction.exec, found] using away
      · have away := sound.resolve_left fun same => by cases same
        simpa [Note.ofMount, Known, IsMounted, SftpAction.exec, found] using away
  | is mounted => exact absurd expected not_false
  | clear => exact absurd expected not_false
  | spoiled => exact absurd expected not_false

/-- The end of an unmount command: after it the path is not mounted. -/
theorem Told.unmountEnds (told : Told plugin d s stages) {index : Nat} {mountPoint : String} {result : Joined UnmountOutcome}
    (found : s.commands[index]? = some (.unmount mountPoint none)) (path : mountPoint = mountPointFor plugin.dataDir d)
    (sound : Note.ofUnmount result = .is false ∨ ¬ IsMounted plugin d s) :
    ∃ watcher, (stages watcher).Guards d ∧ (stages watcher).Says plugin d ((SftpAction.unmountEnds index result).exec s).2 := by
  obtain ⟨watcher, clone, note, cleanup, there⟩ := told.watcher found path rfl
  have word := told.words watcher
  rw [there] at word
  refine ⟨watcher, by rw [there]; rfl, ?_⟩
  rw [there]
  intro _
  have expected := word rfl
  cases note with
  | truth =>
    obtain ⟨ended, found', agrees⟩ := expected
    rw [found] at found'
    cases found'
    refine ⟨some result, ?_, ?_⟩
    · simp only [SftpAction.exec, found]
      exact List.getElem?_set_self (List.getElem?_eq_some_iff.mp found).1
    · have clear (away : ¬ IsMounted plugin d s) : ¬ IsMounted plugin d s ∧ ¬ SaysMounted d s := ⟨away, fun told => away (agrees.mp told)⟩
      simp only [Option.elim_some]
      rcases result with (e | (_ | msg)) | message
      · simpa [Note.ofUnmount, Known, IsMounted, SaysMounted, SftpAction.exec, SftpState.setEnded, found] using
          clear (sound.resolve_left fun same => by cases same)
      · simp [Note.ofUnmount, Known, IsMounted, SftpAction.exec, found]
      · simpa [Note.ofUnmount, Known, IsMounted, SaysMounted, SftpAction.exec, SftpState.setEnded, found] using
          clear (sound.resolve_left fun same => by cases same)
      · simpa [Note.ofUnmount, Known, IsMounted, SaysMounted, SftpAction.exec, SftpState.setEnded, found] using
          clear (sound.resolve_left fun same => by cases same)
  | any =>
    obtain ⟨request, password, ended, found', -⟩ := expected
    rw [found] at found'
    cases found'
  | is mounted => exact absurd expected not_false
  | clear => exact absurd expected not_false
  | spoiled => exact absurd expected not_false

theorem Known.write {note : Note} (known : Known plugin d s note) (state : MountState) :
    Known plugin d { s with mounts := s.mounts.insert d state } (note.write state) := by
  have table : SaysMounted d { s with mounts := s.mounts.insert d state } ↔ state = .mounted := by simp [SaysMounted]
  have path : IsMounted plugin d { s with mounts := s.mounts.insert d state } ↔ IsMounted plugin d s := Iff.rfl
  cases note with
  | truth => trivial
  | any => trivial
  | is mounted =>
    simp only [Note.write]
    split
    · rename_i same
      have mounted : IsMounted plugin d s ↔ _ := known
      simp only [Known, Agrees, table, path]
      rw [mounted, ← same, decide_eq_true_iff]
    · trivial
  | clear =>
    simp only [Note.write]
    split
    · trivial
    · rename_i differ
      simp only [Known, Agrees, table, path]
      exact iff_of_false differ known.1
  | spoiled => exact known

theorem Known.agrees {note : Note} (known : Known plugin d s note) (settled : note.settled = true) : Agrees plugin d s := by
  cases note with
  | truth => exact known
  | clear => exact iff_of_false known.2 known.1
  | _ => cases settled

theorem Known.away {note : Note} (known : Known plugin d s note) (away : note.away = true) : ¬ IsMounted plugin d s := by
  cases note with
  | is mounted =>
    cases mounted with
    | true => cases away
    | false => exact fun mounted => absurd (known.mp mounted) nofun
  | clear => exact known.1
  | _ => cases away

section Condition

variable (plugin d)

/-- The operation is about to write that the device is not mounted, or to drop its connection. -/
def sweeps : SftpProgram Unit → Bool
  | .act (setMountState other .unmounted) _ => other = d
  | .act (removeConnection other) _ => other = d
  | _ => false

/-- The clone is one of the device's lock. -/
def Asks (s : SftpState) (clone : Nat) : Prop := (s.clones.lookup clone).isSome ∧ s.clones.lookup clone = s.mountLocks.lookup d

instance (s : SftpState) (clone : Nat) : Decidable (Asks d s clone) := instDecidableAnd

/-- What is done next does not go wrong for the device: no wait for its lock
and no wait for a command of it runs out of time, no command of it fails while
its path is mounted, a cleanup finds its path if that is mounted, and
nobody gets its lock while a cleanup that has given it up has not ended. -/
def Prompt (pool : Tasks) : SftpAction → Prop
  | lockOwned clone => Asks d pool.shared clone → (acquire clone pool.shared).1 = true ∧ pool.tasks.all fun body => !sweeps d body
  | awaitMount index => ∀ command ∈ pool.shared.commands[index]?,
    command.mountPoint = mountPointFor plugin.dataDir d → ¬ command.Running
  | awaitUnmount index => ∀ command ∈ pool.shared.commands[index]?,
    command.mountPoint = mountPointFor plugin.dataDir d → ¬ command.Running
  | mountEnds index result => ∀ command ∈ pool.shared.commands[index]?, command.mountPoint = mountPointFor plugin.dataDir d →
    result.isOk .mounted ∨ mountPointFor plugin.dataDir d ∉ pool.shared.mounted
  | unmountEnds index result => ∀ command ∈ pool.shared.commands[index]?, command.mountPoint = mountPointFor plugin.dataDir d →
    result.isOk .unmounted ∨ mountPointFor plugin.dataDir d ∉ pool.shared.mounted
  | pathExists mountPoint => mountPoint = mountPointFor plugin.dataDir d →
    pool.shared.choices pool.shared.chosen = true ∨ mountPointFor plugin.dataDir d ∉ pool.shared.mounted
  | _ => True

instance (pool : Tasks) (action : SftpAction) : Decidable (Prompt plugin d pool action) := by
  cases action <;> unfold Prompt <;> infer_instance

def Smooth (pool : Tasks) : Turn MountCall → Prop
  | .spawn _ => True
  | .take task => ∀ action ∈ pool.next task, Prompt plugin d pool action

instance (pool : Tasks) (turn : Turn MountCall) : Decidable (Smooth plugin d pool turn) := by
  cases turn <;> unfold Smooth <;> infer_instance

end Condition

variable {pool : Tasks}

theorem isOk_mounted {result : Joined MountOutcome} (ok : result.isOk .mounted = true) : Note.ofMount result = .is true := by
  rcases result with (e | (_ | msg)) | message
  · cases ok
  · rfl
  · simp [Joined.isOk] at ok
  · cases ok

theorem isOk_unmounted {result : Joined UnmountOutcome} (ok : result.isOk .unmounted = true) : Note.ofUnmount result = .is false := by
  rcases result with (e | (_ | msg)) | message
  · cases ok
  · rfl
  · simp [Joined.isOk] at ok
  · cases ok

/-- What the holder of the device's lock knows after the next thing it does. -/
theorem guardMove_word {clone : Nat} {command : Option Nat} {note : Note} {cleanup : Bool}
    (expected : Expects plugin d pool.shared command note) {action : SftpAction} (prompt : Prompt plugin d pool action)
    (moved : guardMove plugin d clone command note cleanup action (action.exec pool.shared).1 = some later) :
    later.Says plugin d (action.exec pool.shared).2 ∧ (¬ later.Holds d → Agrees plugin d (action.exec pool.shared).2) ∧
      ∀ leftover, action ≠ .spawnLeftover leftover := by
  unfold guardMove at moved
  split at moved
  · rename_i request password
    obtain ⟨path, rfl⟩ := Pool.of_guard moved
    refine ⟨fun _ => ⟨request, password, none, ?_, path, trivial⟩, fun free => absurd rfl free, fun _ same => by cases same⟩
    simp [SftpAction.exec]
  · rename_i mountPoint
    obtain ⟨rfl, rfl⟩ := Pool.of_guard moved
    have same : Same plugin d pool.shared ((SftpAction.spawnUnmount (mountPointFor plugin.dataDir d)).exec pool.shared).2 := exec_same not_false
    refine ⟨fun _ => ⟨none, ?_, same.agrees.mpr expected⟩, fun free => absurd rfl free, fun _ same => by cases same⟩
    simp [SftpAction.exec]
  · rename_i mountPoint
    obtain ⟨path, rfl⟩ := Pool.of_guard moved
    have same : Same plugin d pool.shared ((SftpAction.pathExists mountPoint).exec pool.shared).2 := exec_same not_false
    refine ⟨fun _ => ?_, fun free => absurd rfl free, fun _ same => by cases same⟩
    cases found : ((SftpAction.pathExists mountPoint).exec pool.shared).1 with
    | true => exact same.expects expected
    | false =>
      have missed : pool.shared.choices pool.shared.chosen = false := found
      have away : ¬ IsMounted plugin d pool.shared := (prompt path).resolve_left (by rw [missed]; exact Bool.false_ne_true)
      exact same.path.trans (iff_of_false away Bool.false_ne_true)
  · rename_i own
    obtain ⟨⟨-, settled⟩, rfl⟩ := Pool.of_guard moved
    have same : Same plugin d pool.shared ((SftpAction.dropGuard own).exec pool.shared).2 := exec_same not_false
    exact ⟨trivial, fun _ => same.agrees.mpr (Known.agrees expected settled), fun _ same => by cases same⟩
  · rename_i own
    obtain ⟨⟨-, away⟩, rfl⟩ := Pool.of_guard moved
    have same : Same plugin d pool.shared ((SftpAction.dropGuard own).exec pool.shared).2 := exec_same not_false
    exact ⟨fun _ => ⟨fun mounted => Known.away expected away (same.path.mp mounted), fun same => by cases same⟩, fun free => absurd rfl free, fun _ same => by cases same⟩
  · rename_i index awaited
    obtain ⟨rfl, rfl⟩ := Pool.of_guard moved
    obtain ⟨request, password, ended, found, path, known⟩ := expected
    have exec : (SftpAction.awaitMount index).exec pool.shared = (ended, pool.shared) := by simp only [SftpAction.exec, found]
    rw [exec]
    cases ended with
    | some result => exact ⟨fun _ => known, fun free => absurd rfl free, fun _ same => by cases same⟩
    | none => exact absurd rfl (prompt _ found path)
  · rename_i index awaited
    obtain ⟨rfl, rfl⟩ := Pool.of_guard moved
    obtain ⟨ended, found, known⟩ := expected
    have exec : (SftpAction.awaitUnmount index).exec pool.shared = (ended, pool.shared) := by simp only [SftpAction.exec, found]
    rw [exec]
    cases ended with
    | some result => exact ⟨fun _ => known, fun free => absurd rfl free, fun _ same => by cases same⟩
    | none => exact absurd rfl (prompt _ found rfl)
  · exact absurd expected not_false
  · obtain ⟨rfl, rfl⟩ := Pool.of_guard moved
    exact ⟨fun _ => Known.write expected _, fun free => absurd rfl free, fun _ same => by cases same⟩
  · exact absurd expected not_false
  · cases moved
    exact ⟨fun _ => (exec_same (by exact not_false)).expects expected, fun free => absurd rfl free, fun _ same => by cases same⟩
  · cases moved
    exact ⟨fun _ => (exec_same (by exact not_false)).expects expected, fun free => absurd rfl free, fun _ same => by cases same⟩
  · obtain ⟨-, rfl⟩ := Pool.of_guard moved
    exact ⟨fun _ => (exec_same (by exact not_false)).expects expected, fun free => absurd rfl free, fun _ same => by cases same⟩
  · cases moved
    exact ⟨fun _ => (exec_same (by exact not_false)).expects expected, fun free => absurd rfl free, fun _ same => by cases same⟩
  · cases moved

/-- The holder of another device's lock does not touch the device. -/
theorem guardMove_apart {other : DeviceId} (apart : other ≠ d) {clone : Nat} {command : Option Nat} {note : Note} {cleanup : Bool}
    {action : SftpAction} {answer : action.Answer} (moved : guardMove plugin other clone command note cleanup action answer = some later) :
    ¬ later.Holds d ∧ later.Says plugin d s' ∧ ¬ Touches plugin d s action ∧
      ∀ leftover, action = .spawnLeftover leftover → command = some leftover.command := by
  unfold guardMove at moved
  split at moved
  · obtain ⟨-, rfl⟩ := Pool.of_guard moved
    exact ⟨apart, fun own => absurd own apart, not_false, nofun⟩
  · obtain ⟨-, rfl⟩ := Pool.of_guard moved
    exact ⟨apart, fun own => absurd own apart, not_false, nofun⟩
  · obtain ⟨-, rfl⟩ := Pool.of_guard moved
    exact ⟨apart, fun own => absurd own apart, not_false, nofun⟩
  · obtain ⟨-, rfl⟩ := Pool.of_guard moved
    exact ⟨not_false, trivial, not_false, nofun⟩
  · obtain ⟨-, rfl⟩ := Pool.of_guard moved
    exact ⟨apart, fun own => absurd own apart, not_false, nofun⟩
  · obtain ⟨-, rfl⟩ := Pool.of_guard moved
    refine ⟨?_, ?_, not_false, nofun⟩
    · split <;> exact apart
    · split <;> exact fun own => absurd own apart
  · obtain ⟨-, rfl⟩ := Pool.of_guard moved
    refine ⟨?_, ?_, not_false, nofun⟩
    · split <;> exact apart
    · split <;> exact fun own => absurd own apart
  · obtain ⟨rfl, rfl⟩ := Pool.of_guard moved
    refine ⟨not_false, apart, not_false, fun leftover same => ?_⟩
    cases same
    rfl
  · obtain ⟨rfl, rfl⟩ := Pool.of_guard moved
    exact ⟨apart, fun own => absurd own apart, apart, nofun⟩
  · obtain ⟨rfl, rfl⟩ := Pool.of_guard moved
    exact ⟨apart, fun own => absurd own apart, apart, nofun⟩
  · cases moved
    exact ⟨apart, fun own => absurd own apart, not_false, nofun⟩
  · cases moved
    exact ⟨apart, fun own => absurd own apart, not_false, nofun⟩
  · obtain ⟨-, rfl⟩ := Pool.of_guard moved
    exact ⟨apart, fun own => absurd own apart, not_false, nofun⟩
  · cases moved
    exact ⟨apart, fun own => absurd own apart, not_false, nofun⟩
  · cases moved

/-- A cleanup that has given up the lock is about to write the table or to drop the connection. -/
theorem sweeps_of_cleaned (phased : Pool.Phased (advance plugin) .free Stage.Final pool stages) {written : Bool}
    (cleaned : stages task = .cleaned d written) : ∃ body ∈ pool.tasks, sweeps d body = true := by
  have begun : stages task ≠ .free := by rw [cleaned]; nofun
  have unfinished : ¬ (stages task).Final := by rw [cleaned]; exact not_false
  obtain ⟨action, about, moves⟩ := phased.busy begun unfinished
  obtain ⟨later, moved⟩ := moves (action.exec pool.shared).1
  rw [cleaned] at moved
  cases found : pool.tasks[task]? with
  | none => simp [Pool.next, found] at about
  | some body =>
    cases body with
    | done value => simp [Pool.next, found] at about
    | act performed next =>
      obtain rfl : performed = action := by simpa [Pool.next, found] using about
      refine ⟨_, List.mem_of_getElem? found, ?_⟩
      cases written with
      | false =>
        cases performed with
        | setMountState other state =>
          cases state with
          | unmounted => exact decide_eq_true (Pool.of_guard moved).1.symm
          | _ => cases moved
        | _ => cases moved
      | true =>
        cases performed with
        | removeConnection other => exact decide_eq_true (Pool.of_guard moved).1.symm
        | _ => cases moved

theorem asks_of_homed {clone : Nat} (homed : Homed s d clone) : Asks d s clone := by
  obtain ⟨lock, own, mapped⟩ := homed
  exact ⟨by rw [own]; rfl, own.trans mapped.symm⟩

/-- A command for the device's path, or another one, ends. -/
theorem Told.commandEnds (told : Told plugin d pool.shared stages) (free : stages task = .free) {action : SftpAction}
    (prompt : Prompt plugin d pool action)
    (ends : (∃ index result, action = .mountEnds index result) ∨ ∃ index result, action = .unmountEnds index result)
    (excluded : Excluded plugin (action.exec pool.shared).2 fun other => (Function.update stages task .free other).phase)
    (leftovers : ∀ (index : Nat) leftover, (action.exec pool.shared).2.leftovers[index]?.join = some leftover →
      ∃ other, other ≠ d ∧ IsFor plugin (action.exec pool.shared).2 other leftover.command) :
    Told plugin d (action.exec pool.shared).2 (Function.update stages task .free) := by
  have before : ¬ (stages task).Holds d := by rw [free]; exact not_false
  have aside (same : Same plugin d pool.shared (action.exec pool.shared).2) :
      Told plugin d (action.exec pool.shared).2 (Function.update stages task .free) :=
    told.aside excluded leftovers same before not_false trivial
  rcases ends with ⟨index, result, rfl⟩ | ⟨index, result, rfl⟩
  · by_cases isFor : IsFor plugin pool.shared d index
    · obtain ⟨command, found, path⟩ := isFor
      have nothing (same : ((SftpAction.mountEnds index result).exec pool.shared).2 = pool.shared) :
          Same plugin d pool.shared ((SftpAction.mountEnds index result).exec pool.shared).2 := by
        rw [same]
        exact .of_eq rfl rfl rfl
      cases command with
      | unmount mountPoint ended => exact aside (nothing (by simp only [SftpAction.exec, found]))
      | mount request password ended =>
        cases ended with
        | some finished => exact aside (nothing (by simp only [SftpAction.exec, found]))
        | none =>
          have sound := (prompt _ found path).imp isOk_mounted fun away : ¬ IsMounted plugin d pool.shared => away
          obtain ⟨watcher, guards, word⟩ := told.mountEnds found path sound
          exact told.ended excluded leftovers free rfl guards word
    · exact aside (exec_same isFor)
  · by_cases isFor : IsFor plugin pool.shared d index
    · obtain ⟨command, found, path⟩ := isFor
      have nothing (same : ((SftpAction.unmountEnds index result).exec pool.shared).2 = pool.shared) :
          Same plugin d pool.shared ((SftpAction.unmountEnds index result).exec pool.shared).2 := by
        rw [same]
        exact .of_eq rfl rfl rfl
      cases command with
      | mount request password ended => exact aside (nothing (by simp only [SftpAction.exec, found]))
      | unmount mountPoint ended =>
        cases ended with
        | some finished => exact aside (nothing (by simp only [SftpAction.exec, found]))
        | none =>
          have sound := (prompt _ found path).imp isOk_unmounted fun away : ¬ IsMounted plugin d pool.shared => away
          obtain ⟨watcher, guards, word⟩ := told.unmountEnds found path sound
          exact told.ended excluded leftovers free rfl guards word
    · exact aside (exec_same isFor)

/-- Whatever a task does next, if it does not go wrong for the device, the table stays true to the device's path. -/
theorem Told.exec (phased : Pool.Phased (advance plugin) .free Stage.Final pool stages) (told : Told plugin d pool.shared stages)
    {action : SftpAction} (prompt : Prompt plugin d pool action)
    (moved : advance plugin (stages task) action (action.exec pool.shared).1 = some later) :
    Told plugin d (action.exec pool.shared).2 (Function.update stages task later) := by
  have excluded : Excluded plugin (action.exec pool.shared).2 fun other => (Function.update stages task later other).phase := by
    rw [phase_update]
    exact told.excluded.exec (advance_phase moved)
  have spawnsNone (apart : ∀ leftover, action ≠ .spawnLeftover leftover) (index : Nat) (leftover : Leftover)
      (there : (action.exec pool.shared).2.leftovers[index]?.join = some leftover) :
      ∃ other, other ≠ d ∧ IsFor plugin (action.exec pool.shared).2 other leftover.command :=
    told.frame (fun leftover same => absurd same (apart leftover)) there
  have word := told.words task
  cases here : stages task with
  | free =>
    have before : ¬ (stages task).Holds d := by rw [here]; exact not_false
    rw [here] at moved
    cases action with
    | mountLockFor other =>
      obtain rfl := Option.some.inj moved
      exact told.aside excluded (spawnsNone fun _ same => by cases same) (exec_same not_false) before not_false trivial
    | pollLeftover index =>
      have same : Same plugin d pool.shared ((SftpAction.pollLeftover index).exec pool.shared).2 := exec_same not_false
      cases polled : ((SftpAction.pollLeftover index).exec pool.shared).1 with
      | none =>
        rw [polled] at moved
        obtain rfl := Option.some.inj moved
        exact told.aside excluded (spawnsNone fun _ same => by cases same) same before not_false trivial
      | some leftover =>
        rw [polled] at moved
        obtain rfl := Option.some.inj moved
        exact told.aside excluded (spawnsNone fun _ same => by cases same) same before not_false trivial
    | mountEnds index result =>
      obtain rfl := Option.some.inj moved
      exact told.commandEnds here prompt (.inl ⟨index, result, rfl⟩) excluded (spawnsNone fun _ same => by cases same)
    | unmountEnds index result =>
      obtain rfl := Option.some.inj moved
      exact told.commandEnds here prompt (.inr ⟨index, result, rfl⟩) excluded (spawnsNone fun _ same => by cases same)
    | _ => cases moved
  | waiting other clone =>
    have before : ¬ (stages task).Holds d := by rw [here]; exact not_false
    rw [here] at moved
    cases action with
    | lockOwned own =>
      obtain ⟨rfl, after⟩ := Pool.of_guard moved
      have same : Same plugin d pool.shared ((SftpAction.lockOwned clone).exec pool.shared).2 := exec_same not_false
      by_cases device : other = d
      · subst device
        have waiting : (stages task).phase = .waiting other clone := by rw [here]; rfl
        obtain ⟨acquired, unswept⟩ := prompt (asks_of_homed (told.excluded.homed waiting))
        refine told.acquired excluded (spawnsNone fun _ same => by cases same) same before (after.symm.trans (if_pos acquired)) fun sweeper written cleaned => ?_
        obtain ⟨body, member, about⟩ := sweeps_of_cleaned phased cleaned
        have quiet := List.all_eq_true.mp unswept body member
        rw [about] at quiet
        cases quiet
      · have apart : ¬ later.Holds d ∧ later.Says plugin d ((SftpAction.lockOwned clone).exec pool.shared).2 := by
          rw [← after]
          split
          · exact ⟨device, fun own => absurd own device⟩
          · exact ⟨not_false, device⟩
        exact told.aside excluded (spawnsNone fun _ same => by cases same) same before apart.1 apart.2
    | _ => cases moved
  | guarding other clone command note cleanup =>
    rw [here] at moved word
    have moved : guardMove plugin other clone command note cleanup action (action.exec pool.shared).1 = some later := moved
    by_cases device : other = d
    · subst device
      obtain ⟨after, rest, spawns⟩ := guardMove_word (word rfl) prompt moved
      exact told.holder excluded (spawnsNone spawns) (by rw [here]; rfl) after rest
    · obtain ⟨apart, after, untouched, spawns⟩ := guardMove_apart device moved
      refine told.aside excluded (fun index leftover there => told.frame (fun leftover same => ?_) there) (exec_same untouched)
        (by rw [here]; exact device) apart after
      have guarding : (stages task).phase = .guarding other clone command := by rw [here]; rfl
      exact ⟨other, device, (told.excluded.guarding guarding).2.2 leftover.command (spawns leftover same)⟩
  | cleaned other written =>
    rw [here] at moved
    cases written with
    | false =>
      cases action with
      | setMountState device state =>
        cases state with
        | unmounted =>
          obtain ⟨rfl, rfl⟩ := Pool.of_guard moved
          by_cases own : other = d
          · subst own
            refine told.cleanup excluded (spawnsNone fun _ same => by cases same) here Iff.rfl ?_ (.inl rfl)
            simp [SaysMounted, SftpAction.exec]
          · exact told.aside excluded (spawnsNone fun _ same => by cases same) (exec_same own) (by rw [here]; exact own) own fun same => absurd same own
        | _ => cases moved
      | _ => cases moved
    | true =>
      cases action with
      | removeConnection device =>
        obtain ⟨rfl, rfl⟩ := Pool.of_guard moved
        by_cases own : other = d
        · subst own
          rw [here] at word
          exact told.cleanup excluded (spawnsNone fun _ same => by cases same) here Iff.rfl ((word rfl).2 rfl) (.inr rfl)
        · exact told.aside excluded (spawnsNone fun _ same => by cases same) (exec_same not_false) (by rw [here]; exact own) not_false trivial
      | _ => cases moved
  | late other =>
    have before : ¬ (stages task).Holds d := by rw [here]; exact not_false
    rw [here] at moved word
    have apart : other ≠ d := word
    cases action with
    | setMountState device state =>
      obtain ⟨rfl, rfl⟩ := Pool.of_guard moved
      exact told.aside excluded (spawnsNone fun _ same => by cases same) (exec_same apart) before not_false apart
    | removeConnection device =>
      obtain ⟨rfl, rfl⟩ := Pool.of_guard moved
      exact told.aside excluded (spawnsNone fun _ same => by cases same) (exec_same not_false) before not_false apart
    | getConnection device =>
      obtain rfl := Option.some.inj moved
      exact told.aside excluded (spawnsNone fun _ same => by cases same) (exec_same not_false) before not_false apart
    | broadcast update =>
      obtain rfl := Option.some.inj moved
      exact told.aside excluded (spawnsNone fun _ same => by cases same) (exec_same not_false) before not_false apart
    | _ => cases moved
  | releasing clone =>
    have before : ¬ (stages task).Holds d := by rw [here]; exact not_false
    rw [here] at moved
    cases action with
    | dropGuard own =>
      obtain ⟨rfl, rfl⟩ := Pool.of_guard moved
      exact told.aside excluded (spawnsNone fun _ same => by cases same) (exec_same not_false) before not_false trivial
    | _ => cases moved

/-- The device that an operation is on, from the look-up of the device's lock. -/
def Stage.device : Stage → Option DeviceId
  | .waiting other _ => some other
  | .guarding other _ _ _ _ => some other
  | .cleaned other _ => some other
  | _ => none

theorem advance_device {stage : Stage} {action : SftpAction} {answer : action.Answer}
    (moved : advance plugin stage action answer = some later) (about : later.device = some d) :
    stage.device = some d ∨ action = .mountLockFor d := by
  unfold advance at moved
  split at moved
  · cases moved
    cases about
    exact .inr rfl
  · cases moved; cases about
  · cases moved; cases about
  · cases moved; cases about
  · cases moved; cases about
  · obtain ⟨-, rfl⟩ := Pool.of_guard moved
    split at about
    · exact .inl about
    · cases about
  · rcases guardMove_later moved with rfl | rfl | rfl | ⟨command, note, cleanup, rfl⟩
    · cases about
    · cases about
    · exact .inl about
    · exact .inl about
  · obtain ⟨-, rfl⟩ := Pool.of_guard moved
    exact .inl about
  · obtain ⟨-, rfl⟩ := Pool.of_guard moved
    cases about
  · obtain ⟨-, rfl⟩ := Pool.of_guard moved
    cases about
  · obtain ⟨-, rfl⟩ := Pool.of_guard moved
    cases about
  · cases moved; cases about
  · cases moved; cases about
  · obtain ⟨-, rfl⟩ := Pool.of_guard moved
    cases about
  · cases moved

theorem Stage.device_of_holds {stage : Stage} (holds : stage.Holds d) : stage.device = some d := by
  cases stage with
  | guarding other clone command note cleanup => exact congrArg some holds
  | cleaned other written => exact congrArg some holds
  | _ => exact absurd holds not_false

variable (d) in
/-- Every task that has to do with the device has looked up its lock. -/
def Asked (stages : Nat → Stage) (trace : List (Nat × Σ action, SftpAction.Answer action)) : Prop :=
  ∀ task, (stages task).device = some d → ∃ clone, (task, ⟨.mountLockFor d, clone⟩) ∈ trace

theorem Asked.exec {trace : List (Nat × Σ action, SftpAction.Answer action)} (asked : Asked d stages trace) {action : SftpAction}
    {answer : action.Answer} (moved : advance plugin (stages task) action answer = some later) :
    Asked d (Function.update stages task later) (trace ++ [(task, ⟨action, answer⟩)]) := by
  intro other about
  by_cases here : other = task
  · subst here
    rw [Function.update_self] at about
    rcases advance_device moved about with before | rfl
    · obtain ⟨clone, member⟩ := asked other before
      exact ⟨clone, List.mem_append_left _ member⟩
    · exact ⟨answer, List.mem_append_right _ (List.mem_singleton.mpr rfl)⟩
  · rw [Function.update_of_ne here] at about
    obtain ⟨clone, member⟩ := asked other about
    exact ⟨clone, List.mem_append_left _ member⟩

end Truth

section Runs

variable (plugin : SftpPlugin) (d : DeviceId)

/-- The runs of the four operations on mounts, from the plugin's start with nothing
mounted. A call that has begun goes on to its end: no caller drops it while it waits. -/
def mountsAt (choices : Nat → Bool) (turns : List (Turn MountCall)) (k : Nat) : Tasks :=
  Pool.after SftpAction.exec (fun call : MountCall => program plugin call.call) (new choices []) turns k

/-- The entry of the trace is the look-up of the device's lock, with which every operation on the device begins. -/
def begins (entry : Nat × Σ action, SftpAction.Answer action) : Bool :=
  match entry.2.1 with
  | mountLockFor other => other = d
  | _ => false

/-- No operation on the device is in flight, and no command for its path is running. -/
def Quiet (pool : Tasks) : Prop :=
  (∀ entry ∈ pool.trace, begins d entry = true → (pool.next entry.1).isNone) ∧
    ∀ command ∈ pool.shared.commands, command.mountPoint = mountPointFor plugin.dataDir d → ¬ command.Running

instance (pool : Tasks) : Decidable (Quiet plugin d pool) := instDecidableAnd

/-- A cleanup of the device, which is the given task, does the last thing it has to do. -/
def CleanupEnds (choices : Nat → Bool) (turns : List (Turn MountCall)) (k task : Nat) : Prop :=
  (Pool.spawned (turns.take k))[task]? = some (.cleanupDevice d) ∧ turns[k]? = some (.take task) ∧
    (mountsAt plugin choices turns k).next task = some (.removeConnection d)

variable {plugin d} {choices : Nat → Bool} {turns : List (Turn MountCall)}

theorem told_new (choices : Nat → Bool) : Told plugin d (new choices []) fun _ => .free where
  excluded := excluded_new plugin choices []
  words _ := trivial
  rest _ := by simp [Agrees, SaysMounted, IsMounted, new]
  alone _ _ _ guards := absurd guards not_false
  leftovers index leftover there := by simp [new] at there

theorem told_run (smooth : ∀ k turn, turns[k]? = some turn → Smooth plugin d (mountsAt plugin choices turns k) turn) (k : Nat) :
    ∃ stages, Pool.Phased (advance plugin) .free Stage.Final (mountsAt plugin choices turns k) stages ∧
      Told plugin d (mountsAt plugin choices turns k).shared stages ∧ Asked d stages (mountsAt plugin choices turns k).trace := by
  refine Pool.Phased.run (I := fun s stages trace => Told plugin d s stages ∧ Asked d stages trace) advance_program
    (fun pool stages task action later phased holds about smooth moved => ?_) ⟨told_new choices, fun task about => nomatch about⟩ smooth k
  exact ⟨holds.1.exec phased (smooth action about) moved, holds.2.exec moved⟩

theorem Quiet.nobody {pool : Tasks} {stages : Nat → Stage} (quiet : Quiet plugin d pool)
    (phased : Pool.Phased (advance plugin) .free Stage.Final pool stages) (asked : Asked d stages pool.trace) (task : Nat) :
    ¬ (stages task).Holds d := by
  intro holds
  have begun : stages task ≠ .free := by
    intro free
    rw [free] at holds
    exact holds
  have unfinished : ¬ (stages task).Final := by
    intro final
    cases here : stages task with
    | guarding other clone command note cleanup =>
      rw [here] at final
      exact final
    | cleaned other written =>
      rw [here] at final
      exact final
    | _ =>
      rw [here] at holds
      exact holds
  obtain ⟨action, about, -⟩ := phased.busy begun unfinished
  obtain ⟨clone, member⟩ := asked task (Stage.device_of_holds holds)
  have ended := quiet.1 _ member (decide_eq_true rfl)
  rw [about] at ended
  cases ended

/-- While no command for it is running, nothing changes whether the path is mounted. -/
theorem exec_path {s : SftpState} (still : ∀ command ∈ s.commands, command.mountPoint = mountPointFor plugin.dataDir d → ¬ command.Running)
    (action : SftpAction) : IsMounted plugin d (action.exec s).2 ↔ IsMounted plugin d s := by
  by_cases touches : Touches plugin d s action
  · cases action with
    | setMountState other state => exact Iff.rfl
    | mountEnds index result =>
      obtain ⟨command, found, path⟩ := touches
      have finished := still command (List.mem_of_getElem? found) path
      simp only [SftpAction.exec, found]
      split
      · rename_i same
        cases same
        exact absurd rfl finished
      · rfl
    | unmountEnds index result =>
      obtain ⟨command, found, path⟩ := touches
      have finished := still command (List.mem_of_getElem? found) path
      simp only [SftpAction.exec, found]
      split
      · rename_i same
        cases same
        exact absurd rfl finished
      · rfl
    | _ => exact absurd touches not_false
  · exact (exec_same touches).path

theorem Quiet.path {k : Nat} (quiet : Quiet plugin d (mountsAt plugin choices turns k)) :
    IsMounted plugin d (mountsAt plugin choices turns (k + 1)).shared ↔ IsMounted plugin d (mountsAt plugin choices turns k).shared := by
  rcases Pool.after_succ SftpAction.exec (fun call : MountCall => program plugin call.call) (new choices []) turns k with
    same | ⟨task, action, -, -, onward⟩
  · exact iff_of_eq (congrArg (IsMounted plugin d) same)
  · exact (iff_of_eq (congrArg (IsMounted plugin d) onward)).trans (exec_path quiet.2 action)

/-- A cleanup that is the last to end leaves the path unmounted. -/
theorem CleanupEnds.away (smooth : ∀ k turn, turns[k]? = some turn → Smooth plugin d (mountsAt plugin choices turns k) turn)
    {k task : Nat} (ends : CleanupEnds plugin d choices turns k task) (quiet : Quiet plugin d (mountsAt plugin choices turns (k + 1))) :
    ¬ IsMounted plugin d (mountsAt plugin choices turns (k + 1)).shared := by
  obtain ⟨-, here, about⟩ := ends
  obtain ⟨stages, phased, told, asked⟩ := told_run smooth k
  obtain ⟨later, moved, phased', trace⟩ := phased.onward here about
  have asked' : Asked d (Function.update stages task later) (mountsAt plugin choices turns (k + 1)).trace := by
    rw [mountsAt, trace]
    exact asked.exec moved
  have onward : (mountsAt plugin choices turns (k + 1)).shared =
      ((SftpAction.removeConnection d).exec (mountsAt plugin choices turns k).shared).2 := Pool.after_take here about
  have nobody := quiet.nobody phased' asked' task
  rw [Function.update_self] at nobody
  have word := told.words task
  rw [onward]
  cases stage : stages task with
  | cleaned other written =>
    rw [stage] at moved word
    cases written with
    | false => cases moved
    | true =>
      obtain ⟨same, -⟩ := Pool.of_guard moved
      exact (word same).1
  | late other =>
    rw [stage] at moved word
    exact absurd (Pool.of_guard moved).1 word
  | guarding other clone command note cleanup =>
    rw [stage] at moved
    cases command with
    | none =>
      obtain ⟨rfl, rfl⟩ : other = d ∧ Stage.guarding other clone none note cleanup = later := by
        cases note <;> cases cleanup <;> exact Pool.of_guard moved
      exact absurd rfl nobody
    | some index => cases note <;> cases cleanup <;> cases moved
  | _ =>
    rw [stage] at moved
    cases moved

/-- In a run in which nothing goes wrong for the device, whenever no operation
on it is in flight and no command for its path is running, the table says
that the device is mounted if and only if its path is; and from the end of a
cleanup on, as long as nothing of it is in flight, its path is not mounted. -/
theorem table_tells_the_truth (plugin : SftpPlugin) (choices : Nat → Bool) (turns : List (Turn MountCall)) (d : DeviceId)
    (smooth : ∀ k turn, turns[k]? = some turn → Smooth plugin d (mountsAt plugin choices turns k) turn) (m : Nat)
    (quiet : Quiet plugin d (mountsAt plugin choices turns m)) :
    ((mountsAt plugin choices turns m).shared.mounts.lookup d = some .mounted ↔
      mountPointFor plugin.dataDir d ∈ (mountsAt plugin choices turns m).shared.mounted) ∧
    ∀ k task, CleanupEnds plugin d choices turns k task → k < m →
      (∀ j, k < j → j ≤ m → Quiet plugin d (mountsAt plugin choices turns j)) →
      mountPointFor plugin.dataDir d ∉ (mountsAt plugin choices turns m).shared.mounted := by
  refine ⟨?_, fun k task ends before still => ?_⟩
  · obtain ⟨stages, phased, told, asked⟩ := told_run smooth m
    exact told.rest fun task => quiet.nobody phased asked task
  · have away (n : Nat) : k + 1 + n ≤ m → ¬ IsMounted plugin d (mountsAt plugin choices turns (k + 1 + n)).shared := by
      induction n with
      | zero => exact fun within => ends.away smooth (still (k + 1) (by omega) within)
      | succ n ih =>
        intro within
        have quiet := still (k + 1 + n) (by omega) (by omega)
        exact fun mounted => ih (by omega) (quiet.path.mp mounted)
    have last := away (m - (k + 1)) (by omega)
    rwa [show k + 1 + (m - (k + 1)) = m by omega] at last

end Runs

section Sample

def phonePlugin : SftpPlugin := { dataDir := "/data" }

def phoneInfo : SftpConnectionInfo :=
  { ip := "192.0.2.7", port := 1739, user := "kdeconnect", password := "secret", path := "/", multiPaths := [], pathNames := [] }

/-- The phone is mounted, and a cleanup unmounts it. -/
def mountsAndCleans : List (Turn MountCall) :=
  ([.spawn (.mountDevice "phone" phoneInfo)] : List (Turn MountCall)) ++ List.replicate 4 (Turn.take 0) ++
  ([.spawn (.mountEnds 0 (.returned (.ok .mounted))), .take 1] : List (Turn MountCall)) ++ List.replicate 4 (Turn.take 0) ++
  ([.spawn (.cleanupDevice "phone")] : List (Turn MountCall)) ++ List.replicate 4 (Turn.take 2) ++
  ([.spawn (.unmountEnds 1 (.returned (.ok .unmounted))), .take 3] : List (Turn MountCall)) ++ List.replicate 4 (Turn.take 2)

def dropsConnection (pool : Tasks) : Bool :=
  match pool.next 2 with
  | some (.removeConnection other) => other = "phone"
  | _ => false

theorem next_of_dropsConnection {pool : Tasks} (drops : dropsConnection pool = true) : pool.next 2 = some (.removeConnection "phone") := by
  unfold dropsConnection at drops
  split at drops
  · rename_i about
    rw [about, of_decide_eq_true drops]
  · cases drops

theorem cleaned_up :
    (mountsAt phonePlugin (fun _ => true) mountsAndCleans 11).shared.mounted = ["/data/mounts/sftp-phone"] ∧
      mountPointFor phonePlugin.dataDir "phone" ∉
        (mountsAt phonePlugin (fun _ => true) mountsAndCleans mountsAndCleans.length).shared.mounted := by
  have passes : Pool.along SftpAction.exec (fun call : MountCall => program phonePlugin call.call)
      (fun pool turn => decide (Smooth phonePlugin "phone" pool turn)) (fun pool => decide (Quiet phonePlugin "phone" pool))
      (Pool.start (new (fun _ => true) [])) mountsAndCleans = true := by
    decide +kernel
  have smooth (k : Nat) (turn : Turn MountCall) (here : mountsAndCleans[k]? = some turn) :
      Smooth phonePlugin "phone" (mountsAt phonePlugin (fun _ => true) mountsAndCleans k) turn :=
    of_decide_eq_true ((Pool.along_after passes).1 k turn here)
  have quiet : Quiet phonePlugin "phone" (mountsAt phonePlugin (fun _ => true) mountsAndCleans mountsAndCleans.length) :=
    of_decide_eq_true (Pool.along_after passes).2
  refine ⟨by decide +kernel, ?_⟩
  refine (table_tells_the_truth phonePlugin (fun _ => true) mountsAndCleans "phone" smooth mountsAndCleans.length quiet).2
    21 2 ⟨rfl, rfl, next_of_dropsConnection (by decide +kernel)⟩ (by decide) fun j after within => ?_
  obtain rfl : j = mountsAndCleans.length := Nat.le_antisymm within after
  exact quiet

/-- The mount of the phone takes too long, and comes about when the plugin has given up waiting for it. -/
def mountsLate : List (Turn MountCall) :=
  ([.spawn (.mountDevice "phone" phoneInfo)] : List (Turn MountCall)) ++ List.replicate 8 (Turn.take 0) ++
    ([.spawn (.mountEnds 0 (.returned (.ok .mounted))), .take 1, .spawn (.runLeftover 0), .take 2,
    .take 2] : List (Turn MountCall))

def mountedUntold (pool : Tasks) : Bool :=
  decide (Quiet phonePlugin "phone" pool) &&
    decide (pool.shared.mounts.lookup "phone" = some (.failed "sshfs mount timed out after 10s")) &&
    decide (mountPointFor phonePlugin.dataDir "phone" ∈ pool.shared.mounted)

theorem late_mount_untold : ¬ ∀ (plugin : SftpPlugin) (choices : Nat → Bool) (turns : List (Turn MountCall)) (d : DeviceId) (m : Nat),
    Quiet plugin d (mountsAt plugin choices turns m) →
      ((mountsAt plugin choices turns m).shared.mounts.lookup d = some .mounted ↔
        mountPointFor plugin.dataDir d ∈ (mountsAt plugin choices turns m).shared.mounted) := by
  intro always
  have passes : Pool.along SftpAction.exec (fun call : MountCall => program phonePlugin call.call) (fun _ _ => true) mountedUntold
      (Pool.start (new (fun _ => true) [])) mountsLate = true := by
    decide +kernel
  have final : mountedUntold (mountsAt phonePlugin (fun _ => true) mountsLate mountsLate.length) = true := (Pool.along_after passes).2
  simp only [mountedUntold, Bool.and_eq_true, decide_eq_true_eq] at final
  obtain ⟨⟨quiet, table⟩, mounted⟩ := final
  have told := (always phonePlugin (fun _ => true) mountsLate "phone" mountsLate.length quiet).mpr mounted
  rw [table] at told
  cases told

end Sample

end Sftp

end RustConnect
