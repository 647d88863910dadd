import Mathlib
import RustConnect.Base.Pool
import RustConnect.RegistryCap

namespace RustConnect

open Program RegistryReload

inductive LifecycleError
  | registry (error : Error)
  | invalidStateTransition (old new : DeviceState)
  deriving DecidableEq, Repr

/-- The event `StateChanged`. -/
structure StateChange where
  deviceId : DeviceId
  old : DeviceState
  new : DeviceState
  deriving DecidableEq, Repr

/-- The registry with the set of paired devices and the clock, and the events that were broadcast. -/
structure LifecycleState where
  devices : Devices := ∅
  paired : Table DeviceId Time := ∅
  now : Time := 0
  events : List StateChange := []

/-- What `LifecycleManager` does, one lock scope or broadcast at a time. -/
inductive LifecycleAction
  | registry (action : RegistryAction)
  | now
  | changeState (deviceId : DeviceId) (state : DeviceState)
  | get (deviceId : DeviceId)
  | update (device : Device)
  | broadcast (change : StateChange)
  | pass (duration : Time)

namespace LifecycleAction

@[reducible] def Answer : LifecycleAction → Type
  | registry action => action.Answer
  | now => Time
  | changeState _ _ => Except LifecycleError (Option DeviceState)
  | get _ => Option Device
  | update _ => Bool
  | broadcast _ => Unit
  | pass _ => Unit

/-- The closure that `transition` runs on a record: the state that was left, if it was left. -/
def enter (now : Time) (state : DeviceState) (device : Device) : Except LifecycleError (Option DeviceState) × Device :=
  if device.state = state then (.ok none, device)
  else if !device.state.canTransitionTo state then (.error (.invalidStateTransition device.state state), device)
  else (.ok (some device.state),
    { device with
      state := state
      stateSince := now
      lastSeen := now
      pairedAt := if state = .paired then some now else device.pairedAt })

def exec : (action : LifecycleAction) → LifecycleState → action.Answer × LifecycleState
  | registry action, s => ((action.exec s.paired s.now s.devices).1, { s with devices := (action.exec s.paired s.now s.devices).2 })
  | now, s => (s.now, s)
  | changeState d state, s => ((DeviceRegistry.modify .registry d (enter s.now state) s.devices).1,
    { s with devices := (DeviceRegistry.modify .registry d (enter s.now state) s.devices).2 })
  | get d, s => (s.devices.lookup d, s)
  | update device, s =>
    if (s.devices.lookup device.id).isSome then (true, { s with devices := s.devices.insert device.id device }) else (false, s)
  | broadcast change, s => ((), { s with events := s.events ++ [change] })
  | pass duration, s => ((), { s with now := s.now + duration })

end LifecycleAction

abbrev LifecycleProgram := Program LifecycleAction LifecycleAction.Answer

namespace LifecycleManager

open LifecycleAction

@[simp] def perform (action : LifecycleAction) : LifecycleProgram action.Answer := Program.call action

def transition (deviceId : DeviceId) (newState : DeviceState) : ExceptT LifecycleError LifecycleProgram Unit := do
  match ← ExceptT.mk (perform (changeState deviceId newState)) with
  | none => return
  | some oldState => perform (broadcast ⟨deviceId, oldState, newState⟩)

/-- A device that is not known is registered; `true` when it was. A known one takes over its identity. -/
def ensureRegistered (deviceId : DeviceId) (identity : Identity) : ExceptT LifecycleError LifecycleProgram Bool := do
  if ← perform (registry (.contains deviceId)) then
    if !(← perform (registry (.adoptIdentity deviceId identity))) then
      throw (.registry (.deviceNotFound deviceId))
    return false
  else
    let moment ← perform now
    perform (registry (.add (.ofIdentity deviceId identity moment)))

/-- The way of a new record to Disconnected leads through Connected. -/
def fastForward (deviceId : DeviceId) : ExceptT LifecycleError LifecycleProgram Unit := do
  match ← perform (get deviceId) with
  | none => throw (.registry (.deviceNotFound deviceId))
  | some device =>
    let moment ← perform now
    if !(← perform (update { device with state := .connected, stateSince := moment })) then
      throw (.registry (.deviceNotFound deviceId))
    perform (broadcast ⟨deviceId, device.state, .connected⟩)

def ensureAndTransition (deviceId : DeviceId) (identity : Identity) (newState : DeviceState) :
    ExceptT LifecycleError LifecycleProgram Unit := do
  let autoCreated ← ensureRegistered deviceId identity
  if autoCreated && newState == .disconnected then
    fastForward deviceId
  transition deviceId newState

/-- Every error is logged and dropped. -/
def tryTransition (deviceId : DeviceId) (newState : DeviceState) : LifecycleProgram Unit := attempt (transition deviceId newState)

end LifecycleManager

/-- The calls that are made for one device, and that time passes. -/
inductive LifecycleCall
  | transition (state : DeviceState)
  | tryTransition (state : DeviceState)
  | ensureAndTransition (identity : Identity) (state : DeviceState)
  | waits (duration : Time)

namespace Lifecycle

open LifecycleAction LifecycleManager

variable (d : DeviceId)

def program : LifecycleCall → LifecycleProgram Unit
  | .transition state => attempt (LifecycleManager.transition d state)
  | .tryTransition state => LifecycleManager.tryTransition d state
  | .ensureAndTransition identity state => attempt (LifecycleManager.ensureAndTransition d identity state)
  | .waits duration => perform (pass duration)

def atTurn (start : LifecycleState) (turns : List (Turn LifecycleCall)) (k : Nat) :
    Pool LifecycleAction LifecycleAction.Answer LifecycleState :=
  Pool.after LifecycleAction.exec (program d) start turns k

/-- The state that is stored for the device. -/
def stored (s : LifecycleState) : Option DeviceState := (s.devices.lookup d).map Device.state

/-- Each event takes up the state in which the one before has left the device,
and makes a transition that is allowed. -/
structure Chain (events : List StateChange) : Prop where
  linked : events.IsChain fun first second => first.new = second.old
  allowed : ∀ event ∈ events, event.old.canTransitionTo event.new = true

/-- Where a call is: it has changed the stored state and not said so yet, or
it has read a record that it is going to write back. -/
inductive Stage
  | free
  | read (device : Device)
  | changed (old new : DeviceState)
  deriving DecidableEq

def move : Stage → (action : LifecycleAction) → action.Answer → Option Stage
  | stage, registry (.contains _), _ | stage, registry (.adoptIdentity _ _), _ | stage, now, _ | stage, .pass _, _ => some stage
  | stage, registry (.add device), _ => if device.id = d then some stage else none
  | .free, changeState e state, .ok (some old) => if e = d then some (.changed old state) else none
  | .free, changeState e _, _ => if e = d then some .free else none
  | .free, .get e, found => if e = d then some (found.elim .free .read) else none
  | .read device, update written, known =>
    if written.id = device.id ∧ written.state = .connected then
      some (if known then .changed device.state .connected else .free)
    else none
  | .changed old new, broadcast change, _ => if change = ⟨d, old, new⟩ then some .free else none
  | _, _, _ => none

example : move d .free (.get d) none = some .free := by simp [move]

def stageOf (pool : Pool LifecycleAction LifecycleAction.Answer LifecycleState) : Nat → Stage :=
  Pool.reached (move d) .free pool.trace

/-- No call changes the stored state, or reads the record to write it back,
while another one that has done so has not told its event yet. -/
def Exclusive (pool : Pool LifecycleAction LifecycleAction.Answer LifecycleState) : Turn LifecycleCall → Prop
  | .spawn _ => True
  | .take task => ∀ action later, pool.next task = some action →
    move d (stageOf d pool task) action (action.exec pool.shared).1 = some later → later ≠ .free →
    ∀ other ≠ task, stageOf d pool other = .free

section Calls

variable {d}

theorem follows_transition (state : DeviceState) :
    Follows (move d) .free (LifecycleManager.transition d state).run fun later _ => later = .free := by
  intro answer
  cases answer with
  | error e => exact ⟨.free, by simp [move], rfl⟩
  | ok old =>
    cases old with
    | none => exact ⟨.free, by simp [move], rfl⟩
    | some old => exact ⟨.changed old state, by simp [move], fun _ => ⟨.free, by simp [move], rfl⟩⟩

theorem follows_ensureRegistered (identity : Identity) :
    Follows (move d) .free (ensureRegistered d identity).run fun later _ => later = .free := by
  intro known
  refine ⟨.free, rfl, ?_⟩
  cases known with
  | true =>
    intro still
    refine ⟨.free, rfl, ?_⟩
    cases still with
    | true => rfl
    | false => rfl
  | false =>
    intro moment
    exact ⟨.free, rfl, fun added => ⟨.free, by simp [move, Device.ofIdentity, Device.new], rfl⟩⟩

theorem follows_fastForward : Follows (move d) .free (fastForward d).run fun later _ => later = .free := by
  intro found
  cases found with
  | none => exact ⟨.free, by simp [move], rfl⟩
  | some device =>
    refine ⟨.read device, by simp [move], fun moment => ⟨.read device, rfl, fun known => ?_⟩⟩
    cases known with
    | false => exact ⟨.free, by simp [move], rfl⟩
    | true => exact ⟨.changed device.state .connected, by simp [move], fun _ => ⟨.free, by simp [move], rfl⟩⟩

theorem follows_ensureAndTransition (identity : Identity) (state : DeviceState) :
    Follows (move d) .free (LifecycleManager.ensureAndTransition d identity state).run fun later _ => later = .free := by
  refine (follows_except_bind _ _ _).mpr ((follows_ensureRegistered identity).weaken ?_)
  rintro later (e | autoCreated) rfl
  · rfl
  · show Follows (move d) .free (ExceptT.run (if (autoCreated && state == .disconnected) = true then _ else _)) _
    split
    · refine (follows_except_bind _ _ _).mpr (follows_fastForward.weaken ?_)
      rintro later (e | _) rfl
      · rfl
      · exact follows_transition state
    · exact follows_transition state

theorem follows_call (call : LifecycleCall) : Follows (move d) .free (program d call) fun later _ => later = .free := by
  cases call with
  | transition state => exact (follows_attempt _ _).mpr (follows_transition state)
  | tryTransition state => exact (follows_attempt _ _).mpr (follows_transition state)
  | ensureAndTransition identity state => exact (follows_attempt _ _).mpr (follows_ensureAndTransition identity state)
  | waits duration => exact fun _ => ⟨.free, rfl, rfl⟩

end Calls

/-- The last event tells the stored state. -/
def Settled (current : Option DeviceState) (events : List StateChange) : Prop :=
  ∀ last, events.getLast? = some last → current = some last.new

/-- How the stored state and the events stand while one call is at this stage and all others are free. -/
def Fits (current : Option DeviceState) (events : List StateChange) : Stage → Prop
  | .free => Settled current events
  | .read device => device.id = d ∧ current = some device.state ∧ Settled current events
  | .changed old new => current = some new ∧ old.canTransitionTo new = true ∧ ∀ last, events.getLast? = some last → last.new = old

structure Told (current : Option DeviceState) (events : List StateChange) (stages : Nat → Stage) : Prop where
  chain : Chain events
  one : ∃ task, (∀ other ≠ task, stages other = .free) ∧ Fits d current events (stages task)

variable {d} {current : Option DeviceState} {events : List StateChange} {stages : Nat → Stage} {task : Nat} {later : Stage}

theorem Told.settled (told : Told d current events stages) (free : ∀ other, stages other = .free) : Settled current events := by
  obtain ⟨task, -, fits⟩ := told.one
  rwa [free task] at fits

/-- A call that is not free is the one that is spoken of. -/
theorem Told.fits (told : Told d current events stages) (busy : stages task ≠ .free) :
    (∀ other ≠ task, stages other = .free) ∧ Fits d current events (stages task) := by
  obtain ⟨one, others, fits⟩ := told.one
  have same : task = one := by
    by_contra apart
    exact busy (others task apart)
  subst same
  exact ⟨others, fits⟩

theorem Told.enter (told : Told d current events stages) (others : ∀ other ≠ task, stages other = .free) {current' : Option DeviceState}
    (fits : Fits d current' events later) : Told d current' events (Function.update stages task later) := by
  refine ⟨told.chain, task, fun other apart => ?_, ?_⟩
  · rw [Function.update_of_ne apart]
    exact others other apart
  · rwa [Function.update_self]

theorem Chain.snoc (chain : Chain events) {event : StateChange} (follows : ∀ last, events.getLast? = some last → last.new = event.old)
    (allowed : event.old.canTransitionTo event.new = true) : Chain (events ++ [event]) := by
  refine ⟨?_, fun other member => ?_⟩
  · rw [List.isChain_append]
    refine ⟨chain.linked, List.isChain_singleton _, fun last here next there => ?_⟩
    obtain rfl : event = next := by simpa using there
    exact follows last here
  · rcases List.mem_append.mp member with before | new
    · exact chain.allowed other before
    · rw [List.mem_singleton.mp new]
      exact allowed

theorem Told.tell (told : Told d current events stages) {old new : DeviceState} (stage : stages task = .changed old new) :
    Told d current (events ++ [⟨d, old, new⟩]) (Function.update stages task .free) := by
  obtain ⟨others, fits⟩ := told.fits (by rw [stage]; nofun)
  rw [stage] at fits
  obtain ⟨stored, allowed, follows⟩ := fits
  refine ⟨told.chain.snoc follows allowed, task, fun other apart => ?_, ?_⟩
  · rw [Function.update_of_ne apart]
    exact others other apart
  · rw [Function.update_self]
    intro last here
    obtain rfl : ⟨d, old, new⟩ = last := by simpa using here
    exact stored

theorem canTransitionTo_connected (state : DeviceState) : state.canTransitionTo .connected = true := by cases state <;> rfl

/-- The only way to a first record is to register it. -/
theorem Told.create (told : Told d none events stages) (state : Option DeviceState) : Told d state events stages := by
  obtain ⟨task, others, fits⟩ := told.one
  refine ⟨told.chain, task, others, ?_⟩
  cases stage : stages task with
  | free =>
    rw [stage] at fits
    intro last here
    cases fits last here
  | read device =>
    rw [stage] at fits
    cases fits.2.1
  | changed old new =>
    rw [stage] at fits
    cases fits.1

section Exec

variable {s : LifecycleState}

theorem stored_insert {e : DeviceId} {device : Device} : stored d { s with devices := s.devices.insert e device } =
    if d = e then some device.state else stored d s := by
  unfold stored
  rw [Table.lookup_insert_of]
  split <;> rfl

theorem enter_id (now : Time) (state : DeviceState) (device : Device) : (enter now state device).2.id = device.id := by
  unfold enter
  split
  · rfl
  split
  · rfl
  · rfl

/-- The lock scope of `transition` on a known record. -/
theorem exec_changeState_known {device : Device} (found : s.devices.lookup d = some device) (state : DeviceState) :
    (changeState d state).exec s = ((enter s.now state device).1, { s with devices := s.devices.insert d (enter s.now state device).2 }) := by
  simp [exec, DeviceRegistry.modify, found, enter_id]

/-- What `transition` does under the lock. -/
theorem exec_changeState (state : DeviceState) :
    (∃ e, ((changeState d state).exec s).1 = .error e ∧ stored d ((changeState d state).exec s).2 = stored d s) ∨
    (((changeState d state).exec s).1 = .ok none ∧ stored d ((changeState d state).exec s).2 = stored d s) ∨
    ∃ old, ((changeState d state).exec s).1 = .ok (some old) ∧ stored d s = some old ∧ old.canTransitionTo state = true ∧
      stored d ((changeState d state).exec s).2 = some state := by
  cases found : s.devices.lookup d with
  | none =>
    have unknown : (changeState d state).exec s = (.error (.registry (.deviceNotFound d)), s) := by
      simp [exec, DeviceRegistry.modify, found]
    rw [unknown]
    exact .inl ⟨_, rfl, rfl⟩
  | some device =>
    have before : stored d s = some device.state := by simp [stored, found]
    rw [exec_changeState_known found, stored_insert, if_pos rfl, before]
    unfold enter
    split
    · exact .inr (.inl ⟨rfl, rfl⟩)
    split
    · exact .inl ⟨_, rfl, rfl⟩
    · rename_i allowed
      exact .inr (.inr ⟨device.state, rfl, rfl, by simpa using allowed, rfl⟩)

theorem stored_adoptIdentity (e : DeviceId) (identity : Identity) :
    stored d ((registry (.adoptIdentity e identity)).exec s).2 = stored d s := by
  cases found : s.devices.lookup e with
  | none => simp [exec, RegistryAction.exec, DeviceRegistry.adoptIdentity, found]
  | some device =>
    have same (name : String) (deviceType : DeviceType) (version : UInt32) (incoming outgoing : List String) :
        (device.adopt name deviceType version incoming outgoing).state = device.state := by
      unfold Device.adopt Device.applyCapabilityUpdate
      split <;> rfl
    simp only [exec, RegistryAction.exec, DeviceRegistry.adoptIdentity, found, stored_insert]
    split
    · rename_i here
      subst here
      simp [stored, found, same]
    · rfl

/-- A record that is there is not registered again. -/
theorem stored_add {device : Device} (own : device.id = d) :
    stored d ((registry (.add device)).exec s).2 = stored d s ∨ stored d s = none := by
  subst own
  cases found : s.devices.lookup device.id with
  | none => exact .inr (by simp [stored, found])
  | some record => exact .inl (by simp [exec, RegistryAction.exec, DeviceRegistry.add, found])

end Exec

/-- The records stay under their ids, and the events tell the stored states. -/
structure Faithful (d : DeviceId) (s : LifecycleState) (stages : Nat → Stage) : Prop where
  keyed : Keyed s.devices
  told : Told d (stored d s) s.events stages

variable {s : LifecycleState}

theorem keyed_exec (keyed : Keyed s.devices) (action : LifecycleAction) : Keyed (action.exec s).2.devices := by
  cases action with
  | registry action => exact keyed.edit (.registry action)
  | changeState e state =>
    show Keyed (DeviceRegistry.modify .registry e (enter s.now state) s.devices).2
    unfold DeviceRegistry.modify
    split
    · exact keyed
    · rename_i original found
      split
      · exact keyed
      · exact keyed.insert ((enter_id _ _ _).trans (keyed e original found))
  | update device =>
    simp only [exec]
    split
    · exact keyed.insert rfl
    · exact keyed
  | now | get _ | broadcast _ | pass _ => exact keyed

theorem Faithful.exec (faithful : Faithful d s stages) {action : LifecycleAction}
    (moved : move d (stages task) action (action.exec s).1 = some later)
    (exclusive : later ≠ .free → ∀ other ≠ task, stages other = .free) :
    Faithful d (action.exec s).2 (Function.update stages task later) := by
  refine ⟨keyed_exec faithful.keyed action, ?_⟩
  have told := faithful.told
  have stays {current : Option DeviceState} (same : stages task = later) (kept : Told d current s.events stages) :
      Told d current s.events (Function.update stages task later) := by
    rwa [← same, Function.update_eq_self]
  have alone (free : stages task = .free) (busy : later ≠ .free) (other : Nat) : stages other = .free := by
    by_cases here : other = task
    · rw [here, free]
    · exact exclusive busy other here
  unfold move at moved
  split at moved
  case h_1 | h_3 | h_4 => exact stays (Option.some.inj moved) told
  case h_2 e identity =>
    refine stays (Option.some.inj moved) ?_
    rw [stored_adoptIdentity]
    exact told
  case h_11 => cases moved
  all_goals (split at moved; swap; · cases moved)
  case h_5 own =>
    refine stays (Option.some.inj moved) ?_
    rcases stored_add own with same | none
    · rw [same]
      exact told
    · rw [none] at told
      exact told.create _
  case h_6 state old free answer own =>
    subst own
    obtain rfl := Option.some.inj moved
    have settled := told.settled (alone free nofun)
    refine told.enter (exclusive nofun) ?_
    rcases exec_changeState state with ⟨e, failed, -⟩ | ⟨same, -⟩ | ⟨left, entered, before, allowed, after⟩
    · cases answer.symm.trans failed
    · cases answer.symm.trans same
    · obtain rfl : old = left := by
        cases answer.symm.trans entered
        rfl
      exact ⟨after, allowed, fun last here => Option.some.inj ((settled last here).symm.trans before)⟩
  case h_7 state free unchanged own =>
    subst own
    refine stays (free.trans (Option.some.inj moved)) ?_
    rcases exec_changeState state with ⟨e, -, same⟩ | ⟨-, same⟩ | ⟨left, entered, -⟩
    · rw [same]
      exact told
    · rw [same]
      exact told
    · exact (unchanged left entered).elim
  case h_8 e free own =>
    subst own
    cases found : s.devices.lookup e with
    | none =>
      have same : Stage.free = later := by simpa [LifecycleAction.exec, found] using moved
      exact stays (free.trans same) told
    | some device =>
      obtain rfl : Stage.read device = later := by simpa [LifecycleAction.exec, found] using moved
      have settled := told.settled (alone free nofun)
      exact told.enter (exclusive nofun) ⟨faithful.keyed e device found, by simp [LifecycleAction.exec, stored, found], settled⟩
  case h_9 device written stage fitting =>
    obtain ⟨others, fits⟩ := told.fits (by rw [stage]; nofun)
    rw [stage] at fits
    obtain ⟨own, before, settled⟩ := fits
    obtain ⟨record, found, -⟩ := Option.map_eq_some_iff.mp before
    obtain rfl : written.id = d := fitting.1.trans own
    have known : (update written).exec s = (true, { s with devices := s.devices.insert written.id written }) := by
      simp [LifecycleAction.exec, found]
    obtain rfl : Stage.changed device.state .connected = later := by simpa [known] using moved
    rw [known]
    refine told.enter others ⟨?_, canTransitionTo_connected _, fun last here => ?_⟩
    · rw [stored_insert, if_pos rfl, fitting.2]
    · exact Option.some.inj ((settled last here).symm.trans before)
  case h_10 stage same =>
    subst same
    obtain rfl := Option.some.inj moved
    exact told.tell stage

/-- When no two calls for the device change its stored state, or read its
record to write it back, before the first of them has told its event, the
events form one chain, whose end is the stored state when all calls have returned. -/
theorem events_form_chain (d : DeviceId) (start : LifecycleState) (keyed : Keyed start.devices) (first : start.events = [])
    (turns : List (Turn LifecycleCall))
    (exclusive : ∀ k turn, turns[k]? = some turn → Exclusive d (atTurn d start turns k) turn) (k : Nat) :
    Chain (atTurn d start turns k).shared.events ∧
      ((atTurn d start turns k).Idle → Settled (stored d (atTurn d start turns k).shared) (atTurn d start turns k).shared.events) := by
  have invariant : Pool.Invariant (move d) .free (fun stage => stage = .free) LifecycleAction.exec (program d) (Exclusive d)
      fun s stages trace => (∀ task, Pool.reached (move d) .free trace task = stages task) ∧ Faithful d s stages := by
    refine ⟨follows_call, fun pool stages task action later holds next allowed moved => ?_⟩
    obtain ⟨same, faithful⟩ := holds
    have exclusive := allowed action later next (by rw [stageOf, same]; exact moved)
    simp only [stageOf, same] at exclusive
    exact ⟨Pool.reached_append same moved, faithful.exec moved exclusive⟩
  have begins : Faithful d start fun _ => .free := by
    refine ⟨keyed, ?_, 0, fun _ _ => rfl, ?_⟩
    · rw [first]
      exact ⟨.nil, nofun⟩
    · rw [first]
      exact nofun
  obtain ⟨stages, phased, -, faithful⟩ := invariant.run ⟨fun _ => rfl, begins⟩ exclusive k
  refine ⟨faithful.told.chain, fun idle => faithful.told.settled fun task => ?_⟩
  rcases phased.idle idle task with free | free
  · exact free
  · exact free

section Sample

def samplePhone : Identity := ⟨"phone", "Phone", "phone", 8, [], [], none, none, none⟩

/-- A phone that was not known is told to be disconnected, and then to be connected. -/
def oneByOne : List (Turn LifecycleCall) :=
  (.spawn (.ensureAndTransition samplePhone .disconnected) :: List.replicate 9 (.take 0) : List (Turn LifecycleCall)) ++
  (.spawn (.tryTransition .connected) :: List.replicate 2 (.take 1) : List (Turn LifecycleCall))

/-- The turn begins no change while the other call has one under way. -/
def keepsApart (pool : Pool LifecycleAction LifecycleAction.Answer LifecycleState) : Turn LifecycleCall → Bool
  | .spawn _ => true
  | .take task => pool.trace.all (fun entry => entry.1 < 2) && (pool.next task).all fun action =>
    (move "phone" (stageOf "phone" pool task) action (action.exec pool.shared).1).all fun later =>
      later == .free || (List.range 2).all fun other => other == task || stageOf "phone" pool other == .free

theorem exclusive_of_keepsApart {pool : Pool LifecycleAction LifecycleAction.Answer LifecycleState} {turn : Turn LifecycleCall}
    (apart : keepsApart pool turn = true) : Exclusive "phone" pool turn := by
  cases turn with
  | spawn call => trivial
  | take task =>
    intro action later next moved busy other different
    simp only [keepsApart, next, moved, Option.all_some, Bool.and_eq_true, List.all_eq_true, Bool.or_eq_true, beq_iff_eq,
      List.mem_range, decide_eq_true_eq] at apart
    obtain ⟨tasks, free⟩ := apart
    by_cases inside : other < 2
    · exact ((free.resolve_left busy) other inside).resolve_left different
    · exact Pool.reached_absent fun entry member same => inside (same ▸ tasks entry member)

/-- Both calls have returned and have told three changes. -/
def toldThree (pool : Pool LifecycleAction LifecycleAction.Answer LifecycleState) : Bool :=
  (List.range pool.tasks.length).all (fun task => (pool.next task).isNone) && pool.shared.events.length == 3

theorem told_three :
    (atTurn "phone" {} oneByOne oneByOne.length).shared.events.length = 3 ∧
      Chain (atTurn "phone" {} oneByOne oneByOne.length).shared.events ∧
      Settled (stored "phone" (atTurn "phone" {} oneByOne oneByOne.length).shared)
        (atTurn "phone" {} oneByOne oneByOne.length).shared.events := by
  have passes : Pool.along LifecycleAction.exec (program "phone") keepsApart toldThree (Pool.start {}) oneByOne = true := by
    decide +kernel
  obtain ⟨apart, final⟩ : (∀ k turn, oneByOne[k]? = some turn → keepsApart (atTurn "phone" {} oneByOne k) turn = true) ∧
      toldThree (atTurn "phone" {} oneByOne oneByOne.length) = true := Pool.along_after passes
  rw [toldThree, Bool.and_eq_true, List.all_eq_true, beq_iff_eq] at final
  have idle : (atTurn "phone" {} oneByOne oneByOne.length).Idle :=
    Pool.idle_of_ended fun task inside => final.1 task (List.mem_range.mpr inside)
  obtain ⟨chain, settled⟩ := events_form_chain "phone" {} keyed_empty rfl oneByOne
    (fun k turn here => exclusive_of_keepsApart (apart k turn here)) oneByOne.length
  exact ⟨final.2, chain, settled idle⟩

def connectedPhone : LifecycleState where
  devices := AList.insert "phone" { Device.new "phone" "Phone" .phone 8 0 with state := .connected } ∅

/-- Between the change and the event of one call, another one connects the phone again and says so. -/
def crossed : List (Turn LifecycleCall) :=
  [.spawn (.tryTransition .disconnected), .take 0, .spawn (.tryTransition .connected), .take 1, .take 1, .take 0]

/-- All calls have returned, and the last event does not tell the stored state. -/
def outOfDate (pool : Pool LifecycleAction LifecycleAction.Answer LifecycleState) : Bool :=
  (List.range pool.tasks.length).all (fun task => (pool.next task).isNone) &&
    pool.shared.events.getLast? == some ⟨"phone", .connected, .disconnected⟩ && stored "phone" pool.shared == some .connected

theorem last_event_out_of_date :
    ¬∀ (d : DeviceId) (start : LifecycleState) (turns : List (Turn LifecycleCall)) (k : Nat), Keyed start.devices → start.events = [] →
      Chain (atTurn d start turns k).shared.events ∧
        ((atTurn d start turns k).Idle → Settled (stored d (atTurn d start turns k).shared) (atTurn d start turns k).shared.events) := by
  have passes : Pool.along LifecycleAction.exec (program "phone") (fun _ _ => true) outOfDate (Pool.start connectedPhone) crossed = true := by
    decide +kernel
  have final : outOfDate (atTurn "phone" connectedPhone crossed crossed.length) = true := (Pool.along_after passes).2
  rw [outOfDate, Bool.and_eq_true, Bool.and_eq_true, List.all_eq_true, beq_iff_eq, beq_iff_eq] at final
  have idle : (atTurn "phone" connectedPhone crossed crossed.length).Idle :=
    Pool.idle_of_ended fun task inside => final.1.1 task (List.mem_range.mpr inside)
  intro never
  have settled := (never "phone" connectedPhone crossed crossed.length (keyed_empty.insert rfl) rfl).2 idle _ final.1.2
  rw [final.2] at settled
  cases settled

end Sample

end Lifecycle

end RustConnect
