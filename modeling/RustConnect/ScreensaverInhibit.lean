import RustConnect.Base.Custody
import RustConnect.Base.Table
import RustConnect.Types

namespace RustConnect

open Program

abbrev Cookie := UInt32

inductive InhibitState
  | idle
  | inhibiting
  | inhibited (cookie : Cookie)
  deriving DecidableEq, Repr

structure InhibitSlot where
  generation : UInt64 := 0
  state : InhibitState := .idle
  deriving DecidableEq, Repr

/-- The tasks that `on_connected` spawns. -/
inductive ScreensaverTask
  | release (deviceId : DeviceId) (cookie : Cookie)
  | inhibit (deviceId : DeviceId) (myGen : UInt64)
  deriving DecidableEq, Repr

/-- The plugin, its spawned tasks, which leave the list when they begin, and
the answers of the screensaver service to the calls of `inhibit`, in their order. -/
structure ScreensaverState where
  backend : Bool := false
  slots : Table DeviceId InhibitSlot := ∅
  spawned : List (Option ScreensaverTask) := []
  answers : Nat → Option Cookie
  asked : Nat := 0

namespace ScreensaverState

def slotOf (s : ScreensaverState) (d : DeviceId) : InhibitSlot := (s.slots.lookup d).getD {}

def setSlot (s : ScreensaverState) (d : DeviceId) (slot : InhibitSlot) : ScreensaverState :=
  { s with slots := s.slots.insert d slot }

theorem slotOf_setSlot (s : ScreensaverState) (d other : DeviceId) (slot : InhibitSlot) :
    (s.setSlot d slot).slotOf other = if other = d then slot else s.slotOf other := by
  unfold slotOf setSlot
  rw [Table.lookup_insert_of]
  split <;> rfl

end ScreensaverState

/-- What the plugin does, one lock scope, spawn or call of the service at a
time. The device of `inhibit` is the one on whose behalf it is called. -/
inductive ScreensaverAction
  | enableSessionBackend
  | backend
  | slotFor (deviceId : DeviceId)
  | beginConnect (deviceId : DeviceId)
  | beginDisconnect (deviceId : DeviceId)
  | spawn (task : ScreensaverTask)
  | start (index : Nat)
  | inhibit (deviceId : DeviceId)
  | settle (deviceId : DeviceId) (myGen : UInt64) (cookie : Cookie)
  | uninhibitAndStimulate (deviceId : DeviceId) (cookie : Cookie)

namespace ScreensaverAction

@[reducible] def Answer : ScreensaverAction → Type
  | enableSessionBackend => Unit
  | backend => Bool
  | slotFor _ => Unit
  | beginConnect _ => UInt64 × Option Cookie
  | beginDisconnect _ => InhibitState
  | spawn _ => Unit
  | start _ => Option ScreensaverTask
  | inhibit _ => Option Cookie
  | settle _ _ _ => Bool
  | uninhibitAndStimulate _ _ => Unit

def exec : (action : ScreensaverAction) → ScreensaverState → action.Answer × ScreensaverState
  | enableSessionBackend, s => ((), { s with backend := true })
  | backend, s => (s.backend, s)
  | slotFor d, s => ((), s.setSlot d (s.slotOf d))
  | beginConnect d, s =>
    let slot := s.slotOf d
    let old := match slot.state with
      | .inhibited c => some c
      | _ => none
    ((slot.generation + 1, old), s.setSlot d { generation := slot.generation + 1, state := .inhibiting })
  | beginDisconnect d, s =>
    let slot := s.slotOf d
    (slot.state, s.setSlot d { generation := slot.generation + 1, state := .idle })
  | spawn task, s => ((), { s with spawned := s.spawned ++ [some task] })
  | start index, s => (s.spawned[index]?.join, { s with spawned := s.spawned.set index none })
  | inhibit _, s => (s.answers s.asked, { s with asked := s.asked + 1 })
  | settle d myGen cookie, s =>
    let slot := s.slotOf d
    if slot.generation ≠ myGen then (true, s)
    else (false, s.setSlot d { slot with state := .inhibited cookie })
  | uninhibitAndStimulate _ _, s => ((), s)

end ScreensaverAction

abbrev ScreensaverProgram := Program ScreensaverAction ScreensaverAction.Answer

namespace ScreensaverInhibit

def perform (action : ScreensaverAction) : ScreensaverProgram action.Answer := call action

/-- Only the log tells whether the call came back in time. -/
def boundedUninhibit (d : DeviceId) (cookie : Cookie) : ScreensaverProgram Unit := perform (.uninhibitAndStimulate d cookie)

def beginConnect (d : DeviceId) : ScreensaverProgram (UInt64 × Option Cookie) := do
  perform (.slotFor d)
  perform (.beginConnect d)

def beginDisconnect (d : DeviceId) : ScreensaverProgram InhibitState := do
  perform (.slotFor d)
  perform (.beginDisconnect d)

def onConnected (d : DeviceId) : ScreensaverProgram Unit := do
  if !(← perform .backend) then return
  let (myGen, oldCookie) ← beginConnect d
  if let some old := oldCookie then
    perform (.spawn (.release d old))
  perform (.spawn (.inhibit d myGen))

/-- The task that `on_connected` spawns for the call of the service. -/
def inhibitTask (d : DeviceId) (myGen : UInt64) : ScreensaverProgram Unit := do
  match ← perform (.inhibit d) with
  | none => return
  | some cookie =>
    let releaseNow ← perform (.settle d myGen cookie)
    if releaseNow then
      boundedUninhibit d cookie

def onDisconnected (d : DeviceId) : ScreensaverProgram Unit := do
  match ← beginDisconnect d with
  | .inhibited cookie =>
    if !(← perform .backend) then return
    boundedUninhibit d cookie
  | .inhibiting => return
  | .idle => return

/-- The runtime begins a spawned task. -/
def runSpawned (index : Nat) : ScreensaverProgram Unit := do
  match ← perform (.start index) with
  | none => return
  | some (.release d cookie) => boundedUninhibit d cookie
  | some (.inhibit d myGen) => inhibitTask d myGen

inductive Call
  | enableSessionBackend
  | onConnected (deviceId : DeviceId)
  | onDisconnected (deviceId : DeviceId)
  | runSpawned (index : Nat)

def program : Call → ScreensaverProgram Unit
  | .enableSessionBackend => perform .enableSessionBackend
  | .onConnected d => onConnected d
  | .onDisconnected d => onDisconnected d
  | .runSpawned index => runSpawned index

abbrev Tasks := Pool ScreensaverAction ScreensaverAction.Answer ScreensaverState

abbrev Trace := List (Nat × Σ action : ScreensaverAction, action.Answer)

/-- The plugin as it is made, before a screensaver service with these answers. -/
def new (answers : Nat → Option Cookie) : ScreensaverState := { answers }

def atTurn (answers : Nat → Option Cookie) (turns : List (Turn Call)) (k : Nat) : Tasks :=
  Pool.after ScreensaverAction.exec program (new answers) turns k

/-- The cookies that were obtained, with the devices they are for. -/
def obtained (trace : Trace) : List (DeviceId × Cookie) :=
  trace.filterMap fun entry => match entry.2 with
    | ⟨.inhibit d, some cookie⟩ => some (d, cookie)
    | _ => none

/-- The cookies that were given to `uninhibit_and_stimulate`. -/
def uninhibited (trace : Trace) : List (DeviceId × Cookie) :=
  trace.filterMap fun entry => match entry.2 with
    | ⟨.uninhibitAndStimulate d cookie, _⟩ => some (d, cookie)
    | _ => none

/-- The critical sections of the two calls, each with its device and whether it connects. -/
def sections (trace : Trace) : List (DeviceId × Bool) :=
  trace.filterMap fun entry => match entry.2 with
    | ⟨.beginConnect d, _⟩ => some (d, true)
    | ⟨.beginDisconnect d, _⟩ => some (d, false)
    | _ => none

/-- The last of the two calls for the device was `on_disconnected`. -/
def LastDisconnected (d : DeviceId) (trace : Trace) : Prop :=
  ((sections trace).filter fun entry => entry.1 = d).getLast? = some (d, false)

/-- The cookie is handed to uninhibit: the call is made, or it is all that a
task or a spawned task has still to do. -/
def Handed (pool : Tasks) (d : DeviceId) (cookie : Cookie) : Prop :=
  (d, cookie) ∈ uninhibited pool.trace ∨ (∃ index : Nat, pool.shared.spawned[index]? = some (some (.release d cookie))) ∨
    ∃ task, pool.next task = some (.uninhibitAndStimulate d cookie)

/-- No inhibit task for the device is spawned, and no task has anything to do
but to begin a spawned task or to lift an inhibition. -/
structure Quiet (pool : Tasks) (d : DeviceId) : Prop where
  spawned : ∀ (index : Nat) myGen, pool.shared.spawned[index]? ≠ some (some (.inhibit d myGen))
  tasks : ∀ task action, pool.next task = some action →
    (∃ index, action = .start index) ∨ ∃ other cookie, action = .uninhibitAndStimulate other cookie

section Phases

inductive Phase
  | free
  | connecting
  | begun (d : DeviceId) (myGen : UInt64) (old : Option Cookie)
  | disconnecting (d : DeviceId) (cookie : Cookie)
  | inhibiting (d : DeviceId) (myGen : UInt64)
  | holding (d : DeviceId) (myGen : UInt64) (cookie : Cookie)
  | releasing (d : DeviceId) (cookie : Cookie)
  deriving DecidableEq

def move : Phase → (action : ScreensaverAction) → action.Answer → Option Phase
  | .free, .enableSessionBackend, _ => some .free
  | .free, .backend, true => some .connecting
  | .free, .backend, false => some .free
  | .free, .slotFor _, _ => some .free
  | .free, .beginDisconnect d, .inhibited cookie => some (.disconnecting d cookie)
  | .free, .beginDisconnect _, _ => some .free
  | .free, .start _, none => some .free
  | .free, .start _, some (.release d cookie) => some (.releasing d cookie)
  | .free, .start _, some (.inhibit d myGen) => some (.inhibiting d myGen)
  | .connecting, .slotFor _, _ => some .connecting
  | .connecting, .beginConnect d, (myGen, old) => some (.begun d myGen old)
  | .begun d myGen (some old), .spawn (.release d' cookie), _ =>
    if d = d' ∧ old = cookie then some (.begun d myGen none) else none
  | .begun d myGen none, .spawn (.inhibit d' other), _ => if d = d' ∧ myGen = other then some .free else none
  | .disconnecting d cookie, .backend, true => some (.releasing d cookie)
  | .disconnecting _ _, .backend, false => some .free
  | .inhibiting d _, .inhibit d', none => if d = d' then some .free else none
  | .inhibiting d myGen, .inhibit d', some cookie => if d = d' then some (.holding d myGen cookie) else none
  | .holding d myGen cookie, .settle d' other cookie', releaseNow =>
    if d = d' ∧ myGen = other ∧ cookie = cookie' then some (if releaseNow then .releasing d cookie else .free) else none
  | .releasing d cookie, .uninhibitAndStimulate d' cookie', _ => if d = d' ∧ cookie = cookie' then some .free else none
  | _, _, _ => none

theorem follows_boundedUninhibit (d : DeviceId) (cookie : Cookie) :
    Follows move (.releasing d cookie) (boundedUninhibit d cookie) fun later _ => later = .free :=
  fun _ => ⟨.free, if_pos ⟨rfl, rfl⟩, rfl⟩

theorem follows_inhibitTask (d : DeviceId) (myGen : UInt64) :
    Follows move (.inhibiting d myGen) (inhibitTask d myGen) fun later _ => later = .free := by
  intro answer
  cases answer with
  | none => exact ⟨.free, if_pos rfl, rfl⟩
  | some cookie =>
    refine ⟨.holding d myGen cookie, if_pos rfl, fun releaseNow => ⟨_, if_pos ⟨rfl, rfl, rfl⟩, ?_⟩⟩
    cases releaseNow with
    | true => exact follows_boundedUninhibit d cookie
    | false => rfl

theorem follows_onConnected (d : DeviceId) : Follows move .free (onConnected d) fun later _ => later = .free := by
  intro enabled
  cases enabled with
  | false => exact ⟨.free, rfl, rfl⟩
  | true =>
    refine ⟨.connecting, rfl, fun _ => ⟨.connecting, rfl, fun answer => ⟨.begun d answer.1 answer.2, rfl, ?_⟩⟩⟩
    obtain ⟨myGen, old⟩ := answer
    cases old with
    | none => exact fun _ => ⟨.free, if_pos ⟨rfl, rfl⟩, rfl⟩
    | some cookie => exact fun _ => ⟨.begun d myGen none, if_pos ⟨rfl, rfl⟩, fun _ => ⟨.free, if_pos ⟨rfl, rfl⟩, rfl⟩⟩

theorem follows_onDisconnected (d : DeviceId) : Follows move .free (onDisconnected d) fun later _ => later = .free := by
  refine fun _ => ⟨.free, rfl, fun taken => ?_⟩
  cases taken with
  | idle => exact ⟨.free, rfl, rfl⟩
  | inhibiting => exact ⟨.free, rfl, rfl⟩
  | inhibited cookie =>
    refine ⟨.disconnecting d cookie, rfl, fun enabled => ?_⟩
    cases enabled with
    | false => exact ⟨.free, rfl, rfl⟩
    | true => exact ⟨.releasing d cookie, rfl, follows_boundedUninhibit d cookie⟩

theorem follows_runSpawned (index : Nat) : Follows move .free (runSpawned index) fun later _ => later = .free := by
  intro answer
  rcases answer with _ | task
  · exact ⟨.free, rfl, rfl⟩
  · cases task with
    | release d cookie => exact ⟨.releasing d cookie, rfl, follows_boundedUninhibit d cookie⟩
    | inhibit d myGen => exact ⟨.inhibiting d myGen, rfl, follows_inhibitTask d myGen⟩

theorem follows_program (call : Call) : Follows move .free (program call) fun later _ => later = .free := by
  cases call with
  | enableSessionBackend => exact fun _ => ⟨.free, rfl, rfl⟩
  | onConnected d => exact follows_onConnected d
  | onDisconnected d => exact follows_onDisconnected d
  | runSpawned index => exact follows_runSpawned index

end Phases

section Account

def Phase.cookie : Phase → Option (DeviceId × Cookie)
  | .begun d _ (some old) => some (d, old)
  | .disconnecting d cookie => some (d, cookie)
  | .holding d _ cookie => some (d, cookie)
  | .releasing d cookie => some (d, cookie)
  | _ => none

def Phase.ticket : Phase → Option (DeviceId × UInt64)
  | .begun d myGen _ => some (d, myGen)
  | .inhibiting d myGen => some (d, myGen)
  | .holding d myGen _ => some (d, myGen)
  | _ => none

def cookieOf : ScreensaverTask → Option (DeviceId × Cookie)
  | .release d cookie => some (d, cookie)
  | .inhibit _ _ => none

def ticketOf : ScreensaverTask → Option (DeviceId × UInt64)
  | .release _ _ => none
  | .inhibit d myGen => some (d, myGen)

def cookieIn (d : DeviceId) : InhibitState → Option (DeviceId × Cookie)
  | .inhibited cookie => some (d, cookie)
  | _ => none

/-- Who has which cookie. -/
def cookies (s : ScreensaverState) (phases : Nat → Phase) : Holder DeviceId → Option (DeviceId × Cookie) :=
  Holder.held Phase.cookie cookieOf (fun d => cookieIn d (s.slotOf d).state) phases s.spawned

/-- Who is to store a cookie in the slot, and for which generation. -/
def tickets (s : ScreensaverState) (phases : Nat → Phase) : Holder DeviceId → Option (DeviceId × UInt64) :=
  Holder.held Phase.ticket ticketOf (fun _ => none) phases s.spawned

def outstanding (trace : Trace) : Set (DeviceId × Cookie) := {entry | entry ∈ obtained trace ∧ entry ∉ uninhibited trace}

/-- A ticket is for the present generation only while the slot waits for its cookie. -/
def InTime (s : ScreensaverState) (ticket : DeviceId × UInt64) : Prop :=
  ticket.2.toNat ≤ (s.slotOf ticket.1).generation.toNat ∧
    (ticket.2 = (s.slotOf ticket.1).generation → (s.slotOf ticket.1).state = .inhibiting)

/-- What the trace says of the cookies. -/
structure Recorded (s : ScreensaverState) (trace : Trace) : Prop where
  distinct : ∀ m n cookie, s.answers m = some cookie → s.answers n = some cookie → m = n
  counted : ∀ d, (s.slotOf d).generation.toNat ≤ (sections trace).length
  answered : ∀ entry ∈ obtained trace, ∃ n < s.asked, s.answers n = some entry.2
  once : ((obtained trace).map Prod.snd).Nodup
  lifted : (uninhibited trace).Nodup
  known : ∀ entry ∈ uninhibited trace, entry ∈ obtained trace

/-- Before there is a backend nothing is under way. -/
def Waits (s : ScreensaverState) (phases : Nat → Phase) : Prop :=
  s.backend = false → (∀ task, phases task = .free) ∧ (∀ d cookie, (s.slotOf d).state ≠ .inhibited cookie) ∧
    ∀ index : Nat, s.spawned[index]?.join = none

/-- Every outstanding cookie is in one place, and so is the right to store one in a slot. -/
structure Accounted (s : ScreensaverState) (phases : Nat → Phase) (trace : Trace) : Prop where
  cookies : Custody (outstanding trace) (cookies s phases)
  tickets : ∃ live, Custody live (tickets s phases) ∧ ∀ ticket ∈ live, InTime s ticket
  recorded : Recorded s trace
  waits : Waits s phases
  last : ∀ d, LastDisconnected d trace → (s.slotOf d).state = .idle

variable {s : ScreensaverState} {phases : Nat → Phase} {trace : Trace} {task : Nat} {later : Phase}

@[simp] theorem obtained_snoc (entry : Σ action : ScreensaverAction, action.Answer) :
    obtained (trace ++ [(task, entry)]) = obtained trace ++ obtained [(task, entry)] := List.filterMap_append

@[simp] theorem uninhibited_snoc (entry : Σ action : ScreensaverAction, action.Answer) :
    uninhibited (trace ++ [(task, entry)]) = uninhibited trace ++ uninhibited [(task, entry)] := List.filterMap_append

@[simp] theorem sections_snoc (entry : Σ action : ScreensaverAction, action.Answer) :
    sections (trace ++ [(task, entry)]) = sections trace ++ sections [(task, entry)] := List.filterMap_append

/-- Only the two calls and the end of an inhibit task change a slot. -/
theorem slotOf_exec (action : ScreensaverAction) (d : DeviceId) :
    (action.exec s).2.slotOf d = s.slotOf d ∨
    (action = .beginConnect d ∧ (action.exec s).2.slotOf d = ⟨(s.slotOf d).generation + 1, .inhibiting⟩) ∨
    (action = .beginDisconnect d ∧ (action.exec s).2.slotOf d = ⟨(s.slotOf d).generation + 1, .idle⟩) ∨
    ∃ cookie, action = .settle d (s.slotOf d).generation cookie ∧
      (action.exec s).2.slotOf d = ⟨(s.slotOf d).generation, .inhibited cookie⟩ := by
  cases action with
  | slotFor other =>
    left
    simp only [ScreensaverAction.exec, ScreensaverState.slotOf_setSlot]
    split
    · rename_i same
      rw [same]
    · rfl
  | beginConnect other =>
    by_cases same : d = other
    · subst same
      exact .inr (.inl ⟨rfl, by simp only [ScreensaverAction.exec, ScreensaverState.slotOf_setSlot, if_true]⟩)
    · exact .inl (by simp only [ScreensaverAction.exec, ScreensaverState.slotOf_setSlot, same, if_false])
  | beginDisconnect other =>
    by_cases same : d = other
    · subst same
      exact .inr (.inr (.inl ⟨rfl, by simp only [ScreensaverAction.exec, ScreensaverState.slotOf_setSlot, if_true]⟩))
    · exact .inl (by simp only [ScreensaverAction.exec, ScreensaverState.slotOf_setSlot, same, if_false])
  | settle other myGen cookie =>
    by_cases stale : (s.slotOf other).generation ≠ myGen
    · left
      simp only [ScreensaverAction.exec]
      rw [if_pos stale]
    · rw [ne_eq, not_not] at stale
      subst stale
      by_cases same : d = other
      · subst same
        refine .inr (.inr (.inr ⟨cookie, rfl, ?_⟩))
        simp only [ScreensaverAction.exec, ne_eq, not_true_eq_false, if_false, ScreensaverState.slotOf_setSlot, if_true]
      · left
        simp only [ScreensaverAction.exec, ne_eq, not_true_eq_false, if_false, ScreensaverState.slotOf_setSlot, same]
  | enableSessionBackend => exact .inl rfl
  | backend => exact .inl rfl
  | spawn task => exact .inl rfl
  | start index => exact .inl rfl
  | inhibit other => exact .inl rfl
  | uninhibitAndStimulate other cookie => exact .inl rfl

/-- With fewer than 2^64 calls the generation does not come round. -/
theorem generation_next {generation : UInt64} {n : Nat} (counted : generation.toNat ≤ n) (few : n + 1 < 2 ^ 64) :
    (generation + 1).toNat = generation.toNat + 1 := by
  rw [UInt64.toNat_add]
  exact Nat.mod_eq_of_lt (by simp; omega)

theorem Recorded.counted_exec (recorded : Recorded s trace) (action : ScreensaverAction)
    (few : (sections (trace ++ [(task, ⟨action, (action.exec s).1⟩)])).length < 2 ^ 64) (d : DeviceId) :
    ((action.exec s).2.slotOf d).generation.toNat ≤ (sections (trace ++ [(task, ⟨action, (action.exec s).1⟩)])).length := by
  have counted := recorded.counted d
  rw [sections_snoc, List.length_append] at few ⊢
  rcases slotOf_exec (s := s) action d with same | ⟨rfl, next⟩ | ⟨rfl, next⟩ | ⟨cookie, rfl, next⟩
  · rw [same]
    omega
  · rw [next, generation_next counted few]
    exact Nat.succ_le_succ counted
  · rw [next, generation_next counted few]
    exact Nat.succ_le_succ counted
  · rw [next]
    exact Nat.le_trans counted (Nat.le_add_right ..)

theorem obtained_new (task : Nat) (action : ScreensaverAction) :
    obtained [(task, ⟨action, (action.exec s).1⟩)] = [] ∨ ∃ d cookie, action = .inhibit d ∧ s.answers s.asked = some cookie ∧
      obtained [(task, ⟨action, (action.exec s).1⟩)] = [(d, cookie)] := by
  cases action with
  | inhibit d =>
    cases answer : s.answers s.asked with
    | none => exact .inl (by simp [obtained, ScreensaverAction.exec, answer])
    | some cookie => exact .inr ⟨d, cookie, rfl, rfl, by simp [obtained, ScreensaverAction.exec, answer]⟩
  | _ => exact .inl rfl

theorem uninhibited_new (task : Nat) (action : ScreensaverAction) (answer : action.Answer) :
    uninhibited [(task, ⟨action, answer⟩)] = [] ∨ ∃ d cookie, action = .uninhibitAndStimulate d cookie ∧
      uninhibited [(task, ⟨action, answer⟩)] = [(d, cookie)] := by
  cases action with
  | uninhibitAndStimulate d cookie => exact .inr ⟨d, cookie, rfl, rfl⟩
  | _ => exact .inl rfl

theorem answers_exec (action : ScreensaverAction) : (action.exec s).2.answers = s.answers ∧ s.asked ≤ (action.exec s).2.asked := by
  cases action with
  | inhibit d => exact ⟨rfl, Nat.le_succ _⟩
  | settle d myGen cookie =>
    simp only [ScreensaverAction.exec]
    split
    · exact ⟨rfl, Nat.le_refl _⟩
    · exact ⟨rfl, Nat.le_refl _⟩
  | _ => exact ⟨rfl, Nat.le_refl _⟩

theorem Recorded.fresh (recorded : Recorded s trace) {cookie : Cookie} (answer : s.answers s.asked = some cookie) :
    cookie ∉ (obtained trace).map Prod.snd := by
  intro old
  obtain ⟨entry, member, rfl⟩ := List.mem_map.mp old
  obtain ⟨n, before, earlier⟩ := recorded.answered entry member
  have same := recorded.distinct n s.asked entry.2 earlier answer
  omega

theorem Recorded.exec (recorded : Recorded s trace) (action : ScreensaverAction)
    (few : (sections (trace ++ [(task, ⟨action, (action.exec s).1⟩)])).length < 2 ^ 64)
    (lifts : ∀ d cookie, action = .uninhibitAndStimulate d cookie → (d, cookie) ∈ outstanding trace) :
    Recorded (action.exec s).2 (trace ++ [(task, ⟨action, (action.exec s).1⟩)]) := by
  obtain ⟨same, grows⟩ := answers_exec (s := s) action
  refine ⟨by rw [same]; exact recorded.distinct, recorded.counted_exec action few, ?_, ?_, ?_, ?_⟩
  · intro entry member
    rw [obtained_snoc, List.mem_append] at member
    rw [same]
    rcases member with old | new
    · obtain ⟨n, before, answer⟩ := recorded.answered entry old
      exact ⟨n, Nat.lt_of_lt_of_le before grows, answer⟩
    · rcases obtained_new (s := s) task action with none | ⟨d, cookie, rfl, answer, one⟩
      · rw [none] at new
        cases new
      · rw [one, List.mem_singleton] at new
        subst new
        exact ⟨s.asked, Nat.lt_succ_self _, answer⟩
  · rw [obtained_snoc, List.map_append]
    rcases obtained_new (s := s) task action with none | ⟨d, cookie, rfl, answer, one⟩
    · rw [none, List.map_nil, List.append_nil]
      exact recorded.once
    · rw [one]
      exact List.nodup_append.mpr ⟨recorded.once, by simp, fun old member new single => by
        rw [List.map_singleton, List.mem_singleton] at single
        rintro rfl
        obtain rfl : old = cookie := single
        exact recorded.fresh answer member⟩
  · rw [uninhibited_snoc]
    rcases uninhibited_new task action (action.exec s).1 with none | ⟨d, cookie, rfl, one⟩
    · rw [none, List.append_nil]
      exact recorded.lifted
    · rw [one]
      exact List.nodup_append.mpr ⟨recorded.lifted, by simp, fun old member new single => by
        rw [List.mem_singleton] at single
        rintro rfl
        exact (lifts d cookie rfl).2 (single ▸ member)⟩
  · intro entry member
    rw [uninhibited_snoc, List.mem_append] at member
    rw [obtained_snoc, List.mem_append]
    left
    rcases member with old | new
    · exact recorded.known entry old
    · rcases uninhibited_new task action (action.exec s).1 with none | ⟨d, cookie, rfl, one⟩
      · rw [none] at new
        cases new
      · rw [one, List.mem_singleton] at new
        exact new ▸ (lifts d cookie rfl).1

theorem Waits.exec (waits : Waits s phases) {action : ScreensaverAction} (moved : move (phases task) action (action.exec s).1 = some later) :
    Waits (action.exec s).2 (Function.update phases task later) := by
  intro missing
  have before : s.backend = false := by
    cases action with
    | enableSessionBackend => cases missing
    | settle d myGen cookie =>
      simp only [ScreensaverAction.exec] at missing
      split at missing <;> exact missing
    | _ => exact missing
  obtain ⟨free, empty, none⟩ := waits before
  rw [free task] at moved
  have free_ : later = .free := by
    cases action with
    | enableSessionBackend => exact (Option.some.inj moved).symm
    | backend =>
      simp only [ScreensaverAction.exec, before] at moved
      exact (Option.some.inj moved).symm
    | slotFor d => exact (Option.some.inj moved).symm
    | beginDisconnect d =>
      simp only [ScreensaverAction.exec] at moved
      cases state : (s.slotOf d).state with
      | inhibited cookie => exact absurd state (empty d cookie)
      | idle =>
        rw [state] at moved
        exact (Option.some.inj moved).symm
      | inhibiting =>
        rw [state] at moved
        exact (Option.some.inj moved).symm
    | start index =>
      simp only [ScreensaverAction.exec, none index] at moved
      exact (Option.some.inj moved).symm
    | _ => cases moved
  refine ⟨fun other => ?_, fun d cookie => ?_, fun index => ?_⟩
  · by_cases same : other = task
    · subst same
      rw [Function.update_self, free_]
    · rw [Function.update_of_ne same, free other]
  · rcases slotOf_exec (s := s) action d with same | ⟨rfl, -⟩ | ⟨rfl, next⟩ | ⟨_, rfl, -⟩
    · rw [same]
      exact empty d cookie
    · cases moved
    · rw [next]
      nofun
    · cases moved
  · cases action with
    | start other =>
      simp only [ScreensaverAction.exec, List.getElem?_set]
      split
      · split <;> rfl
      · exact none index
    | spawn new => cases moved
    | settle d myGen cookie => cases moved
    | _ => exact none index

theorem lastDisconnected_of_silent {d : DeviceId} {entry : Σ action : ScreensaverAction, action.Answer}
    (silent : (sections [(task, entry)]).filter (fun entry => entry.1 = d) = []) (last : LastDisconnected d (trace ++ [(task, entry)])) :
    LastDisconnected d trace := by
  rw [LastDisconnected, sections_snoc, List.filter_append, silent, List.append_nil] at last
  exact last

theorem last_exec (last : ∀ d, LastDisconnected d trace → (s.slotOf d).state = .idle) (action : ScreensaverAction)
    (inTime : ∀ d myGen cookie, action = .settle d myGen cookie → InTime s (d, myGen)) (d : DeviceId)
    (now : LastDisconnected d (trace ++ [(task, ⟨action, (action.exec s).1⟩)])) : ((action.exec s).2.slotOf d).state = .idle := by
  rcases slotOf_exec (s := s) action d with same | ⟨rfl, -⟩ | ⟨rfl, next⟩ | ⟨cookie, rfl, next⟩
  · rw [same]
    by_cases disconnects : action = .beginDisconnect d
    · subst disconnects
      rw [← same]
      simp only [ScreensaverAction.exec, ScreensaverState.slotOf_setSlot, if_true]
    · by_cases connects : action = .beginConnect d
      · subst connects
        simp [LastDisconnected, sections] at now
      · refine last d (lastDisconnected_of_silent ?_ now)
        cases action with
        | beginConnect other =>
          have apart : other ≠ d := fun equal => connects (equal ▸ rfl)
          simp [sections, apart]
        | beginDisconnect other =>
          have apart : other ≠ d := fun equal => disconnects (equal ▸ rfl)
          simp [sections, apart]
        | _ => rfl
  · simp [LastDisconnected, sections] at now
  · rw [next]
  · have idle := last d (lastDisconnected_of_silent rfl now)
    rw [(inTime d _ cookie rfl).2 rfl] at idle
    cases idle

section Custody

@[simp] theorem cookies_move (phase : Phase) :
    cookies s (Function.update phases task phase) = Function.update (cookies s phases) (.task task) phase.cookie := Holder.held_move ..

@[simp] theorem tickets_move (phase : Phase) :
    tickets s (Function.update phases task phase) = Function.update (tickets s phases) (.task task) phase.ticket := Holder.held_move ..

@[simp] theorem cookies_spawn (new : ScreensaverTask) :
    cookies { s with spawned := s.spawned ++ [some new] } phases =
      Function.update (cookies s phases) (.spawned s.spawned.length) (cookieOf new) := Holder.held_spawn ..

@[simp] theorem tickets_spawn (new : ScreensaverTask) :
    tickets { s with spawned := s.spawned ++ [some new] } phases =
      Function.update (tickets s phases) (.spawned s.spawned.length) (ticketOf new) := Holder.held_spawn ..

@[simp] theorem cookies_begin (index : Nat) :
    cookies { s with spawned := s.spawned.set index none } phases =
      Function.update (cookies s phases) (.spawned index) none := Holder.held_begin ..

@[simp] theorem tickets_begin (index : Nat) :
    tickets { s with spawned := s.spawned.set index none } phases =
      Function.update (tickets s phases) (.spawned index) none := Holder.held_begin ..

@[simp] theorem cookies_setSlot (d : DeviceId) (slot : InhibitSlot) :
    cookies (s.setSlot d slot) phases = Function.update (cookies s phases) (.slot d) (cookieIn d slot.state) := by
  have places : (fun other => cookieIn other ((s.setSlot d slot).slotOf other).state) =
      Function.update (fun other => cookieIn other (s.slotOf other).state) d (cookieIn d slot.state) := by
    funext other
    rw [ScreensaverState.slotOf_setSlot]
    by_cases same : other = d
    · subst same
      rw [if_pos rfl, Function.update_self]
    · rw [if_neg same, Function.update_of_ne same]
  unfold cookies
  rw [places]
  exact Holder.held_place ..

theorem outstanding_silent {entry : Σ action : ScreensaverAction, action.Answer} (got : obtained [(task, entry)] = [])
    (gave : uninhibited [(task, entry)] = []) : outstanding (trace ++ [(task, entry)]) = outstanding trace := by
  simp only [outstanding, obtained_snoc, uninhibited_snoc, got, gave, List.append_nil]

/-- The custody of the cookies and that of the tickets. -/
structure Kept (s : ScreensaverState) (phases : Nat → Phase) (live : Set (DeviceId × Cookie)) : Prop where
  held : Custody live (cookies s phases)
  due : ∃ live, Custody live (tickets s phases) ∧ ∀ ticket ∈ live, InTime s ticket

variable {live : Set (DeviceId × Cookie)}

/-- A move between phases with the same things in hand changes nothing. -/
theorem Kept.move (kept : Kept s phases live) (cookie : (phases task).cookie = later.cookie) (ticket : (phases task).ticket = later.ticket) :
    Kept s (Function.update phases task later) live := by
  have sameCookies : cookies s (Function.update phases task later) = cookies s phases := by
    rw [cookies_move, ← cookie]
    exact Function.update_eq_self ..
  have sameTickets : tickets s (Function.update phases task later) = tickets s phases := by
    rw [tickets_move, ← ticket]
    exact Function.update_eq_self ..
  exact ⟨sameCookies ▸ kept.held, sameTickets ▸ kept.due⟩

theorem Kept.setSlot_same (kept : Kept s phases live) (d : DeviceId) : Kept (s.setSlot d (s.slotOf d)) phases live := by
  have same (other : DeviceId) : (s.setSlot d (s.slotOf d)).slotOf other = s.slotOf other := by
    rw [ScreensaverState.slotOf_setSlot]
    split
    · rename_i equal
      rw [equal]
    · rfl
  obtain ⟨custody, due, held, inTime⟩ := kept
  refine ⟨?_, due, held, fun ticket member => ?_⟩
  · rw [cookies_setSlot]
    have self : cookieIn d (s.slotOf d).state = cookies s phases (.slot d) := rfl
    rw [self, Function.update_eq_self]
    exact custody
  · unfold InTime
    rw [same]
    exact inTime ticket member

/-- A generation that is over is no more that of a ticket. -/
theorem InTime.nextGeneration {ticket : DeviceId × UInt64} (inTime : InTime s ticket) {d : DeviceId} {n : Nat} {state : InhibitState}
    (counted : (s.slotOf d).generation.toNat ≤ n) (few : n + 1 < 2 ^ 64) :
    InTime (s.setSlot d ⟨(s.slotOf d).generation + 1, state⟩) ticket := by
  unfold InTime at inTime ⊢
  rw [ScreensaverState.slotOf_setSlot]
  split
  · rename_i same
    rw [same] at inTime
    have next := generation_next counted few
    refine ⟨by rw [next]; omega, fun equal => ?_⟩
    have bound := inTime.1
    rw [equal, next] at bound
    omega
  · exact inTime

variable {d : DeviceId} {myGen : UInt64} {cookie : Cookie} {n : Nat}

theorem Kept.beginConnect (kept : Kept s phases live) (connecting : phases task = .connecting) (d : DeviceId)
    (counted : (s.slotOf d).generation.toNat ≤ n) (few : n + 1 < 2 ^ 64) :
    Kept (s.setSlot d ⟨(s.slotOf d).generation + 1, .inhibiting⟩)
      (Function.update phases task (.begun d ((s.slotOf d).generation + 1) ((cookieIn d (s.slotOf d).state).map Prod.snd))) live := by
  obtain ⟨custody, due, held, inTime⟩ := kept
  have next := generation_next counted few
  have empty : tickets s phases (.task task) = none := by simp [tickets, Holder.held, connecting, Phase.ticket]
  have fresh : (d, (s.slotOf d).generation + 1) ∉ due := by
    intro member
    have bound : ((s.slotOf d).generation + 1).toNat ≤ (s.slotOf d).generation.toNat := (inTime _ member).1
    omega
  refine ⟨?_, insert (d, (s.slotOf d).generation + 1) due, ?_, fun ticket member => ?_⟩
  · have hand : cookies s phases (.task task) = none := by simp [cookies, Holder.held, connecting, Phase.cookie]
    have taken : (Phase.begun d ((s.slotOf d).generation + 1) ((cookieIn d (s.slotOf d).state).map Prod.snd)).cookie =
        cookies s phases (.slot d) := by
      simp only [cookies, Holder.held]
      cases (s.slotOf d).state <;> rfl
    rw [cookies_move, cookies_setSlot, taken]
    exact custody.give (.slot d) hand
  · rw [tickets_move]
    exact held.receive empty fresh
  · rcases Set.mem_insert_iff.mp member with rfl | old
    · simp [InTime, ScreensaverState.slotOf_setSlot]
    · exact (inTime ticket old).nextGeneration counted few

theorem Kept.beginDisconnect (kept : Kept s phases live) (free : phases task = .free) (d : DeviceId)
    (counted : (s.slotOf d).generation.toNat ≤ n) (few : n + 1 < 2 ^ 64) (cookie : later.cookie = cookieIn d (s.slotOf d).state)
    (ticket : later.ticket = none) :
    Kept (s.setSlot d ⟨(s.slotOf d).generation + 1, .idle⟩) (Function.update phases task later) live := by
  obtain ⟨custody, due, held, inTime⟩ := kept
  refine ⟨?_, due, ?_, fun ticket member => (inTime ticket member).nextGeneration counted few⟩
  · have hand : cookies s phases (.task task) = none := by simp [cookies, Holder.held, free, Phase.cookie]
    rw [cookies_move, cookies_setSlot, cookie]
    exact custody.give (.slot d) hand
  · have hand : tickets s phases (.task task) = none := by simp [tickets, Holder.held, free, Phase.ticket]
    rw [tickets_move, ticket, show tickets (s.setSlot d _) phases = tickets s phases from rfl, Custody.update_none hand]
    exact held

theorem spawned_free : cookies s phases (.spawned s.spawned.length) = none ∧ tickets s phases (.spawned s.spawned.length) = none := by
  simp [cookies, tickets, Holder.held]

theorem Kept.spawnRelease (kept : Kept s phases live) (begun : phases task = .begun d myGen (some cookie)) :
    Kept { s with spawned := s.spawned ++ [some (.release d cookie)] } (Function.update phases task (.begun d myGen none)) live := by
  obtain ⟨custody, due, held, inTime⟩ := kept
  refine ⟨?_, due, ?_, inTime⟩
  · have hand : cookies s phases (.task task) = some (d, cookie) := by simp [cookies, Holder.held, begun, Phase.cookie]
    rw [cookies_move, cookies_spawn, Function.update_comm (by simp)]
    exact custody.pass hand (.inr spawned_free.1)
  · have hand : tickets s phases (.task task) = some (d, myGen) := by simp [tickets, Holder.held, begun, Phase.ticket]
    have stays : Function.update (tickets s phases) (.task task) (some (d, myGen)) = tickets s phases := by
      rw [← hand]
      exact Function.update_eq_self ..
    rw [tickets_move, tickets_spawn]
    simp only [ticketOf, Phase.ticket, Custody.update_none spawned_free.2, stays]
    exact held

theorem Kept.spawnInhibit (kept : Kept s phases live) (begun : phases task = .begun d myGen none) :
    Kept { s with spawned := s.spawned ++ [some (.inhibit d myGen)] } (Function.update phases task .free) live := by
  obtain ⟨custody, due, held, inTime⟩ := kept
  refine ⟨?_, due, ?_, inTime⟩
  · have hand : cookies s phases (.task task) = none := by simp [cookies, Holder.held, begun, Phase.cookie]
    rw [cookies_move, cookies_spawn]
    simp only [cookieOf, Phase.cookie, Custody.update_none spawned_free.1, Custody.update_none hand]
    exact custody
  · have hand : tickets s phases (.task task) = some (d, myGen) := by simp [tickets, Holder.held, begun, Phase.ticket]
    rw [tickets_move, tickets_spawn, Function.update_comm (by simp)]
    exact held.pass hand (.inr spawned_free.2)

/-- The task that begins takes over what was given to it when it was spawned. -/
theorem Kept.start (kept : Kept s phases live) (free : phases task = .free) (index : Nat)
    (cookie : later.cookie = s.spawned[index]?.join.bind cookieOf) (ticket : later.ticket = s.spawned[index]?.join.bind ticketOf) :
    Kept { s with spawned := s.spawned.set index none } (Function.update phases task later) live := by
  obtain ⟨custody, due, held, inTime⟩ := kept
  refine ⟨?_, due, ?_, inTime⟩
  · have hand : cookies s phases (.task task) = none := by simp [cookies, Holder.held, free, Phase.cookie]
    rw [cookies_move, cookies_begin, cookie]
    exact custody.give (.spawned index) hand
  · have hand : tickets s phases (.task task) = none := by simp [tickets, Holder.held, free, Phase.ticket]
    rw [tickets_move, tickets_begin, ticket]
    exact held.give (.spawned index) hand

/-- The task gives up its ticket without a cookie. -/
theorem Kept.inhibitFailed (kept : Kept s phases live) (inhibiting : phases task = .inhibiting d myGen) :
    Kept { s with asked := s.asked + 1 } (Function.update phases task .free) live := by
  obtain ⟨custody, due, held, inTime⟩ := kept
  have hand : tickets s phases (.task task) = some (d, myGen) := by simp [tickets, Holder.held, inhibiting, Phase.ticket]
  refine ⟨?_, due \ {(d, myGen)}, ?_, fun ticket member => inTime ticket member.1⟩
  · have hand : cookies s phases (.task task) = none := by simp [cookies, Holder.held, inhibiting, Phase.cookie]
    rw [cookies_move]
    change Custody live (Function.update (cookies s phases) (.task task) none)
    rw [Custody.update_none hand]
    exact custody
  · rw [tickets_move]
    exact held.release hand

theorem Kept.inhibit (kept : Kept s phases live) (inhibiting : phases task = .inhibiting d myGen) (fresh : (d, cookie) ∉ live) :
    Kept { s with asked := s.asked + 1 } (Function.update phases task (.holding d myGen cookie)) (insert (d, cookie) live) := by
  obtain ⟨custody, due, held, inTime⟩ := kept
  refine ⟨?_, due, ?_, inTime⟩
  · have hand : cookies s phases (.task task) = none := by simp [cookies, Holder.held, inhibiting, Phase.cookie]
    rw [cookies_move]
    exact custody.receive hand fresh
  · have hand : tickets s phases (.task task) = some (d, myGen) := by simp [tickets, Holder.held, inhibiting, Phase.ticket]
    have stays : Function.update (tickets s phases) (.task task) (some (d, myGen)) = tickets s phases := by
      rw [← hand]
      exact Function.update_eq_self ..
    rw [tickets_move]
    change Custody due (Function.update (tickets s phases) (.task task) (some (d, myGen)))
    rw [stays]
    exact held

theorem Kept.inTime (kept : Kept s phases live) (holding : phases task = .holding d myGen cookie) : InTime s (d, myGen) := by
  obtain ⟨-, due, held, inTime⟩ := kept
  exact inTime _ (held.alive (.task task) _ (by simp [tickets, Holder.held, holding, Phase.ticket]))

/-- A cookie that comes too late stays with its task. -/
theorem Kept.settleStale (kept : Kept s phases live) (holding : phases task = .holding d myGen cookie) :
    Kept s (Function.update phases task (.releasing d cookie)) live := by
  obtain ⟨custody, due, held, inTime⟩ := kept
  have hand : tickets s phases (.task task) = some (d, myGen) := by simp [tickets, Holder.held, holding, Phase.ticket]
  refine ⟨?_, due \ {(d, myGen)}, ?_, fun ticket member => inTime ticket member.1⟩
  · have hand : cookies s phases (.task task) = some (d, cookie) := by simp [cookies, Holder.held, holding, Phase.cookie]
    rw [cookies_move]
    simp only [Phase.cookie, ← hand]
    exact (Function.update_eq_self (Holder.task task) (cookies s phases)).symm ▸ custody
  · rw [tickets_move]
    exact held.release hand

/-- A cookie that comes in time goes into the slot, which waits for it alone. -/
theorem Kept.settle (kept : Kept s phases live) (holding : phases task = .holding d (s.slotOf d).generation cookie) :
    Kept (s.setSlot d ⟨(s.slotOf d).generation, .inhibited cookie⟩) (Function.update phases task .free) live := by
  have waits := (kept.inTime holding).2 rfl
  obtain ⟨custody, due, held, inTime⟩ := kept
  have hand : tickets s phases (.task task) = some (d, (s.slotOf d).generation) := by
    simp [tickets, Holder.held, holding, Phase.ticket]
  refine ⟨?_, due \ {(d, (s.slotOf d).generation)}, ?_, fun ticket member => ?_⟩
  · have hand : cookies s phases (.task task) = some (d, cookie) := by simp [cookies, Holder.held, holding, Phase.cookie]
    have place : cookies s phases (.slot d) = none := by simp [cookies, Holder.held, waits, cookieIn]
    rw [cookies_move, cookies_setSlot, Function.update_comm (by simp)]
    exact custody.pass hand (.inr place)
  · rw [tickets_move]
    exact held.release hand
  · have bound := inTime ticket member.1
    unfold InTime at bound ⊢
    rw [ScreensaverState.slotOf_setSlot]
    split
    · rename_i same
      rw [same] at bound
      exact ⟨bound.1, fun equal => absurd (Prod.ext same equal) member.2⟩
    · exact bound

theorem Kept.uninhibit (kept : Kept s phases live) (releasing : phases task = .releasing d cookie) :
    Kept s (Function.update phases task .free) (live \ {(d, cookie)}) := by
  obtain ⟨custody, due, held, inTime⟩ := kept
  have hand : cookies s phases (.task task) = some (d, cookie) := by simp [cookies, Holder.held, releasing, Phase.cookie]
  refine ⟨?_, due, ?_, inTime⟩
  · rw [cookies_move]
    exact custody.release hand
  · have hand : tickets s phases (.task task) = none := by simp [tickets, Holder.held, releasing, Phase.ticket]
    rw [tickets_move]
    change Custody due (Function.update (tickets s phases) (.task task) none)
    rw [Custody.update_none hand]
    exact held

theorem outstanding_inhibit (d : DeviceId) (task : Nat) (recorded : Recorded s trace) (answer : s.answers s.asked = some cookie) :
    (d, cookie) ∉ outstanding trace ∧
      outstanding (trace ++ [(task, ⟨.inhibit d, some cookie⟩)]) = insert (d, cookie) (outstanding trace) := by
  have fresh : (d, cookie) ∉ obtained trace := fun member => recorded.fresh answer (List.mem_map_of_mem member)
  refine ⟨fun member => fresh member.1, Set.ext fun entry => ?_⟩
  simp only [outstanding, obtained_snoc, uninhibited_snoc, Set.mem_ofPred_eq, List.mem_append, Set.mem_insert_iff]
  simp only [obtained, uninhibited, List.filterMap_cons, List.filterMap_nil, List.mem_singleton, List.not_mem_nil, or_false]
  constructor
  · rintro ⟨old | rfl, out⟩
    · exact .inr ⟨old, out⟩
    · exact .inl rfl
  · rintro (rfl | ⟨old, out⟩)
    · exact ⟨.inr rfl, fun lifted => fresh (recorded.known _ lifted)⟩
    · exact ⟨.inl old, out⟩

theorem outstanding_uninhibit :
    outstanding (trace ++ [(task, ⟨.uninhibitAndStimulate d cookie, ()⟩)]) = outstanding trace \ {(d, cookie)} := by
  ext entry
  simp only [outstanding, obtained_snoc, uninhibited_snoc, Set.mem_ofPred_eq, List.mem_append, Set.mem_sdiff, Set.mem_singleton_iff]
  simp only [obtained, uninhibited, List.filterMap_cons, List.filterMap_nil, List.mem_singleton, List.not_mem_nil, or_false]
  tauto

end Custody

/-- Whatever a task does next, every cookie and every ticket stays in one hand. -/
theorem Accounted.kept_exec (accounted : Accounted s phases trace) {action : ScreensaverAction}
    (moved : move (phases task) action (action.exec s).1 = some later)
    (few : (sections (trace ++ [(task, ⟨action, (action.exec s).1⟩)])).length < 2 ^ 64) :
    Kept (action.exec s).2 (Function.update phases task later) (outstanding (trace ++ [(task, ⟨action, (action.exec s).1⟩)])) := by
  have kept : Kept s phases (outstanding trace) := ⟨accounted.cookies, accounted.tickets⟩
  rw [sections_snoc, List.length_append] at few
  cases here : phases task with
  | free =>
    rw [here] at moved
    cases action with
    | enableSessionBackend =>
      obtain rfl := Option.some.inj moved
      rw [outstanding_silent rfl rfl]
      have same : Kept s (Function.update phases task .free) (outstanding trace) := kept.move (by rw [here]) (by rw [here])
      exact ⟨same.held, same.due⟩
    | backend =>
      rw [outstanding_silent rfl rfl]
      simp only [ScreensaverAction.exec] at moved ⊢
      cases enabled : s.backend with
      | false =>
        rw [enabled] at moved
        obtain rfl := Option.some.inj moved
        exact kept.move (by rw [here]) (by rw [here])
      | true =>
        rw [enabled] at moved
        obtain rfl := Option.some.inj moved
        exact kept.move (by rw [here]; rfl) (by rw [here]; rfl)
    | slotFor d =>
      obtain rfl := Option.some.inj moved
      rw [outstanding_silent rfl rfl]
      exact (kept.setSlot_same d).move (by rw [here]) (by rw [here])
    | beginDisconnect d =>
      rw [outstanding_silent rfl rfl]
      simp only [ScreensaverAction.exec] at moved
      refine kept.beginDisconnect here d (accounted.recorded.counted d) few ?_ ?_
      all_goals
        cases state : (s.slotOf d).state <;> rw [state] at moved <;> obtain rfl := Option.some.inj moved <;> rfl
    | start index =>
      rw [outstanding_silent rfl rfl]
      simp only [ScreensaverAction.exec] at moved
      refine kept.start here index ?_ ?_
      all_goals
        rcases spawned : s.spawned[index]?.join with _ | new
        · rw [spawned] at moved
          obtain rfl := Option.some.inj moved
          rfl
        · rw [spawned] at moved
          cases new <;> obtain rfl := Option.some.inj moved <;> rfl
    | _ => cases moved
  | connecting =>
    rw [here] at moved
    cases action with
    | slotFor d =>
      obtain rfl := Option.some.inj moved
      rw [outstanding_silent rfl rfl]
      exact (kept.setSlot_same d).move (by rw [here]) (by rw [here])
    | beginConnect d =>
      rw [outstanding_silent rfl rfl]
      obtain rfl := Option.some.inj moved
      have old : (match (s.slotOf d).state with | .inhibited c => some c | _ => none) = (cookieIn d (s.slotOf d).state).map Prod.snd := by
        cases (s.slotOf d).state <;> rfl
      simp only [ScreensaverAction.exec, old]
      exact kept.beginConnect here d (accounted.recorded.counted d) few
    | _ => cases moved
  | begun d myGen old =>
    rw [here] at moved
    cases action with
    | spawn new =>
      rw [outstanding_silent rfl rfl]
      cases old with
      | none =>
        cases new with
        | release other cookie => cases moved
        | inhibit other gen =>
          obtain ⟨⟨rfl, rfl⟩, rfl⟩ := Pool.of_guard moved
          exact kept.spawnInhibit here
      | some cookie =>
        cases new with
        | inhibit other gen => cases moved
        | release other gen =>
          obtain ⟨⟨rfl, rfl⟩, rfl⟩ := Pool.of_guard moved
          exact kept.spawnRelease here
    | _ => cases old <;> cases moved
  | disconnecting d cookie =>
    rw [here] at moved
    cases action with
    | backend =>
      rw [outstanding_silent rfl rfl]
      simp only [ScreensaverAction.exec] at moved ⊢
      cases enabled : s.backend with
      | false =>
        have free := (accounted.waits enabled).1 task
        rw [here] at free
        cases free
      | true =>
        rw [enabled] at moved
        obtain rfl := Option.some.inj moved
        exact kept.move (by rw [here]; rfl) (by rw [here]; rfl)
    | _ => cases moved
  | inhibiting d myGen =>
    rw [here] at moved
    cases action with
    | inhibit other =>
      simp only [ScreensaverAction.exec] at moved ⊢
      cases answer : s.answers s.asked with
      | none =>
        rw [answer] at moved
        obtain ⟨rfl, rfl⟩ := Pool.of_guard moved
        rw [outstanding_silent rfl rfl]
        exact kept.inhibitFailed here
      | some cookie =>
        rw [answer] at moved
        obtain ⟨rfl, rfl⟩ := Pool.of_guard moved
        obtain ⟨fresh, grown⟩ := outstanding_inhibit d task accounted.recorded answer
        rw [grown]
        exact kept.inhibit here fresh
    | _ => cases moved
  | holding d myGen cookie =>
    rw [here] at moved
    cases action with
    | settle other gen given =>
      obtain ⟨⟨rfl, rfl, rfl⟩, rfl⟩ := Pool.of_guard moved
      rw [outstanding_silent rfl rfl]
      simp only [ScreensaverAction.exec]
      by_cases stale : (s.slotOf d).generation ≠ myGen
      · simp only [if_pos stale, if_true]
        exact kept.settleStale here
      · simp only [if_neg stale]
        rw [ne_eq, not_not] at stale
        subst stale
        exact kept.settle here
    | _ => cases moved
  | releasing d cookie =>
    rw [here] at moved
    cases action with
    | uninhibitAndStimulate other given =>
      obtain ⟨⟨rfl, rfl⟩, rfl⟩ := Pool.of_guard moved
      have lifted : outstanding (trace ++ [(task, ⟨.uninhibitAndStimulate d cookie, ()⟩)]) = _ := outstanding_uninhibit
      simp only [ScreensaverAction.exec, lifted]
      exact kept.uninhibit here
    | _ => cases moved

theorem Accounted.exec (accounted : Accounted s phases trace) {action : ScreensaverAction}
    (moved : move (phases task) action (action.exec s).1 = some later)
    (few : (sections (trace ++ [(task, ⟨action, (action.exec s).1⟩)])).length < 2 ^ 64) :
    Accounted (action.exec s).2 (Function.update phases task later) (trace ++ [(task, ⟨action, (action.exec s).1⟩)]) := by
  have kept := accounted.kept_exec moved few
  refine ⟨kept.held, kept.due, accounted.recorded.exec action few ?_, accounted.waits.exec moved, last_exec accounted.last action ?_⟩
  · rintro d cookie rfl
    refine accounted.cookies.alive (.task task) _ ?_
    cases here : phases task with
    | releasing other given =>
      rw [here] at moved
      obtain ⟨⟨rfl, rfl⟩, -⟩ := Pool.of_guard moved
      change (phases task).cookie = some (other, given)
      rw [here]
      rfl
    | begun other myGen old =>
      rw [here] at moved
      cases old <;> cases moved
    | _ =>
      rw [here] at moved
      cases moved
  · rintro d myGen cookie rfl
    cases here : phases task with
    | holding other gen given =>
      rw [here] at moved
      obtain ⟨⟨rfl, rfl, rfl⟩, -⟩ := Pool.of_guard moved
      exact Kept.inTime ⟨accounted.cookies, accounted.tickets⟩ here
    | begun other gen old =>
      rw [here] at moved
      cases old <;> cases moved
    | _ =>
      rw [here] at moved
      cases moved

theorem accounted_new {answers : Nat → Option Cookie} (distinct : ∀ m n cookie, answers m = some cookie → answers n = some cookie → m = n) :
    Accounted (new answers) (fun _ => .free) [] := by
  have nothing : cookies (new answers) (fun _ => .free) = fun _ => none := by
    funext holder
    cases holder <;> rfl
  have noTicket : tickets (new answers) (fun _ => .free) = fun _ => none := by
    funext holder
    cases holder <;> rfl
  have none : outstanding [] = ∅ := by simp [outstanding, obtained]
  refine ⟨?_, ⟨∅, ?_, fun _ member => nomatch member⟩, ?_, fun _ => ⟨fun _ => rfl, fun _ _ => nofun, fun _ => rfl⟩, fun _ _ => rfl⟩
  · rw [nothing, none]
    exact .empty
  · rw [noTicket]
    exact .empty
  · exact ⟨distinct, fun _ => Nat.le_refl 0, nofun, by simp [obtained], by simp [uninhibited], nofun⟩

end Account

/-- In every run, as long as the generations do not come round, every cookie is in one hand. -/
theorem accounted_run {answers : Nat → Option Cookie} (distinct : ∀ m n cookie, answers m = some cookie → answers n = some cookie → m = n)
    (turns : List (Turn Call)) (k : Nat) (few : (sections (atTurn answers turns k).trace).length < 2 ^ 64) :
    ∃ phases, Pool.Phased move .free (fun phase => phase = .free) (atTurn answers turns k) phases ∧
      Accounted (atTurn answers turns k).shared phases (atTurn answers turns k).trace := by
  have invariant : Pool.Invariant move .free (fun phase => phase = .free) ScreensaverAction.exec program (fun _ _ => True)
      fun s phases trace => (sections trace).length < 2 ^ 64 → Accounted s phases trace := by
    refine ⟨follows_program, fun pool phases task action later holds _ _ moved few => ?_⟩
    have earlier : (sections pool.trace).length < 2 ^ 64 := by
      rw [sections_snoc, List.length_append] at few
      omega
    exact (holds earlier).exec moved few
  obtain ⟨phases, phased, holds⟩ := invariant.run (fun _ => accounted_new distinct) (fun _ _ _ => trivial) k
  exact ⟨phases, phased, holds few⟩

section Quiet

variable {pool : Tasks} {phases : Nat → Phase} {task : Nat} {d : DeviceId} {cookie : Cookie}

theorem releasing_of_next (phased : Pool.Phased move .free (fun phase => phase = .free) pool phases)
    (about : pool.next task = some (.uninhibitAndStimulate d cookie)) : phases task = .releasing d cookie := by
  obtain ⟨later, moved⟩ := phased.moves about ()
  cases here : phases task with
  | releasing other given =>
    rw [here] at moved
    obtain ⟨⟨rfl, rfl⟩, -⟩ := Pool.of_guard moved
    rfl
  | begun other myGen old =>
    rw [here] at moved
    cases old <;> cases moved
  | _ =>
    rw [here] at moved
    cases moved

/-- A task that has a cookie in hand at a quiet moment is about to lift its inhibition. -/
theorem Quiet.lifts (quiet : Quiet pool d) (phased : Pool.Phased move .free (fun phase => phase = .free) pool phases)
    (hand : (phases task).cookie = some (d, cookie)) : pool.next task = some (.uninhibitAndStimulate d cookie) := by
  have busy : phases task ≠ .free := by
    intro free
    rw [free] at hand
    cases hand
  obtain ⟨action, about, moves⟩ := phased.busy busy busy
  rcases quiet.tasks task action about with ⟨index, rfl⟩ | ⟨other, given, rfl⟩
  · obtain ⟨later, moved⟩ := moves none
    cases here : phases task with
    | free => exact absurd here busy
    | begun other myGen old =>
      rw [here] at moved
      cases old <;> cases moved
    | _ =>
      rw [here] at moved
      cases moved
  · rw [releasing_of_next phased about] at hand
    cases hand
    exact about

theorem Quiet.not_handed (phased : Pool.Phased move .free (fun phase => phase = .free) pool phases)
    (accounted : Accounted pool.shared phases pool.trace) (stored : (pool.shared.slotOf d).state = .inhibited cookie) :
    ¬ Handed pool d cookie := by
  have place : cookies pool.shared phases (.slot d) = some (d, cookie) := by simp [cookies, Holder.held, stored, cookieIn]
  rintro (lifted | ⟨index, spawned⟩ | ⟨task, about⟩)
  · exact (accounted.cookies.alive _ _ place).2 lifted
  · have hand : cookies pool.shared phases (.spawned index) = some (d, cookie) := by
      simp [cookies, Holder.held, spawned, cookieOf]
    cases accounted.cookies.exclusive _ _ _ place hand
  · have hand : cookies pool.shared phases (.task task) = some (d, cookie) := by
      simp [cookies, Holder.held, releasing_of_next phased about, Phase.cookie]
    cases accounted.cookies.exclusive _ _ _ place hand

/-- At a quiet moment a cookie that is not in the slot is handed to uninhibit. -/
theorem Quiet.handed (quiet : Quiet pool d) (phased : Pool.Phased move .free (fun phase => phase = .free) pool phases)
    (accounted : Accounted pool.shared phases pool.trace) (got : (d, cookie) ∈ obtained pool.trace) :
    (pool.shared.slotOf d).state = .inhibited cookie ∨ Handed pool d cookie := by
  by_cases lifted : (d, cookie) ∈ uninhibited pool.trace
  · exact .inr (.inl lifted)
  · obtain ⟨holder, holding⟩ := accounted.cookies.covered (d, cookie) ⟨got, lifted⟩
    cases holder with
    | task task => exact .inr (.inr (.inr ⟨task, quiet.lifts phased holding⟩))
    | spawned index =>
      obtain ⟨new, found, item⟩ := Option.bind_eq_some_iff.mp holding
      cases new with
      | inhibit other myGen => cases item
      | release other given =>
        cases item
        exact .inr (.inr (.inl ⟨index, by simpa [Option.join_eq_some_iff] using found⟩))
    | slot other =>
      have item : cookieIn other (pool.shared.slotOf other).state = some (d, cookie) := holding
      cases state : (pool.shared.slotOf other).state with
      | inhibited given =>
        rw [state] at item
        cases item
        exact .inl state
      | _ =>
        rw [state] at item
        cases item

end Quiet

/-- When no inhibit task is in flight, the cookies that were obtained and not
handed to uninhibit are the one in the device's slot, and none after a
disconnect; none is handed to uninhibit twice. -/
theorem cookies_accounted (answers : Nat → Option Cookie)
    (distinct : ∀ m n cookie, answers m = some cookie → answers n = some cookie → m = n) (turns : List (Turn Call)) (k : Nat)
    (few : (sections (atTurn answers turns k).trace).length < 2 ^ 64) :
    ((uninhibited (atTurn answers turns k).trace).map Prod.snd).Nodup ∧ ∀ d, Quiet (atTurn answers turns k) d →
      (∀ cookie, ((d, cookie) ∈ obtained (atTurn answers turns k).trace ∧ ¬ Handed (atTurn answers turns k) d cookie) ↔
        ((atTurn answers turns k).shared.slotOf d).state = .inhibited cookie) ∧
      (LastDisconnected d (atTurn answers turns k).trace → ∀ cookie, (d, cookie) ∈ obtained (atTurn answers turns k).trace →
        Handed (atTurn answers turns k) d cookie) := by
  obtain ⟨phases, phased, accounted⟩ := accounted_run distinct turns k few
  have recorded := accounted.recorded
  refine ⟨?_, fun d quiet => ⟨fun cookie => ⟨?_, fun stored => ⟨?_, ?_⟩⟩, fun last cookie got => ?_⟩⟩
  · refine recorded.lifted.map_on fun one lifted other lifted' same => ?_
    exact List.inj_on_of_nodup_map recorded.once (recorded.known one lifted) (recorded.known other lifted') same
  · rintro ⟨got, kept⟩
    exact (quiet.handed phased accounted got).resolve_right kept
  · exact (accounted.cookies.alive (.slot d) (d, cookie) (by simp [cookies, Holder.held, stored, cookieIn])).1
  · exact Quiet.not_handed phased accounted stored
  · refine (quiet.handed phased accounted got).resolve_left fun stored => ?_
    rw [accounted.last d last] at stored
    cases stored

section Sample

/-- The service gives out the cookies 1, 2 and 3 and then fails. -/
def threeCookies : Nat → Option Cookie
  | 0 => some 1
  | 1 => some 2
  | 2 => some 3
  | _ => none

theorem threeCookies_distinct (m n : Nat) (cookie : Cookie) (one : threeCookies m = some cookie) (two : threeCookies n = some cookie) : m = n := by
  unfold threeCookies at one two
  split at one <;> split at two <;> simp_all <;> (subst one; cases two)

/-- The phone connects twice, then leaves before its second inhibition has come about, and comes back. -/
def comesAndGoes : List (Turn Call) :=
  ([.spawn .enableSessionBackend, .take 0, .spawn (.onConnected "phone")] : List (Turn Call)) ++
  List.replicate 4 (Turn.take 1) ++ ([.spawn (.runSpawned 0)] : List (Turn Call)) ++ List.replicate 3 (Turn.take 2) ++
  ([.spawn (.onConnected "phone")] : List (Turn Call)) ++ List.replicate 5 (Turn.take 3) ++
  ([.spawn (.runSpawned 2), .take 4, .take 4, .spawn (.onDisconnected "phone"), .take 5, .take 5, .take 4, .take 4] : List (Turn Call)) ++
  ([.spawn (.runSpawned 1), .take 6, .take 6] : List (Turn Call))

/-- Nothing is under way, and two cookies were obtained and lifted again. -/
def bothLifted (pool : Tasks) : Bool :=
  (List.range pool.tasks.length).all (fun task => (pool.next task).isNone) && pool.shared.spawned.all Option.isNone &&
    (sections pool.trace == [("phone", true), ("phone", true), ("phone", false)]) &&
    (obtained pool.trace == [("phone", 1), ("phone", 2)]) && (uninhibited pool.trace == [("phone", 2), ("phone", 1)])

theorem quiet_of_bothLifted {pool : Tasks} (lifted : bothLifted pool = true) : Quiet pool "phone" := by
  simp only [bothLifted, Bool.and_eq_true, List.all_eq_true] at lifted
  obtain ⟨⟨⟨⟨ended, begun⟩, -⟩, -⟩, -⟩ := lifted
  refine ⟨fun index myGen found => ?_, fun task action about => ?_⟩
  · have none := begun _ (List.mem_of_getElem? found)
    cases none
  · have idle := Pool.idle_of_ended (fun task inside => ended task (List.mem_range.mpr inside)) task
    rw [idle] at about
    cases about

theorem both_lifted :
    obtained (atTurn threeCookies comesAndGoes comesAndGoes.length).trace = [("phone", 1), ("phone", 2)] ∧
      ((uninhibited (atTurn threeCookies comesAndGoes comesAndGoes.length).trace).map Prod.snd).Nodup ∧
      ∀ cookie, ("phone", cookie) ∈ obtained (atTurn threeCookies comesAndGoes comesAndGoes.length).trace →
        Handed (atTurn threeCookies comesAndGoes comesAndGoes.length) "phone" cookie := by
  have passes : Pool.along ScreensaverAction.exec program (fun _ _ => true) bothLifted (Pool.start (new threeCookies)) comesAndGoes = true := by
    decide +kernel
  have final : bothLifted (atTurn threeCookies comesAndGoes comesAndGoes.length) = true := (Pool.along_after passes).2
  have quiet := quiet_of_bothLifted final
  simp only [bothLifted, Bool.and_eq_true, beq_iff_eq] at final
  obtain ⟨⟨⟨-, calls⟩, got⟩, -⟩ := final
  have last : LastDisconnected "phone" (atTurn threeCookies comesAndGoes comesAndGoes.length).trace := by
    rw [LastDisconnected, calls]
    decide
  obtain ⟨once, account⟩ := cookies_accounted threeCookies threeCookies_distinct comesAndGoes comesAndGoes.length (by rw [calls]; decide)
  exact ⟨got, once, (account "phone" quiet).2 last⟩

end Sample

end ScreensaverInhibit

end RustConnect
