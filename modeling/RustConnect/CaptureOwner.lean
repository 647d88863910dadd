import RustConnect.InputCapture

namespace RustConnect

namespace InputCapture

open Program CaptureAction

section Phases

/-- How far a task has come with an activation. -/
inductive Flight
  | no
  | checking
  | has (session : SessionId)
  | stored (session : SessionId)
  deriving DecidableEq

/-- How far a task has come with a teardown for a session's signal. -/
inductive Tearing
  | no
  | taking (session : SessionId)
  | took (session : SessionId)
  deriving DecidableEq

structure OwnerPhase where
  flight : Flight := .no
  tearing : Tearing := .no
  deriving DecidableEq

/-- The action has nothing to do with the in-flight flag, the sessions and the teardowns. -/
def plain : CaptureAction → Bool
  | swapInFlight => false
  | clearInFlight => false
  | startSession => false
  | storeSession _ => false
  | setOnDisabled _ => false
  | swapPendingDisabled _ => false
  | getOnDisabled _ => false
  | dropRelease _ => false
  | takeSession _ => false
  | storeUnavailable _ => false
  | spawnWatcher _ => false
  | pollWatcher _ => false
  | _ => true

/-- The moves of a task that tears nothing down for a signal. -/
def flightMove : Flight → (action : CaptureAction) → action.Answer → Option OwnerPhase
  | .no, swapInFlight, busy => some { flight := if busy then .no else .checking }
  | .checking, startSession, some session => some { flight := .has session }
  | .checking, startSession, none => some { flight := .checking }
  | .has session, storeSession other, _ => if session = other then some { flight := .stored session } else none
  | .stored session, setOnDisabled other, _ => if session = other then some { flight := .stored session } else none
  | .stored session, spawnWatcher other, _ => if session = other then some { flight := .stored session } else none
  | .stored session, swapPendingDisabled other, pending =>
    if session = other then some ⟨.stored session, if pending then .taking session else .no⟩ else none
  | .no, clearInFlight, _ => none
  | _, clearInFlight, _ => some {}
  | .no, pollWatcher _, some session => some { tearing := .taking session }
  | .no, pollWatcher _, none => some {}
  | .no, getOnDisabled session, installed => some { tearing := if installed then .taking session else .no }
  | flight, dropRelease none, _ => some { flight }
  | flight, takeSession none, _ => some { flight }
  | flight, storeUnavailable none, _ => some { flight }
  | flight, action, _ => if plain action then some { flight } else none

def ownerMove (phase : OwnerPhase) (action : CaptureAction) (answer : action.Answer) : Option OwnerPhase :=
  match phase.tearing, action, answer with
  | .no, action, answer => flightMove phase.flight action answer
  | .taking session, dropRelease (some other), _ => if session = other then some phase else none
  | .taking session, takeSession (some other), taken =>
    if session = other then some ⟨phase.flight, if taken.isSome then .took session else .no⟩ else none
  | .took session, storeUnavailable (some other), _ => if session = other then some ⟨phase.flight, .no⟩ else none
  | _, _, _ => none

variable {plugin : CapturePlugin} {flight : Flight} {session : SessionId}

theorem ownerMove_plain {action : CaptureAction} (far : plain action = true) (answer : action.Answer) :
    ownerMove { flight } action answer = some { flight } := by
  cases action with
  | swapInFlight => cases far
  | clearInFlight => cases far
  | startSession => cases far
  | storeSession other => cases far
  | setOnDisabled other => cases far
  | swapPendingDisabled other => cases far
  | getOnDisabled other => cases far
  | dropRelease owner => cases far
  | takeSession owner => cases far
  | storeUnavailable owner => cases far
  | spawnWatcher other => cases far
  | pollWatcher index => cases far
  | _ => cases flight <;> rfl

theorem owner_plain {action : CaptureAction} (far : plain action = true) {Q : OwnerPhase → action.Answer → Prop}
    (rest : ∀ answer, Q { flight } answer) : Follows ownerMove { flight } (perform action) Q :=
  fun answer => ⟨_, ownerMove_plain far answer, rest answer⟩

theorem plain_of_reads {action : CaptureAction} (reads : Reads action) : plain action = true := by
  cases action <;> first | rfl | cases reads

theorem owner_reads {α : Type} {reading : CaptureProgram α} (only : reading.Only Reads fun _ => True) {Q : OwnerPhase → α → Prop}
    (rest : ∀ value, Q { flight } value) : Follows ownerMove { flight } reading Q := by
  refine (only.follows fun action reads answer => ownerMove_plain (plain_of_reads reads) answer).weaken fun later value stays => ?_
  rw [stays.1]
  exact rest value

theorem owner_doDeactivate {Q : OwnerPhase → Unit → Prop} (rest : Q { flight } ()) :
    Follows ownerMove { flight } (doDeactivate none) Q := by
  refine (follows_bind _ _ _).mpr fun _ => ⟨{ flight }, by cases flight <;> rfl, ?_⟩
  refine (follows_bind _ _ _).mpr fun taken => ⟨{ flight }, by cases flight <;> rfl, ?_⟩
  cases taken with
  | none => exact rest
  | some session => exact fun _ => ⟨{ flight }, by cases flight <;> rfl, owner_plain rfl fun _ => rest⟩

theorem owner_teardown {Q : OwnerPhase → Unit → Prop} (rest : Q { flight } ()) :
    Follows ownerMove ⟨flight, .taking session⟩ (doDeactivate (some session)) Q := by
  refine (follows_bind _ _ _).mpr fun _ => ⟨⟨flight, .taking session⟩, if_pos rfl, ?_⟩
  refine (follows_bind _ _ _).mpr fun taken => ⟨_, if_pos rfl, ?_⟩
  cases taken with
  | none => exact rest
  | some taken => exact fun _ => ⟨{ flight }, if_pos rfl, owner_plain rfl fun _ => rest⟩

theorem owner_installSession {Q : OwnerPhase → Unit → Prop} (rest : Q { flight := .stored session } ()) :
    Follows ownerMove { flight := .has session } (installSession plugin session) Q := by
  have watches : Follows ownerMove { flight := .stored session } (perform (spawnWatcher session)) Q := fun _ => ⟨_, if_pos rfl, rest⟩
  have checked : Follows ownerMove { flight := .stored session } (do
      if ← perform sessionIsSome then
        perform storeAvailable
        if plugin.connectionManager then
          perform addCapabilities
          let postConsumers ← capableConsumerIds plugin
          if postConsumers.isEmpty then
            doDeactivate none
          else perform (spawnWatcher session)
        else perform (spawnWatcher session)) Q := by
    refine (follows_bind _ _ _).mpr (owner_plain rfl fun found => ?_)
    refine (follows_ite _ _ _ _).mpr ⟨fun _ => ?_, fun _ => rest⟩
    refine (follows_bind _ _ _).mpr (owner_plain rfl fun _ => ?_)
    refine (follows_ite _ _ _ _).mpr ⟨fun _ => ?_, fun _ => watches⟩
    refine (follows_bind _ _ _).mpr (owner_plain rfl fun _ => ?_)
    refine (follows_bind _ _ _).mpr (owner_reads (only_capableConsumerIds plugin) fun consumers => ?_)
    exact (follows_ite _ _ _ _).mpr ⟨fun _ => owner_doDeactivate rest, fun _ => watches⟩
  refine (follows_bind _ _ _).mpr (owner_plain rfl fun _ => ?_)
  refine (follows_bind _ _ _).mpr fun _ => ⟨{ flight := .stored session }, if_pos rfl, ?_⟩
  refine (follows_bind _ _ _).mpr ((follows_bind _ _ _).mpr fun _ => ⟨{ flight := .stored session }, if_pos rfl, ?_⟩)
  refine (follows_bind _ _ _).mpr fun pending => ⟨_, if_pos rfl, ?_⟩
  cases pending with
  | true => exact owner_teardown checked
  | false => exact checked

theorem owner_doActivate {Q : OwnerPhase → Unit → Prop} (rest : Q {} ()) : Follows ownerMove {} (doActivate plugin) Q := by
  refine (follows_bind _ _ _).mpr fun busy => ⟨_, rfl, ?_⟩
  cases busy with
  | true => exact rest
  | false =>
    refine (follows_bind _ _ _).mpr ((follows_bind _ _ _).mpr (owner_plain rfl fun live => ?_))
    have clears : Follows ownerMove { flight := .checking } (perform clearInFlight) Q := fun _ => ⟨{}, rfl, rest⟩
    refine (follows_ite _ _ _ _).mpr ⟨fun _ => clears, fun _ => ?_⟩
    refine (follows_bind _ _ _).mpr (owner_plain rfl fun probed => ?_)
    refine (follows_ite _ _ _ _).mpr ⟨fun _ => ?_, fun _ => clears⟩
    refine (follows_bind _ _ _).mpr fun started => ?_
    cases started with
    | none => exact ⟨{ flight := .checking }, rfl, clears⟩
    | some session => exact ⟨{ flight := .has session }, rfl, owner_installSession fun _ => ⟨{}, rfl, rest⟩⟩

theorem owner_doEvaluateAfterEvent {Q : OwnerPhase → Unit → Prop} (rest : Q {} ()) :
    Follows ownerMove {} (doEvaluateAfterEvent plugin) Q := by
  refine (follows_bind _ _ _).mpr (owner_reads (only_capableConsumerIds plugin) fun consumers => ?_)
  refine (follows_bind _ _ _).mpr (owner_plain rfl fun live => ?_)
  refine (follows_ite _ _ _ _).mpr ⟨fun _ => ?_, fun _ => ?_⟩
  · refine (follows_bind _ _ _).mpr (owner_plain rfl fun probed => ?_)
    exact (follows_ite _ _ _ _).mpr ⟨fun _ => owner_doActivate rest, fun _ => rest⟩
  · exact (follows_ite _ _ _ _).mpr ⟨fun _ => owner_doDeactivate rest, fun _ => rest⟩

theorem owner_program (op : Call) : Follows ownerMove {} (program plugin op) fun later _ => later = {} := by
  cases op with
  | activatePortalSession => exact owner_doActivate rfl
  | deactivatePortalSession => exact owner_doDeactivate rfl
  | evaluate => exact owner_doEvaluateAfterEvent rfl
  | gateRound =>
    refine (follows_bind _ _ _).mpr (owner_plain rfl fun received => ?_)
    cases received with
    | none => rfl
    | some received =>
      have ends : Follows ownerMove {} (perform roundEnds) fun later _ => later = {} := owner_plain rfl fun _ => rfl
      exact (follows_ite _ _ _ _).mpr ⟨fun _ => (follows_bind _ _ _).mpr (owner_doEvaluateAfterEvent ends), fun _ => ends⟩
  | watchDisconnect index =>
    refine (follows_bind _ _ _).mpr fun polled => ?_
    cases polled with
    | none => exact ⟨{}, rfl, rfl⟩
    | some session => exact ⟨⟨.no, .taking session⟩, rfl, owner_teardown rfl⟩
  | handleDisabled session =>
    refine (follows_bind _ _ _).mpr fun installed => ⟨_, rfl, ?_⟩
    cases installed with
    | true => exact owner_teardown rfl
    | false => exact owner_plain rfl fun _ => rfl
  | disconnects session => exact owner_plain rfl fun _ => rfl
  | connect d => exact owner_plain rfl fun _ => rfl
  | disconnect d => exact owner_plain rfl fun _ => rfl
  | recordPeerCapabilities d capabilities => exact owner_plain rfl fun _ => rfl
  | pair d => exact owner_plain rfl fun _ => rfl
  | unpair d => exact owner_plain rfl fun _ => rfl
  | broadcast kind => exact owner_plain rfl fun _ => rfl

end Phases

section Condition

/-- The task is about to go on with a teardown for a session's signal. -/
def tearsDown : CaptureProgram Unit → Bool
  | .act (dropRelease (some _)) _ => true
  | .act (takeSession (some _)) _ => true
  | .act (storeUnavailable (some _)) _ => true
  | _ => false

/-- A signal of a session is acted upon while no later session is in the slot,
and no session is put there while a teardown for a signal is under way. -/
def InTimeAction (pool : Tasks) : CaptureAction → Prop
  | pollWatcher index => ∀ session ∈ pool.shared.watchers[index]?.join, session ∈ pool.shared.disconnected →
    ∀ held ∈ pool.shared.portalSession, held ≤ session
  | getOnDisabled session => session ∈ pool.shared.onDisabled → ∀ held ∈ pool.shared.portalSession, held ≤ session
  | storeSession _ => ∀ body ∈ pool.tasks, tearsDown body = false
  | _ => True

instance (pool : Tasks) (action : CaptureAction) : Decidable (InTimeAction pool action) :=
  match action with
  | pollWatcher index => inferInstanceAs (Decidable (∀ session ∈ pool.shared.watchers[index]?.join,
      session ∈ pool.shared.disconnected → ∀ held ∈ pool.shared.portalSession, held ≤ session))
  | getOnDisabled session => inferInstanceAs (Decidable (session ∈ pool.shared.onDisabled →
      ∀ held ∈ pool.shared.portalSession, held ≤ session))
  | storeSession _ => inferInstanceAs (Decidable (∀ body ∈ pool.tasks, tearsDown body = false))
  | swapInFlight | clearInFlight | sessionIsSome | connIsSome | startSession | wireRelease _ | setOnDisabled _
  | swapPendingDisabled _ | latchPendingDisabled _ | dropRelease _ | takeSession _ | storeUnavailable _ | storeAvailable
  | closeSession _ | addCapabilities | spawnWatcher _ | disconnects _ | connectedIds | anyCapable _
  | peerIncomingCapabilities _ | isPaired _ | recv | roundEnds | connect _ | disconnect _ | recordPeerCapabilities _ _
  | pair _ | unpair _ | broadcast _ => inferInstanceAs (Decidable True)

def InTime (pool : Tasks) : Turn Call → Prop
  | .spawn _ => True
  | .take task => ∀ action ∈ pool.next task, InTimeAction pool action

instance (pool : Tasks) (turn : Turn Call) : Decidable (InTime pool turn) :=
  match turn with
  | .spawn _ => inferInstanceAs (Decidable True)
  | .take task => inferInstanceAs (Decidable (∀ action ∈ pool.next task, InTimeAction pool action))

end Condition

section Slot

variable {plugin : CapturePlugin} {s s' : CaptureState} {phases : Nat → OwnerPhase} {task : Nat} {later : OwnerPhase} {session : SessionId}

/-- What a task that has come so far with its activation can rely on. -/
def Flight.Fits (s : CaptureState) : Flight → Prop
  | no => True
  | checking => s.activationInFlight = true
  | has session => s.activationInFlight = true ∧ session + 1 = s.started
  | stored session => s.activationInFlight = true ∧ session + 1 = s.started ∧ ∀ held, s.portalSession = some held → held = session

/-- The slot holds no other session than the one that is torn down. -/
def Tearing.Fits (s : CaptureState) : Tearing → Prop
  | no => True
  | taking session => ∀ held, s.portalSession = some held → held = session
  | took _ => s.portalSession = none

/-- One activation is under way at a time, its session is the newest one, and
a session that can be torn down is not newer than the one in the slot. -/
structure Owned (s : CaptureState) (phases : Nat → OwnerPhase) : Prop where
  single : ∀ task other, (phases task).flight ≠ .no → (phases other).flight ≠ .no → task = other
  flights : ∀ task, (phases task).flight.Fits s
  tearings : ∀ task, (phases task).tearing.Fits s
  known : ∀ session, session ∈ s.onDisabled ∨ some session ∈ s.watchers → session < s.started
  newer : ∀ session, session ∈ s.onDisabled ∨ some session ∈ s.watchers → ∀ held, s.portalSession = some held → session ≤ held

theorem Flight.Fits.busy {flight : Flight} (fits : flight.Fits s) (flying : flight ≠ .no) : s.activationInFlight = true := by
  cases flight with
  | no => exact absurd rfl flying
  | checking => exact fits
  | has session => exact fits.1
  | stored session => exact fits.1

/-- What the invariant looks at is as before. -/
structure Unchanged (s s' : CaptureState) : Prop where
  flag : s'.activationInFlight = s.activationInFlight
  started : s'.started = s.started
  slot : s'.portalSession = s.portalSession
  hooks : ∀ session, session ∈ s'.onDisabled ∨ some session ∈ s'.watchers → session ∈ s.onDisabled ∨ some session ∈ s.watchers

theorem exec_plain (plugin : CapturePlugin) (s : CaptureState) {action : CaptureAction} (far : plain action = true) :
    Unchanged s (action.exec plugin s).2 := by
  cases action with
  | latchPendingDisabled session =>
    simp only [CaptureAction.exec]
    split <;> exact ⟨rfl, rfl, rfl, fun _ hook => hook⟩
  | recv =>
    simp only [CaptureAction.exec]
    split
    · exact ⟨rfl, rfl, rfl, fun _ hook => hook⟩
    · split
      · exact ⟨rfl, rfl, rfl, fun _ hook => hook⟩
      · split <;> exact ⟨rfl, rfl, rfl, fun _ hook => hook⟩
  | broadcast kind =>
    simp only [CaptureAction.exec]
    split <;> exact ⟨rfl, rfl, rfl, fun _ hook => hook⟩
  | swapInFlight => cases far
  | clearInFlight => cases far
  | startSession => cases far
  | storeSession other => cases far
  | setOnDisabled other => cases far
  | swapPendingDisabled other => cases far
  | getOnDisabled other => cases far
  | dropRelease owner => cases far
  | takeSession owner => cases far
  | storeUnavailable owner => cases far
  | spawnWatcher other => cases far
  | pollWatcher index => cases far
  | _ => exact ⟨rfl, rfl, rfl, fun _ hook => hook⟩

theorem Unchanged.flight (same : Unchanged s s') {flight : Flight} (fits : flight.Fits s) : flight.Fits s' := by
  cases flight with
  | no => trivial
  | checking => exact same.flag.trans fits
  | has session => exact ⟨same.flag.trans fits.1, fits.2.trans same.started.symm⟩
  | stored session => exact ⟨same.flag.trans fits.1, fits.2.1.trans same.started.symm, fun held there => fits.2.2 held (same.slot.symm.trans there)⟩

theorem Unchanged.tearing (same : Unchanged s s') {tearing : Tearing} (fits : tearing.Fits s) : tearing.Fits s' := by
  cases tearing with
  | no => trivial
  | taking session => exact fun held there => fits held (same.slot.symm.trans there)
  | took session => exact same.slot.trans fits

/-- A step of one task that leaves the others' ground alone. -/
theorem Owned.step (owned : Owned s phases)
    (single : later.flight = .no ∨ (phases task).flight ≠ .no ∨ ∀ other, (phases other).flight = .no)
    (flights : later.flight.Fits s' ∧ ∀ other, other ≠ task → (phases other).flight.Fits s → (phases other).flight.Fits s')
    (tearings : later.tearing.Fits s' ∧ ∀ other, other ≠ task → (phases other).tearing.Fits s → (phases other).tearing.Fits s')
    (known : ∀ session, session ∈ s'.onDisabled ∨ some session ∈ s'.watchers → session < s'.started)
    (newer : ∀ session, session ∈ s'.onDisabled ∨ some session ∈ s'.watchers → ∀ held, s'.portalSession = some held → session ≤ held) :
    Owned s' (Function.update phases task later) := by
  refine ⟨fun one other flying flying' => ?_, ?_, ?_, known, newer⟩
  · have alone {other : Nat} (apart : other ≠ task) (flying : later.flight ≠ .no) : (phases other).flight = .no := by
      by_contra theirs
      rcases single with ended | before | nobody
      · exact flying ended
      · exact apart (owned.single other task theirs before)
      · exact theirs (nobody other)
    by_cases here : one = task
    · by_cases there : other = task
      · exact here.trans there.symm
      · subst here
        rw [Function.update_self] at flying
        rw [Function.update_of_ne there] at flying'
        exact absurd (alone there flying) flying'
    · rw [Function.update_of_ne here] at flying
      by_cases there : other = task
      · subst there
        rw [Function.update_self] at flying'
        exact absurd (alone here flying') flying
      · rw [Function.update_of_ne there] at flying'
        exact owned.single one other flying flying'
  · exact (Function.forall_update_iff phases fun _ phase => phase.flight.Fits s').mpr
      ⟨flights.1, fun other apart => flights.2 other apart (owned.flights other)⟩
  · exact (Function.forall_update_iff phases fun _ phase => phase.tearing.Fits s').mpr
      ⟨tearings.1, fun other apart => tearings.2 other apart (owned.tearings other)⟩

/-- A step that changes nothing that the invariant looks at. -/
theorem Owned.unchanged (owned : Owned s phases) (same : Unchanged s s') (flight : later.flight = (phases task).flight)
    (tearing : later.tearing.Fits s) : Owned s' (Function.update phases task later) := by
  refine owned.step ?_ ⟨same.flight (flight ▸ owned.flights task), fun _ _ => same.flight⟩ ⟨same.tearing tearing, fun _ _ => same.tearing⟩
    (fun session hook => same.started ▸ owned.known session (same.hooks session hook))
    fun session hook held there => owned.newer session (same.hooks session hook) held (same.slot.symm.trans there)
  by_cases flying : (phases task).flight = .no
  · exact .inl (flight.trans flying)
  · exact .inr (.inl flying)

theorem Flight.Fits.taken {flight : Flight} (fits : flight.Fits s) : flight.Fits { s with portalSession := none } := by
  cases flight with
  | stored session => exact ⟨fits.1, fits.2.1, nofun⟩
  | _ => exact fits

theorem Tearing.Fits.taken {tearing : Tearing} (fits : tearing.Fits s) : tearing.Fits { s with portalSession := none } := by
  cases tearing with
  | no => exact fits
  | taking session => exact nofun
  | took session => rfl

theorem Owned.taken (owned : Owned s phases) (flight : later.flight = (phases task).flight)
    (tearing : later.tearing.Fits { s with portalSession := none }) :
    Owned { s with portalSession := none } (Function.update phases task later) := by
  refine owned.step ?_ ⟨flight ▸ (owned.flights task).taken, fun _ _ => .taken⟩ ⟨tearing, fun _ _ => .taken⟩ owned.known nofun
  by_cases flying : (phases task).flight = .no
  · exact .inl (flight.trans flying)
  · exact .inr (.inl flying)

/-- The flag is free: nobody else is activating. -/
theorem Owned.swapInFlight (owned : Owned s phases) (free : s.activationInFlight = false) :
    Owned { s with activationInFlight := true } (Function.update phases task { flight := .checking }) := by
  have nobody (other : Nat) : (phases other).flight = .no := by
    by_contra flying
    rw [(owned.flights other).busy flying] at free
    cases free
  refine owned.step (.inr (.inr nobody)) ⟨rfl, fun other _ _ => ?_⟩ ⟨trivial, fun other _ fits => ?_⟩ owned.known owned.newer
  · rw [nobody other]
    trivial
  · cases tearing : (phases other).tearing with
    | no => trivial
    | taking session => rwa [tearing] at fits
    | took session => rwa [tearing] at fits

/-- Nobody else is activating while one task is. -/
theorem Owned.others (owned : Owned s phases) (flying : (phases task).flight ≠ .no) {other : Nat} (apart : other ≠ task) :
    (phases other).flight = .no := by
  by_contra theirs
  exact apart (owned.single other task theirs flying)

/-- A step of the one activation that is under way, which keeps the others' teardowns fitting. -/
theorem Owned.flying (owned : Owned s phases) (flying : (phases task).flight ≠ .no) (flight : later.flight.Fits s')
    (tearings : later.tearing.Fits s' ∧ ∀ other, other ≠ task → (phases other).tearing.Fits s → (phases other).tearing.Fits s')
    (known : ∀ session, session ∈ s'.onDisabled ∨ some session ∈ s'.watchers → session < s'.started)
    (newer : ∀ session, session ∈ s'.onDisabled ∨ some session ∈ s'.watchers → ∀ held, s'.portalSession = some held → session ≤ held) :
    Owned s' (Function.update phases task later) := by
  refine owned.step (.inr (.inl flying)) ⟨flight, fun other apart _ => ?_⟩ tearings known newer
  rw [owned.others flying apart]
  trivial

theorem Tearing.Fits.of_slot {tearing : Tearing} (fits : tearing.Fits s) (slot : s'.portalSession = s.portalSession) : tearing.Fits s' := by
  cases tearing with
  | no => trivial
  | taking session => exact fun held there => fits held (slot.symm.trans there)
  | took session => exact slot.trans fits

variable {pool : Tasks}

/-- A teardown for a signal that is under way is about to go on. -/
theorem about_of_tearing (phased : Pool.Phased ownerMove {} (fun later => later = {}) pool phases) (tearing : (phases task).tearing ≠ .no) :
    ∃ body ∈ pool.tasks, tearsDown body = true := by
  have begun : phases task ≠ {} := by
    intro calm
    rw [calm] at tearing
    exact tearing rfl
  obtain ⟨action, about, moves⟩ := phased.busy begun begun
  obtain ⟨later, moved⟩ := moves (action.exec {} pool.shared).1
  obtain ⟨body, member, next, rfl⟩ := Pool.body_of_next about
  refine ⟨_, member, ?_⟩
  unfold ownerMove at moved
  split at moved
  · rename_i calm
    exact absurd calm tearing
  · rfl
  · rfl
  · rfl
  · cases moved

theorem Owned.storeSession (phased : Pool.Phased ownerMove {} (fun later => later = {}) pool phases) (owned : Owned pool.shared phases)
    (here : (phases task).flight = .has session) (inTime : ∀ body ∈ pool.tasks, tearsDown body = false) :
    Owned { pool.shared with portalSession := some session } (Function.update phases task { flight := .stored session }) := by
  have fits := owned.flights task
  rw [here] at fits
  have untorn (other : Nat) : (phases other).tearing = .no := by
    by_contra tearing
    obtain ⟨body, member, about⟩ := about_of_tearing phased tearing
    rw [inTime body member] at about
    cases about
  refine owned.flying (by rw [here]; nofun) ⟨fits.1, fits.2, fun held there => (Option.some.inj there).symm⟩
    ⟨trivial, fun other _ _ => ?_⟩ owned.known fun hooked hook held there => ?_
  · rw [untorn other]
    trivial
  · obtain rfl : session = held := Option.some.inj there
    have newest : session + 1 = pool.shared.started := fits.2
    exact Nat.lt_succ_iff.mp ((owned.known hooked hook).trans_eq newest.symm)

/-- The activation's own session becomes one that a signal can tear down. -/
theorem Owned.hooked (owned : Owned s phases) (here : (phases task).flight = .stored session) (fits : (Flight.stored session).Fits s)
    (same : s'.activationInFlight = s.activationInFlight ∧ s'.started = s.started ∧ s'.portalSession = s.portalSession ∧
      ∀ hooked, hooked ∈ s'.onDisabled ∨ some hooked ∈ s'.watchers →
        hooked = session ∨ hooked ∈ s.onDisabled ∨ some hooked ∈ s.watchers) :
    Owned s' (Function.update phases task { flight := .stored session }) := by
  obtain ⟨flag, started, slot, hooks⟩ := same
  refine owned.flying (by rw [here]; nofun) ⟨flag.trans fits.1, fits.2.1.trans started.symm, fun held there => ?_⟩
    ⟨trivial, fun _ _ torn => torn.of_slot slot⟩ (fun hooked hook => ?_) fun hooked hook held there => ?_
  · exact fits.2.2 held (slot.symm.trans there)
  · rw [started]
    rcases hooks hooked hook with rfl | old
    · exact fits.2.1 ▸ Nat.lt_succ_self hooked
    · exact owned.known hooked old
  · rw [slot] at there
    rcases hooks hooked hook with rfl | old
    · exact (fits.2.2 held there).ge
    · exact owned.newer hooked old held there

/-- Whatever a task does next, if it comes in time, the slot is in the right hands. -/
theorem Owned.exec (phased : Pool.Phased ownerMove {} (fun later => later = {}) pool phases) (owned : Owned pool.shared phases)
    {action : CaptureAction} (inTime : InTimeAction pool action)
    (moved : ownerMove (phases task) action (action.exec plugin pool.shared).1 = some later) :
    Owned (action.exec plugin pool.shared).2 (Function.update phases task later) := by
  have fits := owned.flights task
  have torn := owned.tearings task
  have same : Unchanged pool.shared pool.shared := ⟨rfl, rfl, rfl, fun _ hook => hook⟩
  cases phase : phases task with
  | mk flight tearing =>
  rw [phase] at moved fits torn
  have flightHere : (phases task).flight = flight := by rw [phase]
  cases tearing with
  | taking session =>
    cases action with
    | dropRelease owner =>
      cases owner with
      | none => cases moved
      | some other =>
        obtain ⟨rfl, rfl⟩ := Pool.of_guard moved
        exact owned.unchanged ⟨rfl, rfl, rfl, fun _ hook => hook⟩ flightHere.symm torn
    | takeSession owner =>
      cases owner with
      | none => cases moved
      | some other =>
        obtain ⟨rfl, rfl⟩ := Pool.of_guard moved
        refine owned.taken flightHere.symm ?_
        split
        · rfl
        · trivial
    | _ => cases moved
  | took session =>
    cases action with
    | storeUnavailable owner =>
      cases owner with
      | none => cases moved
      | some other =>
        obtain ⟨rfl, rfl⟩ := Pool.of_guard moved
        exact owned.unchanged ⟨rfl, rfl, rfl, fun _ hook => hook⟩ flightHere.symm trivial
    | _ => cases moved
  | no =>
    have moved : flightMove flight action (action.exec plugin pool.shared).1 = some later := moved
    by_cases far : plain action = true
    · have stays : later = { flight } := Option.some.inj (moved.symm.trans (ownerMove_plain far _))
      subst stays
      exact owned.unchanged (exec_plain plugin pool.shared far) flightHere.symm trivial
    · cases action with
      | swapInFlight =>
        cases flight with
        | no =>
          obtain rfl := Option.some.inj moved
          cases free : pool.shared.activationInFlight with
          | false =>
            simp only [CaptureAction.exec, free, Bool.false_eq_true, if_false]
            exact owned.swapInFlight free
          | true =>
            simp only [CaptureAction.exec, free, if_true]
            exact owned.unchanged ⟨free.symm, rfl, rfl, fun _ hook => hook⟩ flightHere.symm trivial
        | _ => cases moved
      | clearInFlight =>
        have flying : (phases task).flight ≠ .no := by
          rw [flightHere]
          rintro rfl
          cases moved
        obtain rfl : {} = later := by cases flight <;> first | exact absurd flightHere flying | exact Option.some.inj moved
        exact owned.flying flying trivial ⟨trivial, fun _ _ torn => torn.of_slot rfl⟩ owned.known owned.newer
      | startSession =>
        cases flight with
        | checking =>
          have flying : (phases task).flight ≠ .no := by rw [flightHere]; nofun
          cases chosen : pool.shared.choices pool.shared.chosen with
          | true =>
            obtain rfl : { flight := .has pool.shared.started } = later := by
              simpa [CaptureAction.exec, chosen, flightMove] using moved
            simp only [CaptureAction.exec, chosen, if_true]
            refine owned.flying flying ⟨fits, rfl⟩ ⟨trivial, fun _ _ torn => torn.of_slot rfl⟩ (fun session hook => ?_) owned.newer
            exact Nat.lt_succ_of_lt (owned.known session hook)
          | false =>
            obtain rfl : { flight := .checking } = later := by simpa [CaptureAction.exec, chosen, flightMove] using moved
            simp only [CaptureAction.exec, chosen, Bool.false_eq_true, if_false]
            exact owned.unchanged ⟨rfl, rfl, rfl, fun _ hook => hook⟩ flightHere.symm trivial
        | _ => cases moved
      | storeSession other =>
        cases flight with
        | has session =>
          obtain ⟨rfl, rfl⟩ := Pool.of_guard moved
          exact owned.storeSession phased flightHere inTime
        | _ => cases moved
      | setOnDisabled other =>
        cases flight with
        | stored session =>
          obtain ⟨rfl, rfl⟩ := Pool.of_guard moved
          have flying : (phases task).flight ≠ .no := by rw [flightHere]; nofun
          refine owned.hooked flightHere fits ⟨rfl, rfl, rfl, fun hooked hook => ?_⟩
          rcases hook with installed | watched
          · rcases List.mem_cons.mp installed with rfl | old
            · exact .inl rfl
            · exact .inr (.inl old)
          · exact .inr (.inr watched)
        | _ => cases moved
      | spawnWatcher other =>
        cases flight with
        | stored session =>
          obtain ⟨rfl, rfl⟩ := Pool.of_guard moved
          refine owned.hooked flightHere fits ⟨rfl, rfl, rfl, fun hooked hook => ?_⟩
          rcases hook with installed | watched
          · exact .inr (.inl installed)
          · rcases List.mem_append.mp watched with old | new
            · exact .inr (.inr old)
            · exact .inl (Option.some.inj (List.mem_singleton.mp new))
        | _ => cases moved
      | swapPendingDisabled other =>
        cases flight with
        | stored session =>
          obtain ⟨rfl, rfl⟩ := Pool.of_guard moved
          refine owned.unchanged ⟨rfl, rfl, rfl, fun _ hook => hook⟩ flightHere.symm ?_
          split
          · exact fits.2.2
          · trivial
        | _ => cases moved
      | getOnDisabled other =>
        cases flight with
        | no =>
          obtain rfl := Option.some.inj moved
          refine owned.unchanged same flightHere.symm ?_
          split
          · rename_i installed
            have installed := of_decide_eq_true installed
            exact fun held there => Nat.le_antisymm (inTime installed held there) (owned.newer other (.inl installed) held there)
          · trivial
        | _ => cases moved
      | pollWatcher index =>
        cases flight with
        | no =>
          simp only [CaptureAction.exec] at moved ⊢
          split at moved
          · rename_i session waiting
            split at moved
            · rename_i signalled
              obtain rfl := Option.some.inj moved
              simp only [signalled, if_true]
              have there : some session ∈ pool.shared.watchers := List.mem_of_getElem? (Option.join_eq_some_iff.mp waiting)
              refine owned.unchanged ⟨rfl, rfl, rfl, fun hooked hook => ?_⟩ flightHere.symm fun held slot => ?_
              · refine hook.imp id fun watched => ?_
                exact (List.mem_or_eq_of_mem_set watched).resolve_right nofun
              · exact Nat.le_antisymm (inTime session waiting signalled held slot) (owned.newer session (.inr there) held slot)
            · rename_i silent
              obtain rfl := Option.some.inj moved
              simp only [silent, if_false]
              exact owned.unchanged same flightHere.symm trivial
          · obtain rfl := Option.some.inj moved
            exact owned.unchanged same flightHere.symm trivial
        | _ => cases moved
      | dropRelease owner =>
        cases owner with
        | some other => cases flight <;> cases moved
        | none =>
          obtain rfl : { flight } = later := by cases flight <;> exact Option.some.inj moved
          exact owned.unchanged ⟨rfl, rfl, rfl, fun _ hook => hook⟩ flightHere.symm trivial
      | takeSession owner =>
        cases owner with
        | some other => cases flight <;> cases moved
        | none =>
          obtain rfl : { flight } = later := by cases flight <;> exact Option.some.inj moved
          exact owned.taken flightHere.symm trivial
      | storeUnavailable owner =>
        cases owner with
        | some other => cases flight <;> cases moved
        | none =>
          obtain rfl : { flight } = later := by cases flight <;> exact Option.some.inj moved
          exact owned.unchanged ⟨rfl, rfl, rfl, fun _ hook => hook⟩ flightHere.symm trivial
      | _ => exact absurd rfl far

end Slot

theorem owned_new (portalConn : Bool) (choices : Nat → Bool) : Owned (new portalConn choices) fun _ => {} where
  single _ _ flying := absurd rfl flying
  flights _ := trivial
  tearings _ := trivial
  known _ hook := by simp [new] at hook
  newer _ hook := by simp [new] at hook

theorem owned_run {plugin : CapturePlugin} {portalConn : Bool} {choices : Nat → Bool} {turns : List (Turn Call)}
    (inTime : ∀ k turn, turns[k]? = some turn → InTime (atTurn plugin portalConn choices turns k) turn) (k : Nat) :
    ∃ phases, Pool.Phased ownerMove {} (fun later => later = {}) (atTurn plugin portalConn choices turns k) phases ∧
      Owned (atTurn plugin portalConn choices turns k).shared phases := by
  refine Pool.Phased.run (I := fun s phases _ => Owned s phases) owner_program
    (fun pool phases task action later phased owned about inTime moved => ?_) (owned_new portalConn choices) inTime k
  exact owned.exec phased (inTime action about) moved

/-- In a run in which every signal is acted upon while no later session is in
the slot, and no session is put there while a teardown for a signal is
under way, a watcher or a `Disabled` callback never takes another
session than its own, and never makes the backend unavailable while a
later session is in the slot. -/
theorem teardown_of_own_session (plugin : CapturePlugin) (portalConn : Bool) (choices : Nat → Bool) (turns : List (Turn Call))
    (inTime : ∀ k turn, turns[k]? = some turn → InTime (atTurn plugin portalConn choices turns k) turn) (k task : Nat)
    (session held : SessionId) (slot : (atTurn plugin portalConn choices turns k).shared.portalSession = some held) :
    ((atTurn plugin portalConn choices turns k).next task = some (.takeSession (some session)) → held = session) ∧
      ((atTurn plugin portalConn choices turns k).next task = some (.storeUnavailable (some session)) → ¬ session < held) := by
  obtain ⟨phases, phased, owned⟩ := owned_run inTime k
  have torn := owned.tearings task
  refine ⟨fun about => ?_, fun about => ?_⟩
  · obtain ⟨later, moved⟩ := phased.moves about none
    cases phase : phases task with
    | mk flight tearing =>
    rw [phase] at moved torn
    cases tearing with
    | no => cases flight <;> cases moved
    | taking other =>
      obtain ⟨rfl, -⟩ := Pool.of_guard moved
      exact torn held slot
    | took other => cases moved
  · obtain ⟨later, moved⟩ := phased.moves about ()
    cases phase : phases task with
    | mk flight tearing =>
    rw [phase] at moved torn
    cases tearing with
    | no => cases flight <;> cases moved
    | taking other => cases moved
    | took other =>
      have empty : (atTurn plugin portalConn choices turns k).shared.portalSession = none := torn
      rw [slot] at empty
      cases empty

section Sample

/-- The phone's first session is torn down when its EI connection breaks. -/
def breaksDown : List (Turn Call) :=
  ([.spawn (.connect "phone"), .take 0, .spawn (.recordPeerCapabilities "phone" consumerIncomingCaps), .take 1,
    .spawn (.pair "phone"), .take 2, .spawn .activatePortalSession] : List (Turn Call)) ++ List.replicate 17 (Turn.take 3) ++
  ([.spawn (.disconnects 0), .take 4, .spawn (.watchDisconnect 0), .take 5, .take 5] : List (Turn Call))

def aboutToTake (task : Nat) (owner held : SessionId) (pool : Tasks) : Bool :=
  match pool.next task with
  | some (.takeSession (some session)) => decide (session = owner) && decide (pool.shared.portalSession = some held)
  | _ => false

theorem next_of_aboutToTake {task : Nat} {owner held : SessionId} {pool : Tasks} (about : aboutToTake task owner held pool = true) :
    pool.next task = some (.takeSession (some owner)) ∧ pool.shared.portalSession = some held := by
  unfold aboutToTake at about
  split at about
  · rename_i next
    simp only [Bool.and_eq_true, decide_eq_true_eq] at about
    exact ⟨about.1 ▸ next, about.2⟩
  · cases about

theorem own_session_taken :
    (atTurn {} true (fun _ => true) breaksDown breaksDown.length).shared.portalSession = some 0 ∧
      ∀ held, (atTurn {} true (fun _ => true) breaksDown breaksDown.length).shared.portalSession = some held → held = 0 := by
  have passes : Pool.along (CaptureAction.exec {}) (program {}) (fun pool turn => decide (InTime pool turn)) (aboutToTake 5 0 0)
      (Pool.start (new true fun _ => true)) breaksDown = true := by
    decide +kernel
  have final : aboutToTake 5 0 0 (atTurn {} true (fun _ => true) breaksDown breaksDown.length) = true := (Pool.along_after passes).2
  obtain ⟨about, slot⟩ := next_of_aboutToTake final
  refine ⟨slot, fun held there => ?_⟩
  refine (teardown_of_own_session {} true (fun _ => true) breaksDown (fun k turn here => ?_) _ 5 0 held there).1 about
  exact of_decide_eq_true ((Pool.along_after passes).1 k turn here)

/-- The watcher of the first session comes to act when that session has been
torn down by the gate and a second one has been started. -/
def actsTooLate : List (Turn Call) :=
  ([.spawn (.connect "phone"), .take 0, .spawn (.recordPeerCapabilities "phone" consumerIncomingCaps), .take 1,
    .spawn (.pair "phone"), .take 2, .spawn .activatePortalSession] : List (Turn Call)) ++ List.replicate 17 (Turn.take 3) ++
  ([.spawn .deactivatePortalSession] : List (Turn Call)) ++ List.replicate 4 (Turn.take 4) ++
  ([.spawn (.disconnects 0), .take 5] : List (Turn Call)) ++ ([.spawn .activatePortalSession] : List (Turn Call)) ++
  List.replicate 17 (Turn.take 6) ++ ([.spawn (.watchDisconnect 0), .take 7, .take 7] : List (Turn Call))

theorem later_session_taken : ¬ ∀ (plugin : CapturePlugin) (portalConn : Bool) (choices : Nat → Bool) (turns : List (Turn Call)) (k task : Nat)
    (session held : SessionId), (atTurn plugin portalConn choices turns k).shared.portalSession = some held →
      (atTurn plugin portalConn choices turns k).next task = some (.takeSession (some session)) → held = session := by
  intro always
  have passes : Pool.along (CaptureAction.exec {}) (program {}) (fun _ _ => true) (aboutToTake 7 0 1)
      (Pool.start (new true fun _ => true)) actsTooLate = true := by
    decide +kernel
  have final : aboutToTake 7 0 1 (atTurn {} true (fun _ => true) actsTooLate actsTooLate.length) = true := (Pool.along_after passes).2
  obtain ⟨about, slot⟩ := next_of_aboutToTake final
  exact absurd (always {} true (fun _ => true) actsTooLate actsTooLate.length 7 0 1 slot about) nofun

end Sample

end InputCapture

end RustConnect
