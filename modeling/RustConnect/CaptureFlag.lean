import RustConnect.InputCapture

namespace RustConnect

namespace InputCapture

open Program CaptureAction

section Phases

/-- Where a task is between its writes of the slot and of the flag: it may have
put a session into the slot that it has not found there again, and it may
be about to write the flag. -/
inductive FlagPhase
  | calm (installing : Bool)
  | available
  | unavailable (installing : Bool)
  deriving DecidableEq

def flagMove : FlagPhase → (action : CaptureAction) → action.Answer → Option FlagPhase
  | .calm _, storeSession _, _ => some (.calm true)
  | .calm true, sessionIsSome, found => some (if found then .available else .calm false)
  | .calm installing, takeSession _, taken => some (if taken.isSome then .unavailable installing else .calm installing)
  | .calm _, storeAvailable, _ => none
  | .calm _, storeUnavailable _, _ => none
  | .calm installing, _, _ => some (.calm installing)
  | .available, storeAvailable, _ => some (.calm false)
  | .available, _, _ => none
  | .unavailable installing, storeUnavailable _, _ => some (.calm installing)
  | .unavailable _, _, _ => none

/-- The action writes neither the slot nor the flag, and does not look at the slot. -/
def aside : CaptureAction → Bool
  | storeSession _ => false
  | sessionIsSome => false
  | takeSession _ => false
  | storeAvailable => false
  | storeUnavailable _ => false
  | _ => true

variable {plugin : CapturePlugin} {installing : Bool}

theorem flagMove_aside {action : CaptureAction} (far : aside action = true) (answer : action.Answer) :
    flagMove (.calm installing) action answer = some (.calm installing) := by
  cases action <;> first | cases far; done | cases installing <;> rfl

theorem flag_aside {action : CaptureAction} (far : aside action = true) {Q : FlagPhase → action.Answer → Prop}
    (rest : ∀ answer, Q (.calm installing) answer) : Follows flagMove (.calm installing) (perform action) Q :=
  fun answer => ⟨_, flagMove_aside far answer, rest answer⟩

theorem aside_of_reads {action : CaptureAction} (reads : Reads action) : aside action = true := by
  cases action <;> first | rfl | cases reads

theorem flag_reads {α : Type} {reading : CaptureProgram α} (only : reading.Only Reads fun _ => True) {Q : FlagPhase → α → Prop}
    (rest : ∀ value, Q (.calm installing) value) : Follows flagMove (.calm installing) reading Q := by
  refine (only.follows fun action reads answer => flagMove_aside (aside_of_reads reads) answer).weaken fun later value stays => ?_
  rw [stays.1]
  exact rest value

theorem flag_doDeactivate (owner : Option SessionId) {Q : FlagPhase → Unit → Prop} (rest : Q (.calm installing) ()) :
    Follows flagMove (.calm installing) (doDeactivate owner) Q := by
  refine (follows_bind _ _ _).mpr (flag_aside rfl fun _ => ?_)
  refine (follows_bind _ _ _).mpr fun taken => ⟨if taken.isSome then .unavailable installing else .calm installing, ?_, ?_⟩
  · cases installing <;> rfl
  · cases taken with
    | none => exact rest
    | some session => exact fun _ => ⟨.calm installing, rfl, flag_aside rfl fun _ => rest⟩

theorem flag_installSession (session : SessionId) {Q : FlagPhase → Unit → Prop} (rest : Q (.calm false) ()) :
    Follows flagMove (.calm false) (installSession plugin session) Q := by
  have checked : Follows flagMove (.calm true) (do
      if ← perform sessionIsSome then
        perform storeAvailable
        if plugin.connectionManager then
          perform addCapabilities
          let postConsumers ← capableConsumerIds plugin
          if postConsumers.isEmpty then
            doDeactivate none
          else perform (spawnWatcher session)
        else perform (spawnWatcher session)) Q := by
    refine (follows_bind _ _ _).mpr fun found => ⟨_, rfl, ?_⟩
    cases found with
    | false => exact rest
    | true =>
      refine (follows_bind _ _ _).mpr fun _ => ⟨.calm false, rfl, ?_⟩
      refine (follows_ite _ _ _ _).mpr ⟨fun _ => ?_, fun _ => flag_aside rfl fun _ => rest⟩
      refine (follows_bind _ _ _).mpr (flag_aside rfl fun _ => ?_)
      refine (follows_bind _ _ _).mpr (flag_reads (only_capableConsumerIds plugin) fun consumers => ?_)
      exact (follows_ite _ _ _ _).mpr ⟨fun _ => flag_doDeactivate none rest, fun _ => flag_aside rfl fun _ => rest⟩
  refine (follows_bind _ _ _).mpr (flag_aside rfl fun _ => ?_)
  refine (follows_bind _ _ _).mpr fun _ => ⟨.calm true, rfl, ?_⟩
  refine (follows_bind _ _ _).mpr ?_
  refine (follows_bind _ _ _).mpr (flag_aside rfl fun _ => ?_)
  refine (follows_bind _ _ _).mpr (flag_aside rfl fun pending => ?_)
  exact (follows_ite _ _ _ _).mpr ⟨fun _ => flag_doDeactivate (some session) checked, fun _ => checked⟩

theorem flag_doActivate {Q : FlagPhase → Unit → Prop} (rest : Q (.calm false) ()) :
    Follows flagMove (.calm false) (doActivate plugin) Q := by
  refine (follows_bind _ _ _).mpr (flag_aside rfl fun busy => ?_)
  refine (follows_ite _ _ _ _).mpr ⟨fun _ => rest, fun _ => ?_⟩
  have clears : Follows flagMove (.calm false) (perform clearInFlight) Q := flag_aside rfl fun _ => rest
  refine (follows_bind _ _ _).mpr ((follows_bind _ _ _).mpr fun live => ⟨.calm false, rfl, ?_⟩)
  refine (follows_ite _ _ _ _).mpr ⟨fun _ => clears, fun _ => ?_⟩
  refine (follows_bind _ _ _).mpr (flag_aside rfl fun probed => ?_)
  refine (follows_ite _ _ _ _).mpr ⟨fun _ => ?_, fun _ => clears⟩
  refine (follows_bind _ _ _).mpr (flag_aside rfl fun started => ?_)
  cases started with
  | none => exact clears
  | some session => exact flag_installSession session clears

theorem flag_doEvaluateAfterEvent {Q : FlagPhase → Unit → Prop} (rest : Q (.calm false) ()) :
    Follows flagMove (.calm false) (doEvaluateAfterEvent plugin) Q := by
  refine (follows_bind _ _ _).mpr (flag_reads (only_capableConsumerIds plugin) fun consumers => ?_)
  refine (follows_bind _ _ _).mpr fun live => ⟨.calm false, rfl, ?_⟩
  refine (follows_ite _ _ _ _).mpr ⟨fun _ => ?_, fun _ => ?_⟩
  · refine (follows_bind _ _ _).mpr (flag_aside rfl fun probed => ?_)
    exact (follows_ite _ _ _ _).mpr ⟨fun _ => flag_doActivate rest, fun _ => rest⟩
  · exact (follows_ite _ _ _ _).mpr ⟨fun _ => flag_doDeactivate none rest, fun _ => rest⟩

theorem flag_program (op : Call) : Follows flagMove (.calm false) (program plugin op) fun later _ => later = .calm false := by
  cases op with
  | activatePortalSession => exact flag_doActivate rfl
  | deactivatePortalSession => exact flag_doDeactivate none rfl
  | evaluate => exact flag_doEvaluateAfterEvent rfl
  | gateRound =>
    refine (follows_bind _ _ _).mpr (flag_aside rfl fun received => ?_)
    cases received with
    | none => rfl
    | some received =>
      have ends : Follows flagMove (.calm false) (perform roundEnds) fun later _ => later = .calm false := flag_aside rfl fun _ => rfl
      exact (follows_ite _ _ _ _).mpr ⟨fun _ => (follows_bind _ _ _).mpr (flag_doEvaluateAfterEvent ends), fun _ => ends⟩
  | watchDisconnect index =>
    refine (follows_bind _ _ _).mpr (flag_aside rfl fun polled => ?_)
    cases polled with
    | none => rfl
    | some session => exact flag_doDeactivate (some session) rfl
  | handleDisabled session =>
    refine (follows_bind _ _ _).mpr (flag_aside rfl fun installed => ?_)
    exact (follows_ite _ _ _ _).mpr ⟨fun _ => flag_doDeactivate (some session) rfl, fun _ => flag_aside rfl fun _ => rfl⟩
  | disconnects session => exact flag_aside rfl fun _ => rfl
  | connect d => exact flag_aside rfl fun _ => rfl
  | disconnect d => exact flag_aside rfl fun _ => rfl
  | recordPeerCapabilities d capabilities => exact flag_aside rfl fun _ => rfl
  | pair d => exact flag_aside rfl fun _ => rfl
  | unpair d => exact flag_aside rfl fun _ => rfl
  | broadcast kind => exact flag_aside rfl fun _ => rfl

end Phases

section Condition

/-- The task is about to store that the backend is available. -/
def makesAvailable : CaptureProgram Unit → Bool
  | .act storeAvailable _ => true
  | _ => false

/-- The task is about to store that the backend is not available. -/
def makesUnavailable : CaptureProgram Unit → Bool
  | .act (storeUnavailable _) _ => true
  | _ => false

/-- The flag is not written in one way while another task is about to write it in the other. -/
def UndisturbedAction (pool : Tasks) : CaptureAction → Prop
  | storeAvailable => ∀ body ∈ pool.tasks, makesUnavailable body = false
  | storeUnavailable _ => ∀ body ∈ pool.tasks, makesAvailable body = false
  | _ => True

instance (pool : Tasks) (action : CaptureAction) : Decidable (UndisturbedAction pool action) := by
  cases action <;> unfold UndisturbedAction <;> infer_instance

def Undisturbed (pool : Tasks) : Turn Call → Prop
  | .spawn _ => True
  | .take task => ∀ action ∈ pool.next task, UndisturbedAction pool action

instance (pool : Tasks) (turn : Turn Call) : Decidable (Undisturbed pool turn) := by
  cases turn <;> unfold Undisturbed <;> infer_instance

end Condition

section Truth

variable {plugin : CapturePlugin} {s s' : CaptureState} {phases : Nat → FlagPhase} {task : Nat} {later : FlagPhase}

def FlagPhase.installs : FlagPhase → Bool
  | calm installing => installing
  | available => false
  | unavailable installing => installing

def FlagPhase.takes : FlagPhase → Bool
  | unavailable _ => true
  | _ => false

/-- The flag tells whether the slot holds a session, up to the writes that are
still to come: the tasks that have not looked at the slot again keep the
flag down, and those that have emptied it will take it down. -/
structure Fitting (s : CaptureState) (phases : Nat → FlagPhase) : Prop where
  checked : ∀ task, phases task = .available → s.portalSession.isSome
  empty : (∀ task, (phases task).takes = false) → s.portalSession = none → s.backendAvailable = false
  full : (∀ task, (phases task).takes = false) → (∀ task, phases task ≠ .available) → (∀ task, (phases task).installs = false) →
    s.portalSession.isSome → s.backendAvailable = true
  earlier : ∀ task, (phases task).takes = true → s.portalSession.isSome → ∃ other, (phases other).installs = true

/-- Two tasks are about to write the flag in two ways, and will be. -/
def Stuck (phases : Nat → FlagPhase) : Prop :=
  (∃ task, phases task = .available) ∧ ∃ task, (phases task).takes = true

theorem exec_aside (plugin : CapturePlugin) (s : CaptureState) {action : CaptureAction} (far : aside action = true) :
    (action.exec plugin s).2.portalSession = s.portalSession ∧ (action.exec plugin s).2.backendAvailable = s.backendAvailable := by
  cases action with
  | storeSession session => cases far
  | sessionIsSome => cases far
  | takeSession owner => cases far
  | storeAvailable => cases far
  | storeUnavailable owner => cases far
  | startSession =>
    simp only [CaptureAction.exec]
    split <;> exact ⟨rfl, rfl⟩
  | latchPendingDisabled session =>
    simp only [CaptureAction.exec]
    split <;> exact ⟨rfl, rfl⟩
  | pollWatcher index =>
    simp only [CaptureAction.exec]
    split
    · split <;> exact ⟨rfl, rfl⟩
    · exact ⟨rfl, rfl⟩
  | recv =>
    simp only [CaptureAction.exec]
    split
    · exact ⟨rfl, rfl⟩
    · split
      · exact ⟨rfl, rfl⟩
      · split <;> exact ⟨rfl, rfl⟩
  | broadcast kind =>
    simp only [CaptureAction.exec]
    split <;> exact ⟨rfl, rfl⟩
  | _ => exact ⟨rfl, rfl⟩

variable {pool : Tasks}

/-- What a task in the phase is about to do, where the phase allows one action only. -/
theorem about_of_available (phased : Pool.Phased flagMove (.calm false) (fun later => later = .calm false) pool phases)
    (here : phases task = .available) : ∃ body ∈ pool.tasks, makesAvailable body = true := by
  have begun : phases task ≠ .calm false := by rw [here]; nofun
  obtain ⟨action, about, moves⟩ := phased.busy begun begun
  obtain ⟨later, moved⟩ := moves (action.exec {} pool.shared).1
  obtain ⟨body, member, starts⟩ := Pool.body_of_next about
  refine ⟨body, member, ?_⟩
  rw [here] at moved
  cases action with
  | storeAvailable =>
    obtain ⟨next, rfl⟩ := starts
    rfl
  | _ => cases moved

theorem about_of_takes (phased : Pool.Phased flagMove (.calm false) (fun later => later = .calm false) pool phases)
    (here : (phases task).takes = true) : ∃ body ∈ pool.tasks, makesUnavailable body = true := by
  have begun : phases task ≠ .calm false := by
    intro calm
    rw [calm] at here
    cases here
  obtain ⟨action, about, moves⟩ := phased.busy begun begun
  obtain ⟨later, moved⟩ := moves (action.exec {} pool.shared).1
  obtain ⟨body, member, starts⟩ := Pool.body_of_next about
  refine ⟨body, member, ?_⟩
  cases phase : phases task with
  | unavailable installing =>
    rw [phase] at moved
    cases action with
    | storeUnavailable owner =>
      obtain ⟨next, rfl⟩ := starts
      rfl
    | _ => cases moved
  | _ =>
    rw [phase] at here
    cases here

theorem Stuck.move (stuck : Stuck phases) {installing : Bool} (here : phases task = .calm installing) (later : FlagPhase) :
    Stuck (Function.update phases task later) := by
  obtain ⟨⟨one, available⟩, other, takes⟩ := stuck
  have apart : one ≠ task := by
    rintro rfl
    rw [here] at available
    cases available
  have apart' : other ≠ task := by
    rintro rfl
    rw [here] at takes
    cases takes
  exact ⟨⟨one, by rw [Function.update_of_ne apart, available]⟩, other, by rw [Function.update_of_ne apart', takes]⟩

theorem Fitting.stay (fitting : Fitting s phases) (slot : s'.portalSession = s.portalSession)
    (flag : s'.backendAvailable = s.backendAvailable) (same : later = phases task) : Fitting s' (Function.update phases task later) := by
  rw [same, Function.update_eq_self]
  exact ⟨fun task checked => by rw [slot]; exact fitting.checked task checked,
    fun takes none => by rw [flag]; exact fitting.empty takes (slot ▸ none),
    fun takes available installs some => by rw [flag]; exact fitting.full takes available installs (slot ▸ some),
    fun task takes some => fitting.earlier task takes (slot ▸ some)⟩

theorem fitting_storeSession (s : CaptureState) (phases : Nat → FlagPhase) (task : Nat) (session : SessionId) :
    Fitting { s with portalSession := some session } (Function.update phases task (.calm true)) := by
  refine ⟨fun _ _ => rfl, fun _ none => ?_, fun _ _ installs => ?_, fun _ _ _ => ⟨task, by rw [Function.update_self]; rfl⟩⟩
  · cases none
  · have own := installs task
    rw [Function.update_self] at own
    cases own

theorem fitting_found (some : s.portalSession.isSome) (here : phases task = .calm true) :
    Stuck (Function.update phases task .available) ∨ Fitting s (Function.update phases task .available) := by
  by_cases taken : ∃ other, (phases other).takes = true
  · obtain ⟨other, takes⟩ := taken
    have apart : other ≠ task := by
      rintro rfl
      rw [here] at takes
      cases takes
    exact .inl ⟨⟨task, Function.update_self ..⟩, other, by rw [Function.update_of_ne apart, takes]⟩
  · refine .inr ⟨fun _ _ => some, fun _ none => ?_, fun _ available => ?_, fun other takes => ?_⟩
    · rw [none] at some
      cases some
    · exact absurd (Function.update_self ..) (available task)
    · have never : ∀ other, (Function.update phases task .available other).takes ≠ true :=
        (Function.forall_update_iff phases fun _ phase => phase.takes ≠ true).mpr ⟨nofun, fun other _ takes => taken ⟨other, takes⟩⟩
      exact absurd takes (never other)

theorem Fitting.missed (fitting : Fitting s phases) (none : s.portalSession = none) (here : phases task = .calm true) :
    Fitting s (Function.update phases task (.calm false)) := by
  refine ⟨fun other => ?_, fun takes _ => fitting.empty (fun other => ?_) none, fun _ _ _ some => ?_, fun _ _ some => ?_⟩
  · revert other
    exact (Function.forall_update_iff phases fun _ phase => phase = .available → s.portalSession.isSome).mpr
      ⟨nofun, fun other _ => fitting.checked other⟩
  · by_cases own : other = task
    · subst own
      rw [here]
      rfl
    · have theirs := takes other
      rwa [Function.update_of_ne own] at theirs
  · rw [none] at some
    cases some
  · rw [none] at some
    cases some

theorem fitting_take {installing : Bool} (here : phases task = .calm installing) :
    Stuck (Function.update phases task (.unavailable installing)) ∨
      Fitting { s with portalSession := none } (Function.update phases task (.unavailable installing)) := by
  by_cases checked : ∃ other, phases other = .available
  · obtain ⟨other, available⟩ := checked
    have apart : other ≠ task := by
      rintro rfl
      rw [here] at available
      cases available
    exact .inl ⟨⟨other, by rw [Function.update_of_ne apart, available]⟩, task, by rw [Function.update_self]; rfl⟩
  · refine .inr ⟨fun other available => ?_, fun takes => ?_, fun takes => ?_, fun _ _ some => by cases some⟩
    · have never : ∀ other, Function.update phases task (.unavailable installing) other ≠ .available :=
        (Function.forall_update_iff phases fun _ phase => phase ≠ .available).mpr ⟨nofun, fun other _ found => checked ⟨other, found⟩⟩
      exact absurd available (never other)
    · have own := takes task
      rw [Function.update_self] at own
      cases own
    · have own := takes task
      rw [Function.update_self] at own
      cases own

theorem Fitting.storeAvailable (fitting : Fitting s phases) (here : phases task = .available)
    (undisturbed : ∀ other, (phases other).takes = false) :
    Fitting { s with backendAvailable := true } (Function.update phases task (.calm false)) := by
  have some := fitting.checked task here
  refine ⟨fun _ _ => some, fun _ none => ?_, fun _ _ _ _ => rfl, fun other takes => ?_⟩
  · rw [show s.portalSession = _ from none] at some
    cases some
  · have never : ∀ other, (Function.update phases task (.calm false) other).takes = false :=
      (Function.forall_update_iff phases fun _ phase => phase.takes = false).mpr ⟨rfl, fun other _ => undisturbed other⟩
    rw [never] at takes
    cases takes

theorem Fitting.storeUnavailable (fitting : Fitting s phases) {installing : Bool} (here : phases task = .unavailable installing)
    (undisturbed : ∀ other, phases other ≠ .available) :
    Fitting { s with backendAvailable := false } (Function.update phases task (.calm installing)) := by
  have takes : (phases task).takes = true := by rw [here]; rfl
  have installs (other : Nat) : (Function.update phases task (.calm installing) other).installs = (phases other).installs := by
    by_cases own : other = task
    · subst own
      rw [Function.update_self, here]
      rfl
    · rw [Function.update_of_ne own]
  refine ⟨fun other available => ?_, fun _ _ => rfl, fun _ _ none some => ?_, fun other _ some => ?_⟩
  · have never : ∀ other, Function.update phases task (.calm installing) other ≠ .available :=
      (Function.forall_update_iff phases fun _ phase => phase ≠ .available).mpr ⟨nofun, fun other _ => undisturbed other⟩
    exact absurd available (never other)
  · obtain ⟨other, installing⟩ := fitting.earlier task takes some
    rw [← installs, none other] at installing
    cases installing
  · obtain ⟨other, installing⟩ := fitting.earlier task takes some
    exact ⟨other, by rw [installs, installing]⟩

/-- Whatever a task does next, if it does not write the flag against another
task, the flag and the slot stay fitting. -/
theorem flag_step (phased : Pool.Phased flagMove (.calm false) (fun later => later = .calm false) pool phases)
    (holds : Stuck phases ∨ Fitting pool.shared phases) {action : CaptureAction} (undisturbed : UndisturbedAction pool action)
    (moved : flagMove (phases task) action (action.exec plugin pool.shared).1 = some later) :
    Stuck (Function.update phases task later) ∨ Fitting (action.exec plugin pool.shared).2 (Function.update phases task later) := by
  cases here : phases task with
  | calm installing =>
    rcases holds with stuck | fitting
    · exact .inl (stuck.move here later)
    · rw [here] at moved
      by_cases far : aside action = true
      · rw [flagMove_aside far] at moved
        obtain ⟨slot, flag⟩ := exec_aside plugin pool.shared far
        exact .inr (fitting.stay slot flag ((Option.some.inj moved).symm.trans here.symm))
      · cases action with
        | storeSession session =>
          obtain rfl := Option.some.inj moved
          exact .inr (fitting_storeSession pool.shared phases task session)
        | sessionIsSome =>
          cases installing with
          | false => exact .inr (fitting.stay rfl rfl ((Option.some.inj moved).symm.trans here.symm))
          | true =>
            cases slot : pool.shared.portalSession with
            | some session =>
              have found : pool.shared.portalSession.isSome = true := by rw [slot]; rfl
              obtain rfl : FlagPhase.available = later := by simpa [flagMove, CaptureAction.exec, slot] using moved
              exact fitting_found found here
            | none =>
              obtain rfl : FlagPhase.calm false = later := by simpa [flagMove, CaptureAction.exec, slot] using moved
              exact .inr (fitting.missed slot here)
        | takeSession owner =>
          cases slot : pool.shared.portalSession with
          | some session =>
            obtain rfl : FlagPhase.unavailable installing = later := by
              cases installing <;> simpa [flagMove, CaptureAction.exec, slot] using moved
            exact fitting_take here
          | none =>
            obtain rfl : FlagPhase.calm installing = later := by
              cases installing <;> simpa [flagMove, CaptureAction.exec, slot] using moved
            exact .inr (fitting.stay slot.symm rfl here.symm)
        | storeAvailable => cases installing <;> cases moved
        | storeUnavailable owner => cases installing <;> cases moved
        | _ => exact absurd rfl far
  | available =>
    rw [here] at moved
    cases action with
    | storeAvailable =>
      obtain rfl := Option.some.inj moved
      have alone (other : Nat) : (phases other).takes = false := by
        rw [Bool.eq_false_iff]
        intro takes
        obtain ⟨body, member, about⟩ := about_of_takes phased takes
        rw [undisturbed body member] at about
        cases about
      have fitting := holds.resolve_left fun stuck => by
        obtain ⟨other, takes⟩ := stuck.2
        rw [alone] at takes
        cases takes
      exact .inr (fitting.storeAvailable here alone)
    | _ => cases moved
  | unavailable installing =>
    rw [here] at moved
    cases action with
    | storeUnavailable owner =>
      obtain rfl := Option.some.inj moved
      have alone (other : Nat) : phases other ≠ .available := by
        intro available
        obtain ⟨body, member, about⟩ := about_of_available phased available
        rw [undisturbed body member] at about
        cases about
      have fitting := holds.resolve_left fun stuck => by
        obtain ⟨other, available⟩ := stuck.1
        exact alone other available
      exact .inr (fitting.storeUnavailable here alone)
    | _ => cases moved

end Truth

theorem fitting_new (portalConn : Bool) (choices : Nat → Bool) : Fitting (new portalConn choices) fun _ => .calm false where
  checked _ available := by cases available
  empty _ _ := rfl
  full _ _ _ some := by cases some
  earlier _ takes := by cases takes

theorem flag_run {plugin : CapturePlugin} {portalConn : Bool} {choices : Nat → Bool} {turns : List (Turn Call)}
    (undisturbed : ∀ k turn, turns[k]? = some turn → Undisturbed (atTurn plugin portalConn choices turns k) turn) (k : Nat) :
    ∃ phases, Pool.Phased flagMove (.calm false) (fun later => later = .calm false) (atTurn plugin portalConn choices turns k) phases ∧
      (Stuck phases ∨ Fitting (atTurn plugin portalConn choices turns k).shared phases) ∧
      ∀ task, Pool.reached flagMove (.calm false) (atTurn plugin portalConn choices turns k).trace task = phases task := by
  refine Pool.Phased.run (I := fun s phases trace => (Stuck phases ∨ Fitting s phases) ∧
    ∀ task, Pool.reached flagMove (.calm false) trace task = phases task) flag_program
    (fun pool phases task action later phased holds about undisturbed moved => ?_)
    ⟨.inr (fitting_new portalConn choices), fun _ => rfl⟩ undisturbed k
  exact ⟨flag_step phased holds.1 (undisturbed action about) moved, Pool.reached_append holds.2 moved⟩

/-- In a run in which no task writes the flag while another is about to write it
in the other way, whenever no activation, no teardown and no `Disabled`
callback is running, the backend is available if and only if the
slot holds a session. -/
theorem available_iff_session (plugin : CapturePlugin) (portalConn : Bool) (choices : Nat → Bool) (turns : List (Turn Call))
    (undisturbed : ∀ k turn, turns[k]? = some turn → Undisturbed (atTurn plugin portalConn choices turns k) turn) (k : Nat)
    (rest : (atTurn plugin portalConn choices turns k).Resting) :
    (atTurn plugin portalConn choices turns k).shared.backendAvailable = true ↔
      (atTurn plugin portalConn choices turns k).shared.portalSession.isSome = true := by
  obtain ⟨phases, phased, holds, same⟩ := flag_run undisturbed k
  have calm (task : Nat) : phases task = .calm false := (phased.resting same rest task).elim id id
  have fitting := holds.resolve_left fun stuck => by
    obtain ⟨other, available⟩ := stuck.1
    rw [calm] at available
    cases available
  have quiet (task : Nat) : (phases task).takes = false := by rw [calm]; rfl
  constructor
  · intro available
    by_contra none
    rw [Bool.not_eq_true, Option.isSome_eq_false_iff, Option.isNone_iff_eq_none] at none
    rw [fitting.empty quiet none] at available
    cases available
  · exact fitting.full quiet (fun task => by rw [calm]; nofun) fun task => by rw [calm]; rfl

section Sample

/-- An activation and a deactivation, and then another activation, one after the other. -/
def turnsOnAndOff : List (Turn Call) :=
  ([.spawn (.connect "phone"), .take 0, .spawn (.recordPeerCapabilities "phone" consumerIncomingCaps), .take 1,
    .spawn (.pair "phone"), .take 2, .spawn .activatePortalSession] : List (Turn Call)) ++ List.replicate 17 (Turn.take 3) ++
  ([.spawn .deactivatePortalSession] : List (Turn Call)) ++ List.replicate 4 (Turn.take 4) ++
  ([.spawn .activatePortalSession] : List (Turn Call)) ++ List.replicate 17 (Turn.take 5)

def secondSession (pool : Tasks) : Bool := decide pool.Resting && decide (pool.shared.portalSession = some 1)

theorem second_session_available :
    (atTurn {} true (fun _ => true) turnsOnAndOff turnsOnAndOff.length).shared.portalSession = some 1 ∧
      (atTurn {} true (fun _ => true) turnsOnAndOff turnsOnAndOff.length).shared.backendAvailable = true := by
  have passes : Pool.along (CaptureAction.exec {}) (program {}) (fun pool turn => decide (Undisturbed pool turn)) secondSession
      (Pool.start (new true fun _ => true)) turnsOnAndOff = true := by
    decide +kernel
  have final : secondSession (atTurn {} true (fun _ => true) turnsOnAndOff turnsOnAndOff.length) = true := (Pool.along_after passes).2
  simp only [secondSession, Bool.and_eq_true, decide_eq_true_eq] at final
  refine ⟨final.2, (available_iff_session {} true (fun _ => true) turnsOnAndOff (fun k turn here => ?_) _ final.1).mpr ?_⟩
  · exact of_decide_eq_true ((Pool.along_after passes).1 k turn here)
  · rw [final.2]
    rfl

/-- The portal disables the session when its activation has found it in the slot and has not yet stored the flag. -/
def disabledTooLate : List (Turn Call) :=
  ([.spawn (.connect "phone"), .take 0, .spawn (.recordPeerCapabilities "phone" consumerIncomingCaps), .take 1,
    .spawn (.pair "phone"), .take 2, .spawn .activatePortalSession] : List (Turn Call)) ++ List.replicate 9 (Turn.take 3) ++
  ([.spawn (.handleDisabled 0)] : List (Turn Call)) ++ List.replicate 5 (Turn.take 4) ++ List.replicate 8 (Turn.take 3)

def availableUnheld (pool : Tasks) : Bool :=
  decide pool.Resting && pool.shared.backendAvailable && pool.shared.portalSession.isNone

theorem available_without_session : ¬ ∀ (plugin : CapturePlugin) (portalConn : Bool) (choices : Nat → Bool) (turns : List (Turn Call)) (k : Nat),
    (atTurn plugin portalConn choices turns k).Resting →
      ((atTurn plugin portalConn choices turns k).shared.backendAvailable = true ↔
        (atTurn plugin portalConn choices turns k).shared.portalSession.isSome = true) := by
  intro always
  have passes : Pool.along (CaptureAction.exec {}) (program {}) (fun _ _ => true) availableUnheld
      (Pool.start (new true fun _ => true)) disabledTooLate = true := by
    decide +kernel
  have final : availableUnheld (atTurn {} true (fun _ => true) disabledTooLate disabledTooLate.length) = true := (Pool.along_after passes).2
  simp only [availableUnheld, Bool.and_eq_true, decide_eq_true_eq, Option.isNone_iff_eq_none] at final
  obtain ⟨⟨rest, available⟩, none⟩ := final
  have held := (always {} true (fun _ => true) disabledTooLate disabledTooLate.length rest).mp available
  rw [none] at held
  cases held

end Sample

end InputCapture

end RustConnect
