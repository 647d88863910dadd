import RustConnect.PairingTasks

namespace Table

variable {κ α : Type} [DecidableEq κ]

theorem len_erase_le (k : κ) (t : Table κ α) : len (t.erase k) ≤ t.len := (List.kerase_sublist k t.entries).length_le

theorem len_insert_le (k : κ) (v : α) (t : Table κ α) : len (t.insert k v) ≤ t.len + 1 :=
  Nat.succ_le_succ (len_erase_le k t)

/-- An entry that replaces another one adds nothing. -/
theorem len_insert_present {k : κ} {t : Table κ α} (present : t.lookup k ≠ none) (v : α) : len (t.insert k v) = t.len := by
  have member : k ∈ t.entries.keys := by
    by_contra absent
    exact present (List.dlookup_eq_none.mpr absent)
  have keys := congrArg List.length (List.keys_kerase (a := k) (l := t.entries))
  rw [List.length_erase_of_mem member] at keys
  have positive : 0 < t.entries.keys.length := List.length_pos_of_mem member
  simp only [List.keys, List.length_map] at keys positive
  show (List.kerase k t.entries).length + 1 = t.entries.length
  omega

end Table

namespace RustConnect

open Program PairingAction

def PairingState.pending (s : PairingState) : Nat := s.outgoing.len + s.incoming.len

/-- Where a task stands with the limit: it has just swept, it has read the first length, or it has found room. -/
inductive CountPhase
  | idle
  | swept
  | half (outgoing : Nat)
  | room
  deriving DecidableEq

namespace CountPhase

/-- The length that the sweep reads again is not part of a count. -/
def move (max : Nat) : CountPhase → (action : PairingAction) → action.Answer → Option CountPhase
  | room, requestInsert _ _ _, _ => some idle
  | _, requestInsert _ _ _, _ => none
  | room, now, _ => some room
  | _, requestRetain .incoming, _ => some swept
  | swept, requestLen .outgoing, _ => some idle
  | _, requestLen .outgoing, n => some (half n)
  | half n, requestLen .incoming, m => some (if n + m < max then room else idle)
  | _, _, _ => some idle

/-- A new request in this map would not be seen by the count. -/
def exposed : CountPhase → Queue → Bool
  | room, _ => true
  | half _, .outgoing => true
  | _, _ => false

variable {max : Nat}

/-- Only an insertion needs a count before it. -/
theorem move_other {action : PairingAction} (other : ∀ q d request, action ≠ requestInsert q d request) (phase : CountPhase)
    (answer : action.Answer) : ∃ later, move max phase action answer = some later := by
  cases action with
  | requestInsert q d request => exact absurd rfl (other q d request)
  | requestRetain q => cases q <;> cases phase <;> exact ⟨_, rfl⟩
  | requestLen q => cases q <;> cases phase <;> exact ⟨_, rfl⟩
  | _ => cases phase <;> exact ⟨_, rfl⟩

theorem follows_other {α : Type} {program : PairingProgram α} {Q : α → Prop}
    (only : program.Only (fun action => ∀ q d request, action ≠ requestInsert q d request) Q) (phase : CountPhase) :
    Follows (move max) phase program fun _ _ => True := by
  induction program generalizing phase with
  | done value => trivial
  | act action next ih =>
    intro answer
    obtain ⟨later, moved⟩ := move_other only.1 phase answer
    exact ⟨later, moved, ih answer (only.2 answer) later⟩

/-- Whatever a task has done before, a sweep leaves it without a count. -/
theorem follows_cleanup (phase : CountPhase) :
    Follows (move max) phase PairingHandler.cleanupExpired fun later _ => later = idle := by
  unfold PairingHandler.cleanupExpired
  simp only [PairingHandler.perform, follows_bind, follows_call]
  refine fun outgoing => ⟨idle, by cases phase <;> rfl, fun incoming => ⟨swept, rfl, fun length => ⟨idle, rfl, ?_⟩⟩⟩
  split
  · exact fun _ => ⟨idle, rfl, rfl⟩
  · rfl

variable {platform : Platform} {settings : PairingSettings} (d : DeviceId)

theorem follows_initiate : Follows (move settings.maxPending) idle (PairingHandler.initiatePairing settings d).run fun _ _ => True := by
  unfold PairingHandler.initiatePairing
  simp only [PairingHandler.isOwnDeviceId, PairingHandler.isPaired, PairingHandler.perform, follows_except_bind,
    follows_except_lift, follows_except_ite, follows_bind, follows_call]
  refine fun own => ⟨idle, rfl, fun _ => trivial, fun _ => (follows_cleanup idle).weaken ?_⟩
  rintro _ - rfl
  refine fun paired => ⟨idle, rfl, fun _ => trivial, fun _ outgoing => ⟨half outgoing, rfl, fun incoming => ⟨_, rfl, ?_⟩⟩⟩
  refine ⟨fun _ => trivial, fun space => ?_⟩
  rw [if_pos (Nat.not_le.mp space)]
  exact fun _ => ⟨room, rfl, fun _ => ⟨room, rfl, fun _ => ⟨idle, rfl, trivial⟩⟩⟩

/-- The footprints without an insertion of a request. -/
theorem accepts_other {action : PairingAction} (inside : action.accepts d) : ∀ q e request, action ≠ requestInsert q e request := by
  rintro q e request rfl
  exact inside

theorem unpairs_other {action : PairingAction} (inside : action.unpairs d) : ∀ q e request, action ≠ requestInsert q e request := by
  rintro q e request rfl
  exact inside

theorem follows_admit (timestamp : Option Int) (certDer : Option Bytes) :
    Follows (move settings.maxPending) idle (PairingHandler.admitPairRequest platform settings d timestamp certDer).run
      fun _ _ => True := by
  have accept (phase : CountPhase) : Follows (move settings.maxPending) phase
      (PairingHandler.acceptPairing platform settings d).run fun _ _ => True :=
    follows_other ((PairingHandler.only_acceptPairing platform settings d).weaken (fun _ => accepts_other d) fun _ => id) phase
  unfold PairingHandler.admitPairRequest
  simp only [PairingHandler.perform, follows_except_bind, follows_except_lift, follows_except_ite, follows_call]
  refine fun outgoing => ⟨idle, rfl, fun _ => ?_, fun _ incoming => ⟨idle, rfl, fun _ => trivial, fun _ size => ?_⟩⟩
  · cases certDer with
    | none => exact accept idle
    | some cert => exact fun _ => ⟨idle, rfl, accept idle⟩
  · refine ⟨half size, rfl, fun others => ⟨_, rfl, fun _ => trivial, fun space => ?_⟩⟩
    rw [if_pos (Nat.not_le.mp space)]
    refine fun _ => ⟨room, rfl, fun _ => ⟨idle, rfl, ?_⟩⟩
    cases certDer with
    | none => trivial
    | some cert => exact fun _ => ⟨idle, rfl, trivial⟩

theorem follows_receive (timestamp : Option Int) (certDer : Option Bytes) :
    Follows (move settings.maxPending) idle (PairingHandler.receivePairRequestWithCert platform settings d timestamp certDer).run
      fun _ _ => True := by
  have unpair (phase : CountPhase) : Follows (move settings.maxPending) phase
      (PairingHandler.unpair platform settings d).run fun _ _ => True :=
    follows_other ((PairingHandler.only_unpair platform settings d).weaken (fun _ => unpairs_other d) fun _ => id) phase
  have sweep (phase : CountPhase) : Follows (move settings.maxPending) phase
      (do let _ ← (PairingHandler.cleanupExpired : PairingProgram Int)
          PairingHandler.admitPairRequest platform settings d timestamp certDer : ExceptT Error PairingProgram Unit).run
      fun _ _ => True := by
    simp only [follows_except_bind, follows_except_lift]
    refine (follows_cleanup phase).weaken ?_
    rintro _ - rfl
    exact follows_admit d timestamp certDer
  unfold PairingHandler.receivePairRequestWithCert
  simp only [PairingHandler.isOwnDeviceId, PairingHandler.isPaired, PairingHandler.perform, follows_except_bind,
    follows_except_lift, follows_except_ite, follows_bind, follows_call]
  refine fun own => ⟨idle, rfl, fun _ => trivial, fun _ paired => ⟨idle, rfl, fun _ => ?_, fun _ => ?_⟩⟩
  · refine (follows_attempt _ _).mpr ((unpair idle).weaken fun later _ _ => ?_)
    have rest := sweep later
    simpa only [follows_except_bind, follows_except_lift] using rest
  · have rest := sweep idle
    simpa only [follows_except_bind, follows_except_lift] using rest

theorem follows_op (op : PairingOp) : Follows (move settings.maxPending) idle (op.program platform settings).run fun _ _ => True := by
  have other (call : LocalCall) (none : ∀ action, call.footprint action → ∀ q e request, action ≠ requestInsert q e request) :
      Follows (move settings.maxPending) idle (call.program platform settings).run fun _ _ => True :=
    follows_other ((call.only_footprint platform settings).weaken none fun _ => id) idle
  cases op with
  | advance duration => trivial
  | receive d timestamp certDer => exact follows_receive d timestamp certDer
  | asks call =>
    have moves := other call
    cases call with
    | initiatePairing d =>
      simp only [PairingOp.program, LocalCall.program, follows_except_bind]
      refine (follows_initiate d).weaken fun _ result _ => ?_
      cases result <;> trivial
    | setPendingPeerCert d certDer =>
      refine moves fun action inside q e request => ?_
      rw [show action = certInsert d certDer from inside]
      intro same
      cases same
    | _ =>
      refine moves ?_
      rintro action inside q e request rfl
      exact inside

end CountPhase

namespace PendingBound

open CountPhase PairingTasks

variable {platform : Platform} {settings : PairingSettings} {max : Nat}

/-- The maps only grow by an insertion. -/
theorem len_kept {action : PairingAction} (other : ∀ q d request, action ≠ requestInsert q d request) (s : PairingState) :
    (action.exec s).2.outgoing.len ≤ s.outgoing.len ∧ (action.exec s).2.incoming.len ≤ s.incoming.len := by
  cases action with
  | requestInsert q d request => exact absurd rfl (other q d request)
  | requestRemove q d =>
    cases q with
    | outgoing => exact ⟨Table.len_erase_le d s.outgoing, Nat.le_refl _⟩
    | incoming => exact ⟨Nat.le_refl _, Table.len_erase_le d s.incoming⟩
  | requestRetain q =>
    cases q with
    | outgoing => exact ⟨Table.len_retain_le _ s.outgoing, Nat.le_refl _⟩
    | incoming => exact ⟨Nat.le_refl _, Table.len_retain_le _ s.incoming⟩
  | _ => exact ⟨Nat.le_refl _, Nat.le_refl _⟩

/-- What a task has counted still bounds the maps. -/
def Counted (max : Nat) (s : PairingState) : CountPhase → Prop
  | .half n => s.outgoing.len ≤ n
  | .room => s.pending < max
  | _ => True

theorem Counted.fewer {s t : PairingState} {phase : CountPhase} (counted : Counted max s phase)
    (fewer : t.outgoing.len ≤ s.outgoing.len ∧ t.incoming.len ≤ s.incoming.len) : Counted max t phase := by
  cases phase with
  | half n => exact Nat.le_trans fewer.1 counted
  | room =>
    have before : s.outgoing.len + s.incoming.len < max := counted
    show t.outgoing.len + t.incoming.len < max
    omega
  | _ => trivial

/-- A task that counts finds what is there. -/
theorem Counted.moves {s : PairingState} {phase later : CountPhase} {action : PairingAction} (counted : Counted max s phase)
    (moved : move max phase action (action.exec s).1 = some later) (other : ∀ q d request, action ≠ requestInsert q d request) :
    Counted max (action.exec s).2 later := by
  cases action with
  | requestInsert q d request => exact absurd rfl (other q d request)
  | requestLen q =>
    cases q with
    | outgoing =>
      cases phase with
      | swept =>
        obtain rfl := Option.some.inj moved
        trivial
      | _ =>
        obtain rfl := Option.some.inj moved
        exact Nat.le_refl s.outgoing.len
    | incoming =>
      cases phase with
      | half n =>
        obtain rfl := Option.some.inj moved
        have before : s.outgoing.len ≤ n := counted
        split
        · rename_i space
          have room : n + s.incoming.len < max := space
          show s.outgoing.len + s.incoming.len < max
          omega
        · trivial
      | _ =>
        obtain rfl := Option.some.inj moved
        trivial
  | now =>
    cases phase with
    | room =>
      obtain rfl := Option.some.inj moved
      exact counted
    | _ =>
      obtain rfl := Option.some.inj moved
      trivial
  | requestRetain q =>
    cases q <;> cases phase <;> obtain rfl := Option.some.inj moved <;> trivial
  | _ => cases phase <;> obtain rfl := Option.some.inj moved <;> trivial

structure Bounded (max : Nat) (s : PairingState) (phases : Nat → CountPhase) (trace : List (Nat × Σ action, TimedAction.Answer action)) :
    Prop where
  total : s.pending ≤ max
  counted : ∀ task, Counted max s (phases task)
  reached : ∀ task, Pool.reached (timedMove (move max)) .idle trace task = phases task

/-- A new request is inserted only while no other task is between its count and its own insertion. -/
def Undisturbed (max : Nat) (pool : PairingPool) (turn : Turn PairingOp) : Prop :=
  ∀ task, turn = .take task → ∀ q d request, pool.next task = some (.pairing (requestInsert q d request)) →
    (pool.shared.queue q).lookup d = none →
    ∀ other, other ≠ task → (Pool.reached (timedMove (move max)) .idle pool.trace other).exposed q = false

/-- An insertion comes after a count that found room. -/
theorem room_of_insert {phase later : CountPhase} {q : Queue} {d : DeviceId} {request : PairingRequest}
    (moved : move max phase (requestInsert q d request) () = some later) : phase = .room ∧ later = .idle := by
  cases phase with
  | room => exact ⟨rfl, (Option.some.inj moved).symm⟩
  | _ => exact absurd moved nofun

theorem pending_insert (q : Queue) (d : DeviceId) (request : PairingRequest) (s : PairingState) :
    ((requestInsert q d request).exec s).2.pending ≤ s.pending + 1 := by
  cases q with
  | outgoing =>
    have grown := Table.len_insert_le d request s.outgoing
    show Table.len (s.outgoing.insert d request) + s.incoming.len ≤ s.outgoing.len + s.incoming.len + 1
    omega
  | incoming =>
    have grown := Table.len_insert_le d request s.incoming
    show s.outgoing.len + Table.len (s.incoming.insert d request) ≤ s.outgoing.len + s.incoming.len + 1
    omega

/-- A task whose count does not look at the map, or to which the request is not new, keeps its count. -/
theorem Counted.insert {s : PairingState} {phase : CountPhase} {q : Queue} {d : DeviceId} {request : PairingRequest}
    (counted : Counted max s phase) (apart : (s.queue q).lookup d = none → phase.exposed q = false) :
    Counted max ((requestInsert q d request).exec s).2 phase := by
  by_cases new : (s.queue q).lookup d = none
  · have unexposed := apart new
    cases phase with
    | room => exact absurd unexposed nofun
    | half n =>
      cases q with
      | outgoing => exact absurd unexposed nofun
      | incoming => exact counted
    | _ => trivial
  · refine counted.fewer ?_
    cases q with
    | outgoing => exact ⟨Nat.le_of_eq (Table.len_insert_present new request), Nat.le_refl _⟩
    | incoming => exact ⟨Nat.le_refl _, Nat.le_of_eq (Table.len_insert_present new request)⟩

theorem invariant (platform : Platform) (settings : PairingSettings) :
    Pool.Invariant (timedMove (move settings.maxPending)) CountPhase.idle (fun _ => True) TimedAction.exec
      (program platform settings) (Undisturbed settings.maxPending) (Bounded settings.maxPending) where
  follows op := (follows_program (fun op => follows_op op) op).weaken fun _ _ _ => trivial
  kept := by
    intro pool phases task action later bounded next permission moved
    have reached := Pool.reached_append bounded.reached moved
    cases action with
    | pass duration =>
      obtain rfl : phases task = later := Option.some.inj moved
      rw [Function.update_eq_self] at reached ⊢
      exact ⟨bounded.total, bounded.counted, reached⟩
    | pairing action =>
      by_cases inserts : ∃ q d request, action = requestInsert q d request
      · obtain ⟨q, d, request, rfl⟩ := inserts
        obtain ⟨found, rfl⟩ := room_of_insert moved
        have room : pool.shared.pending < settings.maxPending := by
          have here := bounded.counted task
          rw [found] at here
          exact here
        refine ⟨?_, ?_, reached⟩
        · have grown := pending_insert q d request pool.shared
          show ((requestInsert q d request).exec pool.shared).2.pending ≤ _
          omega
        · rw [Function.forall_update_iff phases (fun _ phase => Counted settings.maxPending _ phase)]
          refine ⟨trivial, fun other apart => (bounded.counted other).insert fun new => ?_⟩
          rw [← bounded.reached other]
          exact permission task rfl q d request next new other apart
      · have other : ∀ q d request, action ≠ requestInsert q d request := fun q d request same => inserts ⟨q, d, request, same⟩
        have fewer := len_kept other pool.shared
        refine ⟨?_, ?_, reached⟩
        · have before : pool.shared.outgoing.len + pool.shared.incoming.len ≤ settings.maxPending := bounded.total
          show (action.exec pool.shared).2.outgoing.len + (action.exec pool.shared).2.incoming.len ≤ _
          omega
        · rw [Function.forall_update_iff phases (fun _ phase => Counted settings.maxPending _ phase)]
          exact ⟨(bounded.counted task).moves moved other, fun task _ => (bounded.counted task).fewer fewer⟩

/-- Where no request is put in between another task's count and its insertion, the limit holds in every state. -/
theorem pending_bounded {start : PairingState} {turns : List (Turn PairingOp)} (few : start.pending ≤ settings.maxPending)
    (undisturbed : ∀ k turn, turns[k]? = some turn →
      Undisturbed settings.maxPending (atTurn platform settings start turns k) turn) (k : Nat) :
    (atTurn platform settings start turns k).shared.pending ≤ settings.maxPending := by
  obtain ⟨phases, -, bounded⟩ := (invariant platform settings).run ⟨few, fun _ => trivial, fun _ => rfl⟩ undisturbed k
  exact bounded.total

/-- The condition for two tasks, as a check. -/
def calm (max : Nat) (pool : PairingPool) (turn : Turn PairingOp) : Bool :=
  pool.trace.all (·.1 < 2) &&
    match turn with
    | .spawn _ => true
    | .take task =>
      match pool.next task with
      | some (.pairing (requestInsert q _ _)) =>
        [0, 1].all fun other => other == task || !(Pool.reached (timedMove (move max)) .idle pool.trace other).exposed q
      | _ => true

theorem undisturbed_of_calm {pool : PairingPool} {turn : Turn PairingOp} (calm : calm max pool turn = true) :
    Undisturbed max pool turn := by
  obtain ⟨two, room⟩ := (Bool.and_eq_true _ _).mp calm
  intro task same q d request next _ other apart
  subst same
  simp only [next] at room
  by_cases known : other < 2
  · have listed : other ∈ [0, 1] := by
      simp only [List.mem_cons, List.not_mem_nil, or_false]
      omega
    have here := List.all_eq_true.mp room other listed
    simpa [apart] using here
  · have absent : ∀ entry ∈ pool.trace, entry.1 ≠ other := by
      intro entry member same
      have early : entry.1 < 2 := by simpa using List.all_eq_true.mp two entry member
      omega
    rw [Pool.reached_absent absent]
    rfl

def initiates (first : Nat) (devices : List DeviceId) : List (Turn PairingOp) :=
  (devices.mapIdx fun i d => .spawn (.asks (.initiatePairing d)) :: List.replicate 10 (.take (first + i))).flatten

/-- Two requests, one after the other. -/
def calmTurns : List (Turn PairingOp) := initiates 0 ["tablet", "phone"]

theorem calm_requests_bounded :
    (atTurn samplePlatform { maxPending := 1 } {} calmTurns calmTurns.length).shared.pending ≤ 1 := by
  have passes : Pool.along TimedAction.exec (program samplePlatform { maxPending := 1 }) (calm 1) (fun _ => true)
    (Pool.start {}) calmTurns = true := by decide +kernel
  exact @pending_bounded samplePlatform { maxPending := 1 } {} calmTurns (by decide)
    (fun k turn here => undisturbed_of_calm ((Pool.along_after passes).1 k turn here)) _

/-- Nine requests wait; two tasks both count before either of them inserts. -/
def racingTurns : List (Turn PairingOp) :=
  initiates 0 ["a", "b", "c", "d", "e", "f", "g", "h", "i"] ++ ([.spawn (.asks (.initiatePairing "tablet")),
    .spawn (.asks (.initiatePairing "phone"))] : List (Turn PairingOp)) ++ List.replicate 9 (Turn.take 9) ++
  List.replicate 9 (Turn.take 10) ++ [Turn.take 9, .take 10]

def overflows (pool : PairingPool) : Bool := pool.shared.pending == 11

theorem racing_requests_overflow :
    ¬ (atTurn samplePlatform {} {} racingTurns racingTurns.length).shared.pending ≤ PairingSettings.maxPending {} := by
  have passes : Pool.along TimedAction.exec (program samplePlatform {}) (fun _ _ => true) overflows (Pool.start {})
    racingTurns = true := by decide +kernel
  have eleven : (atTurn samplePlatform {} {} racingTurns racingTurns.length).shared.pending = 11 :=
    beq_iff_eq.mp (Pool.along_after passes).2
  rw [eleven]
  decide

end PendingBound

end RustConnect
