import RustConnect.PairingTasks
import RustConnect.PairingViews

namespace RustConnect

open Program PairingAction

def Queue.other : Queue → Queue
  | .outgoing => .incoming
  | .incoming => .outgoing

namespace PairingState

/-- No request of the device is live. -/
def Dead (s : PairingState) (d : DeviceId) : Prop :=
  ∀ q request, (s.queue q).lookup d = some request → request.expiredAt s.now = true

end PairingState

/-- How far a task is in a sweep, with what its two passes over the maps have found. -/
inductive SweepPhase
  | idle
  | first (outgoing : Swept)
  | second (outgoing incoming : Swept)
  | counted (outgoing incoming : Swept)

namespace SweepPhase

/-- The ids whose certificates the sweep is going to drop. -/
def reaped : SweepPhase → List DeviceId
  | idle => []
  | first outgoing => outgoing.expired
  | second outgoing incoming => outgoing.expired ++ incoming.expired
  | counted outgoing incoming => outgoing.expired ++ incoming.expired

/-- What the sweep computes from the length that it reads again. -/
def removed (outgoing incoming : Swept) (length : Nat) : Int := (outgoing.before - length) + (incoming.before - incoming.after)

def move : SweepPhase → (action : PairingAction) → action.Answer → Option SweepPhase
  | _, requestRetain .outgoing, swept => some (first swept)
  | first outgoing, requestRetain .incoming, swept => some (second outgoing swept)
  | _, requestRetain .incoming, _ => none
  | second outgoing incoming, requestLen .outgoing, length =>
    some (if removed outgoing incoming length ≠ 0 then counted outgoing incoming else idle)
  | counted outgoing incoming, certRemoveAll ids, _ => if ids = outgoing.expired ++ incoming.expired then some idle else none
  | _, certRemoveAll _, _ => none
  | _, _, _ => some idle

theorem follows_cleanup (phase : SweepPhase) :
    Follows move phase PairingHandler.cleanupExpired fun later _ => later = idle := by
  unfold PairingHandler.cleanupExpired
  simp only [PairingHandler.perform, follows_bind, follows_call]
  refine fun outgoing => ⟨first outgoing, by cases phase <;> rfl, fun incoming => ⟨second outgoing incoming, rfl,
    fun length => ⟨_, rfl, ?_⟩⟩⟩
  by_cases quiet : removed outgoing incoming length = 0
  · have none : ¬ ((outgoing.before - length : Int) + (incoming.before - incoming.after)) ≠ 0 := not_not.mpr quiet
    rw [if_neg none, if_neg (not_not.mpr quiet)]
    rfl
  · have some : ((outgoing.before - length : Int) + (incoming.before - incoming.after)) ≠ 0 := quiet
    rw [if_pos some, if_pos quiet]
    exact fun _ => ⟨idle, if_pos rfl, rfl⟩

/-- The actions that are not part of a sweep. -/
def aside : PairingAction → Prop
  | requestRetain _ | certRemoveAll _ => False
  | _ => True

theorem move_aside {action : PairingAction} (outside : aside action) (answer : action.Answer) : move idle action answer = some idle := by
  cases action with
  | requestRetain q => exact outside.elim
  | certRemoveAll ids => exact outside.elim
  | requestLen q => cases q <;> rfl
  | _ => rfl

theorem follows_aside {α : Type} {program : PairingProgram α} {Q : α → Prop} (only : program.Only aside Q) :
    Follows move idle program fun later value => later = idle ∧ Q value :=
  only.follows fun _ outside answer => move_aside outside answer

variable {platform : Platform} {settings : PairingSettings} (d : DeviceId)

theorem admits_aside {action : PairingAction} (inside : action.admits d) : aside action := by
  cases action with
  | requestRetain q => exact inside
  | certRemoveAll ids => exact inside
  | _ => trivial

theorem unpairs_aside {action : PairingAction} (inside : action.unpairs d) : aside action := by
  cases action with
  | requestRetain q => exact inside
  | certRemoveAll ids => exact inside
  | _ => trivial

theorem follows_initiate : Follows move idle (PairingHandler.initiatePairing settings d).run fun _ _ => True := by
  unfold PairingHandler.initiatePairing
  simp only [PairingHandler.isOwnDeviceId, PairingHandler.isPaired, PairingHandler.perform, follows_except_bind,
    follows_except_lift, follows_except_ite, follows_bind, follows_call]
  refine fun own => ⟨idle, rfl, fun _ => trivial, fun _ => (follows_cleanup idle).weaken ?_⟩
  rintro _ - rfl
  refine fun paired => ⟨idle, rfl, fun _ => trivial, fun _ outgoing => ⟨idle, rfl, fun incoming => ⟨idle, rfl,
    fun _ => trivial, fun _ created => ⟨idle, rfl, fun stamp => ⟨idle, rfl, fun _ => ⟨idle, rfl, trivial⟩⟩⟩⟩⟩⟩

theorem follows_receive (timestamp : Option Int) (certDer : Option Bytes) :
    Follows move idle (PairingHandler.receivePairRequestWithCert platform settings d timestamp certDer).run fun _ _ => True := by
  have unpair : Follows move idle (PairingHandler.unpair platform settings d).run fun later _ => later = idle :=
    (follows_aside ((PairingHandler.only_unpair platform settings d).weaken (fun _ => unpairs_aside d) fun _ => id)).weaken
      fun _ _ came => came.1
  have admitted : Follows move idle (PairingHandler.admitPairRequest platform settings d timestamp certDer).run fun _ _ => True :=
    (follows_aside ((PairingHandler.only_admitPairRequest platform settings d timestamp certDer).weaken
      (fun _ => admits_aside d) fun _ => id)).weaken fun _ _ _ => trivial
  have rest : Follows move idle PairingHandler.cleanupExpired fun later _ =>
      Follows move later (PairingHandler.admitPairRequest platform settings d timestamp certDer).run fun _ _ => True := by
    refine (follows_cleanup idle).weaken ?_
    rintro _ - rfl
    exact admitted
  unfold PairingHandler.receivePairRequestWithCert
  simp only [PairingHandler.isOwnDeviceId, PairingHandler.isPaired, PairingHandler.perform, follows_except_bind,
    follows_except_lift, follows_except_ite, follows_bind, follows_call]
  refine fun own => ⟨idle, rfl, fun _ => trivial, fun _ paired => ⟨idle, rfl, fun _ => ?_, fun _ => rest⟩⟩
  refine (follows_attempt _ _).mpr (unpair.weaken ?_)
  rintro _ - rfl
  exact rest

theorem follows_op (op : PairingOp) : Follows move idle (op.program platform settings).run fun _ _ => True := by
  cases op with
  | advance duration => trivial
  | receive d timestamp certDer => exact follows_receive d timestamp certDer
  | asks call =>
    have moves (outside : ∀ action, call.footprint action → aside action) :
        Follows move idle (call.program platform settings).run fun _ _ => True :=
      (follows_aside ((call.only_footprint platform settings).weaken outside fun _ => id)).weaken fun _ _ _ => trivial
    cases call with
    | initiatePairing d =>
      simp only [PairingOp.program, LocalCall.program, follows_except_bind]
      refine (follows_initiate d).weaken fun _ result _ => ?_
      cases result <;> trivial
    | cleanupExpired =>
      simp only [PairingOp.program, LocalCall.program, follows_except_bind, follows_except_lift]
      exact (follows_cleanup idle).weaken fun _ _ _ => trivial
    | setPendingPeerCert d certDer =>
      refine moves ?_
      rintro action rfl
      trivial
    | unpair d => exact moves fun _ => unpairs_aside d
    | _ =>
      refine moves fun action inside => ?_
      cases action with
      | requestRetain q => exact inside
      | certRemoveAll ids => exact inside
      | _ => trivial

end SweepPhase

namespace ExpirySweep

open SweepPhase PairingTasks

variable {platform : Platform} {settings : PairingSettings}

abbrev phaseOf (pool : PairingPool) (task : Nat) : SweepPhase := Pool.reached (timedMove move) .idle pool.trace task

/-- The sweep that the task is in computes the number of the entries that it has dropped, without an underflow. -/
def Counts (pool : PairingPool) (task : Nat) : Prop :=
  ∀ outgoing incoming, phaseOf pool task = .second outgoing incoming → pool.next task = some (.pairing (requestLen .outgoing)) →
    pool.shared.outgoing.len ≤ outgoing.before ∧ incoming.after ≤ incoming.before ∧
      (outgoing.before - pool.shared.outgoing.len) + (incoming.before - incoming.after) =
        outgoing.expired.length + incoming.expired.length

/-- The staged certificates that the sweep drops are those of devices without a live request. -/
def Drops (pool : PairingPool) (task : Nat) : Prop :=
  ∀ ids, pool.next task = some (.pairing (certRemoveAll ids)) →
    ∀ d ∈ ids, (pool.shared.pendingCerts.lookup d).isSome → pool.shared.Dead d

/-- The other tasks leave the sweep alone: the length that it reads again is the one that it left, the device whose request
it drops has no live one in the other map, and gets none until its certificate is dropped. The clock is not set back. -/
structure Unraced (pool : PairingPool) (turn : Turn PairingOp) : Prop where
  length : ∀ task outgoing incoming, turn = .take task → phaseOf pool task = .second outgoing incoming →
    pool.next task = some (.pairing (requestLen .outgoing)) → pool.shared.outgoing.len = outgoing.after
  alone : ∀ task q, turn = .take task → pool.next task = some (.pairing (requestRetain q)) →
    ∀ d ∈ pool.shared.expiredIds q, ∀ request, (pool.shared.queue q.other).lookup d = some request →
      request.expiredAt pool.shared.now = true
  spared : ∀ task q d request, turn = .take task → pool.next task = some (.pairing (requestInsert q d request)) →
    ∀ other, other ≠ task → d ∉ (phaseOf pool other).reaped
  clock : ∀ task duration, turn = .take task → pool.next task = some (.pass duration) → 0 ≤ duration

/-- What a pass over a map has found: the dropped entries make up the difference of the two sizes. -/
def Sized (swept : Swept) : Prop := swept.expired.length + swept.after = swept.before

theorem sized_retain (q : Queue) (s : PairingState) : Sized ((requestRetain q).exec s).1 := by
  show (((s.queue q).entries.filter fun e => e.2.expiredAt s.now).map Sigma.fst).length +
    ((s.queue q).entries.filter fun e => !e.2.expiredAt s.now).length = (s.queue q).entries.length
  rw [List.length_map]
  exact (List.length_eq_length_filter_add fun e : Sigma fun _ : DeviceId => PairingRequest => e.2.expiredAt s.now).symm

def SizedPhase : SweepPhase → Prop
  | .idle => True
  | .first outgoing => Sized outgoing
  | .second outgoing incoming | .counted outgoing incoming => Sized outgoing ∧ Sized incoming

theorem SizedPhase.moves {phase later : SweepPhase} {action : PairingAction} {s : PairingState} (sized : SizedPhase phase)
    (moved : move phase action (action.exec s).1 = some later) : SizedPhase later := by
  cases action with
  | requestRetain q =>
    have swept := sized_retain q s
    cases q with
    | outgoing =>
      obtain rfl : SweepPhase.first _ = later := by cases phase <;> exact Option.some.inj moved
      exact swept
    | incoming =>
      cases phase with
      | first outgoing =>
        obtain rfl := Option.some.inj moved
        exact ⟨sized, swept⟩
      | _ => exact absurd moved nofun
  | requestLen q =>
    cases q with
    | outgoing =>
      cases phase with
      | second outgoing incoming =>
        obtain rfl := Option.some.inj moved
        split
        · exact sized
        · trivial
      | _ =>
        obtain rfl := Option.some.inj moved
        trivial
    | incoming => cases phase <;> obtain rfl := Option.some.inj moved <;> trivial
  | certRemoveAll ids =>
    cases phase with
    | counted outgoing incoming =>
      simp only [move] at moved
      split at moved
      · obtain rfl := Option.some.inj moved
        trivial
      · exact absurd moved nofun
    | _ => exact absurd moved nofun
  | _ => cases phase <;> obtain rfl := Option.some.inj moved <;> trivial

theorem dead_kept {d : DeviceId} {s : PairingState} {action : PairingAction} (dead : s.Dead d)
    (other : ∀ q request, action ≠ requestInsert q d request) : (action.exec s).2.Dead d := by
  intro q request found
  rw [PairingHandler.exec_now]
  rcases PairingHandler.request_kept (other q) s with gone | same
  · exact absurd (gone.symm.trans found) nofun
  · exact dead q request (same.symm.trans found)

theorem dead_pass {d : DeviceId} {s : PairingState} (dead : s.Dead d) {duration : Time} (forward : 0 ≤ duration) :
    ({ s with now := s.now + duration } : PairingState).Dead d := by
  intro q request found
  have expired : request.expiredAt s.now = true := dead q request (by cases q <;> exact found)
  simp only [PairingRequest.expiredAt, decide_eq_true_eq] at expired ⊢
  exact Int.lt_of_lt_of_le expired (Int.le_add_of_nonneg_right forward)

/-- The devices whose requests a pass drops have no live one afterwards. -/
theorem dead_retain {q : Queue} {s : PairingState} (alone : ∀ d ∈ s.expiredIds q, ∀ request,
      (s.queue q.other).lookup d = some request → request.expiredAt s.now = true) :
    ∀ d ∈ s.expiredIds q, ((requestRetain q).exec s).2.Dead d := by
  intro d reaped q' request found
  obtain ⟨entry, member, rfl⟩ := List.mem_map.mp reaped
  obtain ⟨inside, expired⟩ := List.mem_filter.mp member
  by_cases same : q' = q
  · subst same
    have before : (s.queue q').lookup entry.1 = some entry.2 := AList.mem_lookup_iff.mpr inside
    have after : (((requestRetain q').exec s).2.queue q').lookup entry.1 = ((s.queue q').lookup entry.1).filter
        (!·.expiredAt s.now) := by
      cases q' <;> exact Table.lookup_retain (fun _ (request : PairingRequest) => !request.expiredAt s.now) entry.1 _
    rw [after, before, Option.filter_some, expired] at found
    exact absurd found nofun
  · have untouched : ((requestRetain q).exec s).2.queue q' = s.queue q.other := by
      cases q <;> cases q' <;> first | exact absurd rfl same | rfl
    have clock : ((requestRetain q).exec s).2.now = s.now := PairingHandler.exec_now _ s
    rw [clock]
    exact alone entry.1 reaped request (untouched ▸ found)

/-- What a sweep has dropped stays without a live request while it goes on. -/
structure Kept (s : PairingState) (phases : Nat → SweepPhase) (trace : List (Nat × Σ action, TimedAction.Answer action)) :
    Prop where
  sized : ∀ task, SizedPhase (phases task)
  dead : ∀ task, ∀ d ∈ (phases task).reaped, s.Dead d
  reached : ∀ task, Pool.reached (timedMove move) .idle trace task = phases task

/-- The ids that a task is going to drop after its action are those it had before, or those its pass has just found. -/
theorem reaped_moves {phase later : SweepPhase} {action : PairingAction} {answer : action.Answer}
    (moved : move phase action answer = some later) {d : DeviceId} (member : d ∈ later.reaped) :
    d ∈ phase.reaped ∨ ∃ q : Queue, ∃ same : action = requestRetain q, d ∈ (same ▸ answer : (requestRetain q).Answer).expired := by
  cases action with
  | requestRetain q =>
    cases q with
    | outgoing =>
      obtain rfl : SweepPhase.first answer = later := by cases phase <;> exact Option.some.inj moved
      exact .inr ⟨.outgoing, rfl, member⟩
    | incoming =>
      cases phase with
      | first outgoing =>
        obtain rfl := Option.some.inj moved
        rcases List.mem_append.mp member with old | new
        · exact .inl old
        · exact .inr ⟨.incoming, rfl, new⟩
      | _ => exact absurd moved nofun
  | requestLen q =>
    cases q with
    | outgoing =>
      cases phase with
      | second outgoing incoming =>
        obtain rfl := Option.some.inj moved
        split at member
        · exact .inl member
        · exact absurd member List.not_mem_nil
      | _ =>
        obtain rfl := Option.some.inj moved
        exact absurd member List.not_mem_nil
    | incoming => cases phase <;> obtain rfl := Option.some.inj moved <;> exact absurd member List.not_mem_nil
  | certRemoveAll ids =>
    cases phase with
    | counted outgoing incoming =>
      simp only [move] at moved
      split at moved
      · obtain rfl := Option.some.inj moved
        exact absurd member List.not_mem_nil
      · exact absurd moved nofun
    | _ => exact absurd moved nofun
  | _ => cases phase <;> obtain rfl := Option.some.inj moved <;> exact absurd member List.not_mem_nil

theorem idle_of_insert {phase later : SweepPhase} {q : Queue} {d : DeviceId} {request : PairingRequest}
    (moved : move phase (requestInsert q d request) () = some later) : later = .idle := by
  cases phase <;> exact (Option.some.inj moved).symm

theorem Kept.acts {pool : PairingPool} {phases : Nat → SweepPhase} {task : Nat} {action : PairingAction} {later : SweepPhase}
    (kept : Kept pool.shared phases pool.trace) (next : pool.next task = some (.pairing action))
    (unraced : Unraced pool (.take task)) (moved : move (phases task) action (action.exec pool.shared).1 = some later) (other : Nat)
    (d : DeviceId) (member : d ∈ (Function.update phases task later other).reaped) : (action.exec pool.shared).2.Dead d := by
  by_cases same : other = task
  · subst same
    rw [Function.update_self] at member
    have insertsNot : ∀ q request, action ≠ requestInsert q d request := by
      rintro q request rfl
      rw [idle_of_insert moved] at member
      exact absurd member List.not_mem_nil
    rcases reaped_moves moved member with old | ⟨q, rfl, new⟩
    · exact dead_kept (kept.dead other d old) insertsNot
    · exact dead_retain (unraced.alone other q rfl next) d new
  · rw [Function.update_of_ne same] at member
    refine dead_kept (kept.dead other d member) ?_
    rintro q request rfl
    refine unraced.spared task q d request rfl next other same ?_
    rw [phaseOf, kept.reached]
    exact member

theorem invariant (platform : Platform) (settings : PairingSettings) :
    Pool.Invariant (timedMove move) SweepPhase.idle (fun _ => True) TimedAction.exec (program platform settings) Unraced Kept where
  follows op := (follows_program (fun op => follows_op op) op).weaken fun _ _ _ => trivial
  kept := by
    intro pool phases task action later kept next unraced moved
    have reached := Pool.reached_append kept.reached moved
    cases action with
    | pass duration =>
      obtain rfl : phases task = later := Option.some.inj moved
      rw [Function.update_eq_self] at reached ⊢
      refine ⟨kept.sized, fun task d member => ?_, reached⟩
      exact dead_pass (kept.dead task d member) (unraced.clock _ duration rfl next)
    | pairing action =>
      refine ⟨?_, kept.acts next unraced moved, reached⟩
      rw [Function.forall_update_iff phases (fun _ phase => SizedPhase phase)]
      exact ⟨(kept.sized task).moves moved, fun other _ => kept.sized other⟩

/-- The certificates are dropped after the count, for the ids that the two passes have found. -/
theorem reaped_of_drop {phase later : SweepPhase} {ids : List DeviceId} (moved : move phase (certRemoveAll ids) () = some later) :
    ids = phase.reaped := by
  cases phase with
  | counted outgoing incoming =>
    simp only [move] at moved
    split at moved
    · assumption
    · exact absurd moved nofun
  | _ => exact absurd moved nofun

/-- A sweep that no other task races counts what it drops, and drops certificates of devices without a live request only. -/
theorem sweep_safe {start : PairingState} {turns : List (Turn PairingOp)} (unraced : ∀ k turn, turns[k]? = some turn →
      Unraced (atTurn platform settings start turns k) turn) {k task : Nat} (here : turns[k]? = some (.take task)) :
    Counts (atTurn platform settings start turns k) task ∧ Drops (atTurn platform settings start turns k) task := by
  obtain ⟨phases, phased, kept⟩ := (invariant platform settings).run
    ⟨fun _ => trivial, fun _ _ member => absurd member List.not_mem_nil, fun _ => rfl⟩ unraced k
  have now := unraced k (.take task) here
  refine ⟨fun outgoing incoming phase next => ?_, fun ids next d member _ => ?_⟩
  · have found : phases task = .second outgoing incoming := (kept.reached task).symm.trans phase
    have sized := kept.sized task
    rw [found] at sized
    obtain ⟨first, second⟩ : outgoing.expired.length + outgoing.after = outgoing.before ∧
      incoming.expired.length + incoming.after = incoming.before := sized
    rw [now.length task outgoing incoming rfl phase next]
    omega
  · obtain ⟨later, moved⟩ := phased.moves next ()
    exact kept.dead task d (reaped_of_drop moved ▸ member)

/-- The condition for tasks with small numbers, as a check. -/
def unracedCheck (pool : PairingPool) : Turn PairingOp → Bool
  | .spawn _ => true
  | .take task =>
    pool.trace.all (·.1 < 4) &&
      match pool.next task with
      | some (.pairing (requestLen .outgoing)) =>
        match phaseOf pool task with
        | .second outgoing _ => pool.shared.outgoing.len == outgoing.after
        | _ => true
      | some (.pairing (requestRetain q)) =>
        (pool.shared.expiredIds q).all fun d => ((pool.shared.queue q.other).lookup d).all (·.expiredAt pool.shared.now)
      | some (.pairing (requestInsert _ d _)) => [0, 1, 2, 3].all fun other => other == task || d ∉ (phaseOf pool other).reaped
      | some (.pass duration) => decide (0 ≤ duration)
      | _ => true

theorem unraced_of_check {pool : PairingPool} {turn : Turn PairingOp} (passes : unracedCheck pool turn = true) : Unraced pool turn := by
  have split (task : Nat) (same : turn = .take task) := (Bool.and_eq_true _ _).mp (same ▸ passes : unracedCheck pool (.take task) = true)
  refine ⟨?_, ?_, ?_, ?_⟩
  · intro task outgoing incoming same phase next
    have here := (split task same).2
    simp only [next, phase] at here
    exact beq_iff_eq.mp here
  · intro task q same next d member request found
    have here := (split task same).2
    simp only [next] at here
    have all := List.all_eq_true.mp here d member
    rw [found] at all
    exact all
  · intro task q d request same next other apart
    obtain ⟨small, here⟩ := split task same
    simp only [next] at here
    by_cases known : other < 4
    · have listed : other ∈ [0, 1, 2, 3] := by
        simp only [List.mem_cons, List.not_mem_nil, or_false]
        omega
      simpa [apart] using List.all_eq_true.mp here other listed
    · have absent : ∀ entry ∈ pool.trace, entry.1 ≠ other := by
        intro entry member same
        have early : entry.1 < 4 := by simpa using List.all_eq_true.mp small entry member
        omega
      rw [phaseOf, Pool.reached_absent absent]
      exact List.not_mem_nil
  · intro task duration same next
    have here := (split task same).2
    simp only [next] at here
    exact of_decide_eq_true here

def turnsOf (task : Nat) (op : PairingOp) (actions : Nat) : List (Turn PairingOp) := .spawn op :: List.replicate actions (.take task)

/-- A request with its certificate comes in, and is swept when it has expired. -/
def staleTurns : List (Turn PairingOp) :=
  turnsOf 0 (.receive samplePhone (some 5) (some [0x30, 0x00])) 13 ++ turnsOf 1 (.advance (seconds 26)) 1 ++
  turnsOf 2 (.asks .cleanupExpired) 3 ++ [Turn.take 2]

def dropsPhone (pool : PairingPool) : Bool :=
  match pool.next 2 with
  | some (.pairing (certRemoveAll ids)) => ids = [samplePhone] && (pool.shared.pendingCerts.lookup samplePhone).isSome
  | _ => false

theorem stale_request_swept : dropsPhone (atTurn samplePlatform {} {} staleTurns 20) = true ∧
    Counts (atTurn samplePlatform {} {} staleTurns 19) 2 ∧ Drops (atTurn samplePlatform {} {} staleTurns 20) 2 := by
  have passes : Pool.along TimedAction.exec (program samplePlatform {}) unracedCheck (fun _ => true) (Pool.start {})
    staleTurns = true := by decide +kernel
  have unraced (k : Nat) (turn : Turn PairingOp) (here : staleTurns[k]? = some turn) :=
    unraced_of_check ((Pool.along_after passes).1 k turn here)
  refine ⟨by decide +kernel, (sweep_safe unraced rfl).1, (sweep_safe unraced rfl).2⟩

/-- A request of ours is put in between a sweep's pass over the outgoing ones and its second look at their number. -/
def countingTurns : List (Turn PairingOp) :=
  turnsOf 0 (.asks .cleanupExpired) 1 ++ turnsOf 1 (.asks (.initiatePairing samplePhone)) 10 ++ [Turn.take 0, .take 0]

def underflows (pool : PairingPool) : Bool :=
  match phaseOf pool 0, pool.next 0 with
  | .second outgoing _, some (.pairing (requestLen .outgoing)) => decide (outgoing.before < pool.shared.outgoing.len)
  | _, _ => false

/-- The phone asks, we ask it back a second later, and its request has expired while ours is live. -/
def crossedTurns : List (Turn PairingOp) :=
  turnsOf 0 (.receive samplePhone (some 5) (some [0x30, 0x00])) 12 ++ turnsOf 1 (.advance (seconds 1)) 1 ++
  turnsOf 2 (.asks (.initiatePairing samplePhone)) 10 ++ turnsOf 3 (.advance (seconds 25)) 1 ++
  turnsOf 4 (.asks .cleanupExpired) 3 ++ [Turn.take 4]

def dropsLive (pool : PairingPool) : Bool :=
  match pool.next 4 with
  | some (.pairing (certRemoveAll ids)) =>
    ids.contains samplePhone && (pool.shared.pendingCerts.lookup samplePhone).isSome &&
      (pool.shared.outgoing.lookup samplePhone).any (!·.expiredAt pool.shared.now)
  | _ => false

theorem not_counts_of_underflows {pool : PairingPool} (found : underflows pool = true) : ¬ Counts pool 0 := by
  intro counts
  unfold underflows at found
  split at found
  · rename_i outgoing incoming phase next
    have more := of_decide_eq_true found
    have fewer := (counts outgoing incoming phase next).1
    omega
  · exact absurd found nofun

theorem not_drops_of_live {pool : PairingPool} (found : dropsLive pool = true) : ¬ Drops pool 4 := by
  intro drops
  unfold dropsLive at found
  split at found
  · rename_i ids next
    simp only [Bool.and_eq_true, Option.any_eq_true] at found
    obtain ⟨⟨listed, staged⟩, request, waiting, live⟩ := found
    have expired := drops ids next samplePhone (by simpa using listed) staged .outgoing request waiting
    rw [expired] at live
    exact absurd live nofun
  · exact absurd found nofun

theorem sweep_miscounts : ¬ Counts (atTurn samplePlatform {} {} countingTurns 14) 0 ∧
    ¬ Drops (atTurn samplePlatform {} {} crossedTurns 32) 4 :=
  ⟨not_counts_of_underflows (by decide +kernel), not_drops_of_live (by decide +kernel)⟩

end ExpirySweep

end RustConnect
